import Mathlib.Data.Nat.Digits.Defs
import SassData.Proofs.Json.RoundTrip

/-!
The grammar of JSON text, with the words for infinity and for no value. A text is cut into the parts that it consists
of, and each part stands for a value; how a text is read, and from which end, is left open.
-/

namespace SassData.Json

def Blank (s : List Char) : Prop := ∀ c ∈ s, isSpace c

def HexText (u : List Char) (n : Nat) : Prop :=
  ∃ a b c d, u.map hexDigit? = [some a, some b, some c, some d] ∧ ((a * 16 + b) * 16 + c) * 16 + d = n

def IsHigh (n : Nat) : Prop := 0xD800 ≤ n ∧ n ≤ 0xDBFF

def IsLow (n : Nat) : Prop := 0xDC00 ≤ n ∧ n ≤ 0xDFFF

def StartsLow (t : List Char) : Prop :=
  ∃ u n rest, t = '\\' :: 'u' :: (u ++ rest) ∧ HexText u n ∧ IsLow n

inductive StringText : List Char → List Char → Prop
  | close : StringText ['"'] []
  | plain {c : Char} {t s : List Char} (hc : 0x20 ≤ c.toNat) (hquote : c ≠ '"') (hback : c ≠ '\\')
      (h : StringText t s) : StringText (c :: t) (c :: s)
  | short {c d : Char} {t s : List Char} (hd : shortEscape? c = some d) (h : StringText t s) :
      StringText ('\\' :: c :: t) (d :: s)
  | unit {u t s : List Char} {n : Nat} (hu : HexText u n) (hhigh : ¬ IsHigh n) (hlow : ¬ IsLow n)
      (h : StringText t s) : StringText ('\\' :: 'u' :: (u ++ t)) (Char.ofNat n :: s)
  | pair {u u' t s : List Char} {high low : Nat} (hu : HexText u high) (hhigh : IsHigh high) (hu' : HexText u' low)
      (hlow : IsLow low) (h : StringText t s) :
      StringText ('\\' :: 'u' :: (u ++ '\\' :: 'u' :: (u' ++ t)))
        (Char.ofNat (0x10000 + (high - 0xD800) * 0x400 + (low - 0xDC00)) :: s)
  | half {u t s : List Char} {n : Nat} (hu : HexText u n) (hn : (IsHigh n ∧ ¬ StartsLow t) ∨ IsLow n)
      (h : StringText t s) : StringText ('\\' :: 'u' :: (u ++ t)) (Text.Utf8.replacement :: s)

inductive SignText : List Char → Bool → Prop
  | absent : SignText [] false
  | plus : SignText ['+'] false
  | minus : SignText ['-'] true

inductive ExponentText : List Char → Option Int → Prop
  | absent : ExponentText [] none
  | present {mark : Char} (hmark : mark = 'e' ∨ mark = 'E') {sign ds : List Char} {negative : Bool}
      (hsign : SignText sign negative) (hds : IsDigits ds) :
      ExponentText (mark :: (sign ++ ds)) (some (if negative then -(Numeral.value ds : Int) else Numeral.value ds))

inductive NumberText (negative : Bool) : List Char → Json → Prop
  | int {ds : List Char} (hds : IsWhole ds) (hlength : ds.length ≤ maxDigits) :
      NumberText negative ds (.int (if negative then -(Numeral.value ds : Int) else Numeral.value ds))
  | float {whole e : List Char} {fraction : Option (List Char)} {exponent : Option Int} (hwhole : IsWhole whole)
      (hfraction : ∀ ds ∈ fraction, IsDigits ds) (hexponent : ExponentText e exponent)
      (hany : fraction ≠ none ∨ exponent ≠ none) :
      NumberText negative (whole ++ (fractionText fraction ++ e))
        (.float (Numeral.Parts.toBinary64 negative ⟨whole, fraction.getD [], exponent.getD 0⟩))

def wordTexts : List (List Char × Json) :=
  [(['n', 'u', 'l', 'l'], .null), (['t', 'r', 'u', 'e'], .bool true), (['f', 'a', 'l', 's', 'e'], .bool false),
    (['N', 'a', 'N'], .float .nan),
    (['I', 'n', 'f', 'i', 'n', 'i', 't', 'y'], .float (.infinity false)),
    (['-', 'I', 'n', 'f', 'i', 'n', 'i', 't', 'y'], .float (.infinity true))]

inductive ScalarText : List Char → Json → Prop
  | word {t : List Char} {v : Json} (h : (t, v) ∈ wordTexts) : ScalarText t v
  | number {negative : Bool} {t : List Char} {v : Json} (h : NumberText negative t v) :
      ScalarText (if negative then '-' :: t else t) v

inductive SeriesText {α : Type} (close : Char) (one : List Char → α → Prop) : List Char → List α → Prop
  | last {t w : List Char} {a : α} (h : one t a) (hw : Blank w) : SeriesText close one (t ++ (w ++ [close])) [a]
  | more {t w w' ts : List Char} {a : α} {as : List α} (h : one t a) (hw : Blank w) (hw' : Blank w')
      (hs : SeriesText close one ts as) : SeriesText close one (t ++ (w ++ ',' :: (w' ++ ts))) (a :: as)

inductive MemberText (value : List Char → Json → Prop) : List Char → String × Json → Prop
  | member {k s w w' t : List Char} {v : Json} (hk : StringText k s) (hw : Blank w) (hw' : Blank w') (h : value t v) :
      MemberText value ('"' :: (k ++ (w ++ ':' :: (w' ++ t)))) (String.ofList s, v)

inductive ValueText : List Char → Json → Prop
  | scalar {t : List Char} {v : Json} (h : ScalarText t v) : ValueText t v
  | string {t s : List Char} (h : StringText t s) : ValueText ('"' :: t) (.str (String.ofList s))
  | emptyList {w : List Char} (hw : Blank w) : ValueText ('[' :: (w ++ [']'])) (.arr [])
  | list {w t : List Char} {vs : List Json} (hw : Blank w) (h : SeriesText ']' ValueText t vs) :
      ValueText ('[' :: (w ++ t)) (.arr vs)
  | emptyObject {w : List Char} (hw : Blank w) : ValueText ('{' :: (w ++ ['}'])) (.obj [])
  | object {w t : List Char} {ms : Members} (hw : Blank w) (h : SeriesText '}' (MemberText ValueText) t ms) :
      ValueText ('{' :: (w ++ t)) (.obj (Members.distinct ms))

/-- A text stands for a value: it is a text of the value between blanks. -/
def Denotes (s : List Char) (v : Json) : Prop :=
  ∃ w t w', s = w ++ (t ++ w') ∧ Blank w ∧ ValueText t v ∧ Blank w'

theorem SeriesText.imp {α : Type} {close : Char} {one two : List Char → α → Prop} {t : List Char} {as : List α}
    (h : SeriesText close one t as) (himp : ∀ t' a, t'.length < t.length → one t' a → two t' a) :
    SeriesText close two t as := by
  induction h with
  | last h hw => exact .last (himp _ _ (by simp) h) hw
  | @more t w w' ts a as h hw hw' hs ih =>
    have hhead : t.length < (t ++ (w ++ ',' :: (w' ++ ts))).length := by
      simp only [List.length_append, List.length_cons]
      omega
    have htail : ts.length < (t ++ (w ++ ',' :: (w' ++ ts))).length := by
      simp only [List.length_append, List.length_cons]
      omega
    exact .more (himp _ _ hhead h) hw hw' (ih fun t' a ht' => himp t' a (ht'.trans htail))

theorem SeriesText.forall {α : Type} {close : Char} {one : List Char → α → Prop} {P : α → Prop} {t : List Char}
    {as : List α} (h : SeriesText close one t as) (hone : ∀ t' a, one t' a → P a) : ∀ a ∈ as, P a := by
  induction h with
  | last h hw => simpa using hone _ _ h
  | more h hw hw' hs ih => exact List.forall_mem_cons.mpr ⟨hone _ _ h, ih⟩

theorem ValueText.induct {P : List Char → Json → Prop} (scalar : ∀ {t v}, ScalarText t v → P t v)
    (string : ∀ {t s}, StringText t s → P ('"' :: t) (.str (String.ofList s)))
    (emptyList : ∀ {w}, Blank w → P ('[' :: (w ++ [']'])) (.arr []))
    (list : ∀ {w t vs}, Blank w → SeriesText ']' (fun t v => ValueText t v ∧ P t v) t vs → P ('[' :: (w ++ t)) (.arr vs))
    (emptyObject : ∀ {w}, Blank w → P ('{' :: (w ++ ['}'])) (.obj []))
    (object : ∀ {w t ms}, Blank w → SeriesText '}' (MemberText fun t v => ValueText t v ∧ P t v) t ms →
      P ('{' :: (w ++ t)) (.obj (Members.distinct ms)))
    {t : List Char} {v : Json} (h : ValueText t v) : P t v := by
  induction hn : t.length using Nat.strongRecOn generalizing t v with
  | ind n ih =>
    subst hn
    cases h with
    | scalar h => exact scalar h
    | string h => exact string h
    | emptyList hw => exact emptyList hw
    | list hw h =>
      apply list hw
      apply h.imp
      intro t' v ht' hv
      refine ⟨hv, ih _ ?_ hv rfl⟩
      simp only [List.length_append, List.length_cons]
      omega
    | emptyObject hw => exact emptyObject hw
    | object hw h =>
      apply object hw
      apply h.imp
      rintro _ _ ht' ⟨hk, hwk, hwk', hv⟩
      refine .member hk hwk hwk' ⟨hv, ih _ ?_ hv rfl⟩
      simp only [List.length_append, List.length_cons] at ht' ⊢
      omega

theorem ofDigitChars_lt {ds : List Char} (hds : ∀ c ∈ ds, c.isDigit) (n : Nat) :
    Nat.ofDigitChars 10 ds n < (n + 1) * 10 ^ ds.length := by
  induction ds generalizing n with
  | nil => simp
  | cons d ds ih =>
    obtain ⟨hd, hds⟩ := List.forall_mem_cons.mp hds
    have hdigit : d.toNat - '0'.toNat ≤ 9 := by
      simp only [Char.isDigit, Bool.and_eq_true, decide_eq_true_eq, UInt32.le_iff_toNat_le] at hd
      have hle : d.toNat ≤ 57 := hd.2
      have hzero : '0'.toNat = 48 := rfl
      omega
    have htail := ih hds (10 * n + (d.toNat - '0'.toNat))
    rw [Nat.ofDigitChars_cons]
    apply htail.trans_le
    rw [List.length_cons, Nat.pow_succ, Nat.mul_comm _ 10, ← Nat.mul_assoc]
    apply Nat.mul_le_mul_right
    omega

theorem fitsDigits_value {ds : List Char} (hds : IsDigits ds) (hlength : ds.length ≤ maxDigits) (negative : Bool) :
    fitsDigits (if negative then -(Numeral.value ds : Int) else Numeral.value ds) := by
  have hvalue : Numeral.value ds < 10 ^ ds.length := by simpa [Numeral.value] using ofDigitChars_lt hds.2 0
  have habs : (if negative then -(Numeral.value ds : Int) else Numeral.value ds).natAbs = Numeral.value ds := by
    split_ifs <;> omega
  have hpos : 0 < ds.length := List.length_pos_iff.mpr hds.1
  simp only [fitsDigits, decide_eq_true_eq, habs]
  exact (Nat.toDigits_length 10 _ _ hpos hvalue).trans hlength

theorem ScalarText.inLimits {t : List Char} {v : Json} (h : ScalarText t v) : v.InLimits := by
  cases h with
  | word h =>
    simp only [wordTexts, List.mem_cons, List.not_mem_nil, or_false, Prod.mk.injEq] at h
    rcases h with ⟨-, rfl⟩ | ⟨-, rfl⟩ | ⟨-, rfl⟩ | ⟨-, rfl⟩ | ⟨-, rfl⟩ | ⟨-, rfl⟩
    all_goals trivial
  | number h =>
    cases h with
    | int hds hlength => exact fitsDigits_value hds.1 hlength _
    | float => trivial

theorem ValueText.inLimits {t : List Char} {v : Json} (h : ValueText t v) : v.InLimits := by
  apply ValueText.induct (P := fun _ v => v.InLimits) ScalarText.inLimits _ _ _ _ _ h
  · exact fun _ => trivial
  · exact fun _ => trivial
  · intro w t vs hw h
    exact itemsInLimits_iff.mpr (h.forall fun _ _ hv => hv.2)
  · exact fun _ => trivial
  · intro w t ms hw h
    apply membersInLimits_iff.mpr
    apply Members.forall_mem_distinct
    refine SeriesText.forall (P := fun m => m.2.InLimits) h ?_
    rintro _ _ ⟨-, -, -, hv⟩
    exact hv.2

end SassData.Json
