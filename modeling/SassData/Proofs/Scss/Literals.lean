import Mathlib.Computability.Language
import SassData.Proofs.Scss.Atoms

namespace SassData.Scss

open Computability

def IsHex (c : Char) : Prop :=
  c ∈ "0123456789abcdefABCDEF".toList

def IsLetter (c : Char) : Prop :=
  'A' ≤ c ∧ c ≤ 'Z' ∨ 'a' ≤ c ∧ c ≤ 'z'

def IsPlain (c : Char) : Prop :=
  0x20 ≤ c.toNat ∧ c.toNat ≤ 0x7E

def BeginsName (c : Char) : Prop :=
  IsLetter c ∨ c = '_' ∨ ¬ IsPlain c

def ContinuesName (c : Char) : Prop :=
  IsLetter c ∨ '0' ≤ c ∧ c ≤ '9' ∨ c = '_' ∨ c = '-' ∨ ¬ IsPlain c

def oneOf (P : Char → Prop) : Language Char :=
  {s | ∃ c, P c ∧ s = [c]}

def colors : Language Char :=
  {['#']} * (oneOf IsHex ^ 3 + oneOf IsHex ^ 4 + oneOf IsHex ^ 6 + oneOf IsHex ^ 8)

def identifiers : Language Char :=
  ((1 + {['-']}) * oneOf BeginsName + {['-', '-']}) * (oneOf ContinuesName)∗

def quotedItems (mark : Char) : Language Char :=
  oneOf (fun c => c ≠ mark ∧ c ≠ '\\') + {['\\']} * oneOf (fun _ => True)

def quotedBy (mark : Char) : Language Char :=
  {[mark]} * (quotedItems mark)∗ * {[mark]}

theorem mem_oneOf_pow {P : Char → Prop} {n : ℕ} {s : List Char} :
    s ∈ oneOf P ^ n ↔ s.length = n ∧ ∀ c ∈ s, P c := by
  induction n generalizing s with
  | zero =>
    rw [pow_zero, Language.mem_one, List.length_eq_zero_iff]
    constructor
    · rintro rfl
      exact ⟨rfl, nofun⟩
    · exact And.left
  | succ n ih =>
    rw [pow_succ', Language.mem_mul]
    constructor
    · rintro ⟨_, ⟨c, hc, rfl⟩, t, ht, rfl⟩
      obtain ⟨rfl, hs⟩ := ih.mp ht
      exact ⟨rfl, List.forall_mem_cons.mpr ⟨hc, hs⟩⟩
    · rintro ⟨hlen, hs⟩
      obtain ⟨c, t, rfl⟩ := List.exists_cons_of_length_eq_add_one hlen
      obtain ⟨hc, ht⟩ := List.forall_mem_cons.mp hs
      exact ⟨[c], ⟨c, hc, rfl⟩, t, ih.mpr ⟨Nat.succ.inj hlen, ht⟩, rfl⟩

theorem mem_oneOf_kstar {P : Char → Prop} {s : List Char} : s ∈ (oneOf P)∗ ↔ ∀ c ∈ s, P c := by
  rw [Language.kstar_eq_iSup_pow, Language.mem_iSup]
  constructor
  · rintro ⟨n, hs⟩
    exact (mem_oneOf_pow.mp hs).2
  · intro hs
    exact ⟨s.length, mem_oneOf_pow.mpr ⟨rfl, hs⟩⟩

theorem append_mem_kstar {l : Language Char} {s t : List Char} (hs : s ∈ l) (ht : t ∈ l∗) : s ++ t ∈ l∗ := by
  obtain ⟨ts, rfl, hts⟩ := ht
  exact ⟨s :: ts, rfl, List.forall_mem_cons.mpr ⟨hs, hts⟩⟩

theorem isHexDigit_iff {c : Char} : isHexDigit c ↔ IsHex c := by
  have hdigits : "0123456789abcdefABCDEF".toList = ['0', '1', '2', '3', '4', '5', '6', '7', '8', '9',
      'a', 'b', 'c', 'd', 'e', 'f', 'A', 'B', 'C', 'D', 'E', 'F'] := by decide
  simp only [isHexDigit, IsHex, hdigits, Bool.or_eq_true, Bool.and_eq_true, decide_eq_true_eq, Json.char_le_iff,
    List.mem_cons, List.not_mem_nil, ← Char.toNat_inj, or_false, Char.reduceToNat]
  omega

theorem isExtended_iff {c : Char} : isExtended c ↔ ¬ IsPlain c := by
  simp only [isExtended, IsPlain, Bool.or_eq_true, decide_eq_true_eq, Json.char_lt_iff, Char.reduceToNat]
  omega

theorem isNameStart_iff {c : Char} : isNameStart c ↔ BeginsName c := by
  simp only [isNameStart, BeginsName, IsLetter, Bool.or_eq_true, decide_eq_true_eq, Json.isAlpha_iff, isExtended_iff,
    or_assoc]

theorem isNameChar_iff {c : Char} : isNameChar c ↔ ContinuesName c := by
  simp only [isNameChar, ContinuesName, IsLetter, Bool.or_eq_true, decide_eq_true_eq, Json.isAlphanum_iff,
    isExtended_iff, or_assoc]

theorem afterHexDigits_eq_nil_iff {n : ℕ} {cs : List Char} : afterHexDigits n cs = some [] ↔ cs ∈ oneOf IsHex ^ n := by
  rw [afterHexDigits_eq_some_iff, mem_oneOf_pow]
  simp only [List.append_nil, exists_eq_left', isHexDigit_iff]

theorem afterHexDigits_eq_none {n m : ℕ} {cs : List Char} (hcs : cs ∈ oneOf IsHex ^ m) (hm : m < n) :
    afterHexDigits n cs = none := by
  rw [Option.eq_none_iff_forall_ne_some]
  intro rest h
  obtain ⟨ds, rfl, hds, -⟩ := afterHexDigits_eq_some_iff.mp h
  have hlen := (mem_oneOf_pow.mp hcs).1
  rw [List.length_append] at hlen
  omega

theorem afterColor_eq_nil_iff {s : List Char} : afterColor s = some [] ↔ s ∈ colors := by
  have hcolor (cs : List Char) : afterColor ('#' :: cs) = some [] ↔
      cs ∈ oneOf IsHex ^ 3 + oneOf IsHex ^ 4 + oneOf IsHex ^ 6 + oneOf IsHex ^ 8 := by
    simp only [afterColor, Option.orElse_eq_orElse, Option.orElse_eq_or, Option.or_eq_some_iff,
      afterHexDigits_eq_nil_iff, Language.mem_add]
    constructor
    · rintro (h | ⟨-, h | ⟨-, h | ⟨-, h⟩⟩⟩) <;> simp only [h, true_or, or_true]
    · -- An alternative that comes before the right one asks for more digits than there are.
      rintro (((h | h) | h) | h)
      · exact .inr ⟨afterHexDigits_eq_none h (by decide), .inr ⟨afterHexDigits_eq_none h (by decide),
          .inr ⟨afterHexDigits_eq_none h (by decide), h⟩⟩⟩
      · exact .inr ⟨afterHexDigits_eq_none h (by decide), .inr ⟨afterHexDigits_eq_none h (by decide), .inl h⟩⟩
      · exact .inr ⟨afterHexDigits_eq_none h (by decide), .inl h⟩
      · exact .inl h
  rw [colors, Language.mem_mul]
  constructor
  · intro h
    unfold afterColor at h
    split at h
    · next cs => exact ⟨['#'], rfl, cs, (hcolor cs).mp h, rfl⟩
    · cases h
  · rintro ⟨_, rfl, cs, hcs, rfl⟩
    exact (hcolor cs).mpr hcs

theorem dropWhile_isNameChar {cs : List Char} : cs.dropWhile isNameChar = [] ↔ cs ∈ (oneOf ContinuesName)∗ := by
  rw [List.dropWhile_eq_nil_iff, mem_oneOf_kstar]
  simp only [isNameChar_iff]

theorem afterIdentifier_eq_nil_iff {s : List Char} : afterIdentifier s = some [] ↔ s ∈ identifiers := by
  rw [identifiers, Language.mem_mul]
  constructor
  · intro h
    unfold afterIdentifier at h
    split at h
    · next c cs =>
      split_ifs at h with hc
      have hcs := dropWhile_isNameChar.mp (Option.some.inj h)
      rw [Bool.or_eq_true, decide_eq_true_eq] at hc
      obtain hc | rfl := hc
      · exact ⟨['-', c], .inl ⟨['-'], .inr rfl, [c], ⟨c, isNameStart_iff.mp hc, rfl⟩, rfl⟩, cs, hcs, rfl⟩
      · exact ⟨['-', '-'], .inr rfl, cs, hcs, rfl⟩
    · next c cs _ =>
      split_ifs at h with hc
      have hcs := dropWhile_isNameChar.mp (Option.some.inj h)
      exact ⟨[c], .inl ⟨[], .inl rfl, [c], ⟨c, isNameStart_iff.mp hc, rfl⟩, rfl⟩, cs, hcs, rfl⟩
    · cases h
  · rintro ⟨_, ⟨_, rfl | rfl, _, ⟨c, hc, rfl⟩, rfl⟩ | rfl, cs, hcs, rfl⟩
    · have hstart := isNameStart_iff.mpr hc
      have hdash : c ≠ '-' := by
        rintro rfl
        exact absurd hstart (by decide)
      change afterIdentifier (c :: cs) = some []
      rw [afterIdentifier, if_pos hstart, dropWhile_isNameChar.mpr hcs]
      exact fun _ _ h => absurd h hdash
    · have hstart := isNameStart_iff.mpr hc
      change afterIdentifier ('-' :: c :: cs) = some []
      rw [afterIdentifier, if_pos (by rw [hstart]; rfl), dropWhile_isNameChar.mpr hcs]
    · change afterIdentifier ('-' :: '-' :: cs) = some []
      rw [afterIdentifier, if_pos (by decide), dropWhile_isNameChar.mpr hcs]

theorem afterClosing_eq_some_iff {mark : Char} (hm : mark ≠ '\\') {cs rest : List Char} :
    afterClosing mark cs = some rest ↔ ∃ body ∈ (quotedItems mark)∗, cs = body ++ mark :: rest := by
  constructor
  · intro h
    fun_induction afterClosing mark cs with
    | case1 => cases h
    | case2 c cs ih =>
      obtain ⟨body, hbody, rfl⟩ := ih h
      have hc : ['\\', c] ∈ quotedItems mark := .inr ⟨['\\'], rfl, [c], ⟨c, trivial, rfl⟩, rfl⟩
      exact ⟨['\\', c] ++ body, append_mem_kstar hc hbody, rfl⟩
    | case3 cs => exact ⟨[], Language.nil_mem_kstar _, by rw [Option.some.inj h]; rfl⟩
    | case4 => cases h
    | case5 c cs _ hc hb ih =>
      obtain ⟨body, hbody, rfl⟩ := ih h
      have hitem : [c] ∈ quotedItems mark := .inl ⟨c, ⟨hc, hb⟩, rfl⟩
      exact ⟨[c] ++ body, append_mem_kstar hitem hbody, rfl⟩
  · rintro ⟨_, ⟨items, rfl, hitems⟩, rfl⟩
    induction items with
    | nil => rw [List.flatten_nil, List.nil_append, afterClosing_plain hm, if_pos rfl]
    | cons item items ih =>
      obtain ⟨hitem, hrest⟩ := List.forall_mem_cons.mp hitems
      rw [List.flatten_cons, List.append_assoc]
      obtain ⟨c, ⟨hc, hb⟩, rfl⟩ | ⟨_, rfl, _, ⟨c, -, rfl⟩, rfl⟩ := hitem
      · rw [List.singleton_append, afterClosing_plain hb, if_neg hc, ih hrest]
      · exact ih hrest

theorem mem_quotedBy {mark : Char} {s : List Char} :
    s ∈ quotedBy mark ↔ ∃ body ∈ (quotedItems mark)∗, s = mark :: (body ++ [mark]) := by
  simp only [quotedBy, Language.mem_mul]
  constructor
  · rintro ⟨_, ⟨_, rfl, body, hbody, rfl⟩, _, rfl, rfl⟩
    exact ⟨body, hbody, rfl⟩
  · rintro ⟨body, hbody, rfl⟩
    exact ⟨mark :: body, ⟨[mark], rfl, body, hbody, rfl⟩, [mark], rfl, rfl⟩

theorem afterQuoted_eq_nil_iff {s : List Char} : afterQuoted s = some [] ↔ s ∈ quotedBy '"' + quotedBy '\x27' := by
  rw [Language.mem_add, mem_quotedBy, mem_quotedBy]
  constructor
  · intro h
    unfold afterQuoted at h
    split at h
    · obtain ⟨body, hbody, rfl⟩ := (afterClosing_eq_some_iff (by decide)).mp h
      exact .inl ⟨body, hbody, rfl⟩
    · obtain ⟨body, hbody, rfl⟩ := (afterClosing_eq_some_iff (by decide)).mp h
      exact .inr ⟨body, hbody, rfl⟩
    · cases h
  · rintro (⟨body, hbody, rfl⟩ | ⟨body, hbody, rfl⟩)
    · exact (afterClosing_eq_some_iff (by decide)).mpr ⟨body, hbody, rfl⟩
    · exact (afterClosing_eq_some_iff (by decide)).mpr ⟨body, hbody, rfl⟩

/-- A string is a literal as it stands if and only if it is a colour, an identifier or a quoted string from its first
character to its last. -/
theorem isBareLiteral_iff (s : String) :
    isBareLiteral s ↔ s.toList ∈ colors + identifiers + (quotedBy '"' + quotedBy '\x27') := by
  rw [isBareLiteral, isLiteral_iff, afterColor_eq_nil_iff, afterIdentifier_eq_nil_iff, afterQuoted_eq_nil_iff]
  exact or_assoc.symm

end SassData.Scss
