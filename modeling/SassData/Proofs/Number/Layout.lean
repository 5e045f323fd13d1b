import SassData.Proofs.Json.Numbers

/-!
The text of a double-precision number is the text of a JSON number, unless it is one of the words for the numbers
without digits.
-/

namespace SassData.Binary64

open Json (IsDigits IsWhole fractionText exponentText isDigits_toDigits head_toDigits)

def Digits.Valid (d : Digits) : Prop :=
  IsDigits d.digits ∧ (d.digits.head? = some '0' → d.digits = ['0'] ∧ d.point ≤ 1)

theorem grid_unit_pos (exponent last : Int) : 0 < (grid exponent last).unit :=
  Nat.mul_pos (Nat.pow_pos (by decide)) (Nat.pow_pos (by decide))

theorem onGrid_ne_zero {mantissa c : Nat} {exponent last : Int} (hm : mantissa ≠ 0)
    (h : onGrid mantissa exponent last = some c) : c ≠ 0 := by
  have hu := grid_unit_pos exponent last
  simp only [onGrid] at h
  generalize hb : (if mantissa = Nat.pow 2 52 ∧ minExponent < exponent then 1 else 2) = below at h
  have hbelow : below ≤ 2 := by split_ifs at hb <;> omega
  have hlow : 0 < (4 * mantissa - below) * (grid exponent last).unit := Nat.mul_pos (by omega) hu
  generalize (4 * mantissa - below) * (grid exponent last).unit = low at h hlow
  generalize 4 * mantissa * (grid exponent last).unit / (grid exponent last).scale = q at h
  have hne : (if mantissa % 2 = 0 then
      decide (low ≤ q * (grid exponent last).scale) &&
        decide (q * (grid exponent last).scale ≤ (4 * mantissa + 2) * (grid exponent last).unit)
      else decide (low < q * (grid exponent last).scale) &&
        decide (q * (grid exponent last).scale < (4 * mantissa + 2) * (grid exponent last).unit)) = true → q ≠ 0 := by
    rintro hin rfl
    split_ifs at hin
    · simp at hin; omega
    · simp at hin
  split at h
  · cases h
  · next hin _ => cases h; exact hne hin
  · cases h; omega
  · next hin _ =>
    have hq := hne hin
    split_ifs at h <;> cases h <;> omega

theorem significant_digits {n : Nat} (hn : n ≠ 0) :
    IsDigits (significant n) ∧ (significant n).head? ≠ some '0' := by
  obtain ⟨d, ds, hds⟩ := List.exists_cons_of_ne_nil (isDigits_toDigits n).1
  have hd : d ≠ '0' := by have := head_toDigits hn; simpa [hds] using this
  have hpre : (Nat.toDigits 10 n).rdropWhile (· = '0') <+: Nat.toDigits 10 n := List.rdropWhile_prefix _ _
  have hne : (Nat.toDigits 10 n).rdropWhile (· = '0') ≠ [] := by
    rw [Ne, List.rdropWhile_eq_nil_iff, hds]
    exact fun h => hd (by simpa using h d (by simp))
  have hs : significant n = (Nat.toDigits 10 n).rdropWhile (· = '0') := by
    rw [significant]
    split
    · next h => exact absurd h hne
    · rfl
  rw [hs]
  refine ⟨⟨hne, fun c hc => (isDigits_toDigits n).2 c (hpre.subset hc)⟩, ?_⟩
  obtain ⟨e, es, hes⟩ := List.exists_cons_of_ne_nil hne
  rw [hes, hds] at hpre
  rw [hes, List.head?_cons, (List.cons_prefix_cons.mp hpre).1]
  simpa using hd

theorem shortest_valid {mantissa : Nat} (hm : mantissa ≠ 0) (exponent : Int) :
    (shortest mantissa exponent).Valid := by
  rw [shortest]
  generalize hf : List.findSome? _ _ = found
  cases found with
  | none => exact ⟨⟨by simp, by simp⟩, by simp⟩
  | some d =>
    obtain ⟨count, -, hcount⟩ := List.exists_of_findSome?_eq_some hf
    obtain ⟨c, hc, rfl⟩ := Option.map_eq_some_iff.mp hcount
    obtain ⟨hd, hh⟩ := significant_digits (onGrid_ne_zero hm hc)
    exact ⟨hd, fun h => absurd h hh⟩

theorem isDigits_append {ds es : List Char} (hd : IsDigits ds) (he : ∀ c ∈ es, c.isDigit) : IsDigits (ds ++ es) :=
  ⟨by simp [hd.1], fun c hc => (List.mem_append.mp hc).elim (hd.2 c) (he c)⟩

theorem isDigit_replicate (n : Nat) : ∀ c ∈ List.replicate n '0', c.isDigit := by
  intro c hc
  rw [List.eq_of_mem_replicate hc]
  rfl

theorem isDigits_padded (n : Nat) : IsDigits (padded n) := by
  have h := isDigits_toDigits n
  unfold padded
  split_ifs
  · exact ⟨by simp, fun c hc => (List.mem_cons.mp hc).elim (fun he => he ▸ rfl) (h.2 c)⟩
  · exact h

theorem positional_parts {d : Digits} (hd : d.Valid) :
    ∃ whole fraction, IsWhole whole ∧ IsDigits fraction ∧ positional d = whole ++ fractionText (some fraction) := by
  obtain ⟨hds, hz⟩ := hd
  unfold positional
  dsimp only
  split_ifs with h1 h2
  · refine ⟨['0'], List.replicate (-d.point).toNat '0' ++ d.digits, ?_, ?_, rfl⟩
    · exact ⟨⟨by simp, by simp⟩, fun _ => rfl⟩
    · exact ⟨by simp [hds.1], fun c hc => (List.mem_append.mp hc).elim (isDigit_replicate _ c) (hds.2 c)⟩
  · refine ⟨_, ['0'], ⟨isDigits_append hds (isDigit_replicate _), fun h => ?_⟩, ⟨by simp, by simp⟩, rfl⟩
    rw [List.head?_append_of_ne_nil _ hds.1] at h
    obtain ⟨he, hp⟩ := hz h
    have hn : d.point.toNat - d.digits.length = 0 := by rw [he, List.length_singleton]; omega
    rw [hn, he]
    rfl
  · refine ⟨d.digits.take d.point.toNat, d.digits.drop d.point.toNat, ⟨⟨?_, fun c hc => ?_⟩, fun h => ?_⟩,
      ⟨?_, fun c hc => ?_⟩, rfl⟩
    · have := hds.1
      simp only [ne_eq, List.take_eq_nil_iff, not_or]
      exact ⟨by omega, this⟩
    · exact hds.2 c (List.mem_of_mem_take hc)
    · rw [List.head?_take] at h
      split_ifs at h
      have hl := congrArg List.length (hz h).1
      rw [List.length_singleton] at hl
      omega
    · simp only [ne_eq, List.drop_eq_nil_iff]
      omega
    · exact hds.2 c (List.mem_of_mem_drop hc)

theorem scientific_parts {d : Digits} (hd : d.Valid) :
    ∃ whole fraction exponent, IsWhole whole ∧ (∀ ds ∈ fraction, IsDigits ds) ∧ IsDigits exponent.2 ∧
      scientific d = whole ++ (fractionText fraction ++ exponentText (some exponent)) := by
  obtain ⟨⟨hne, hall⟩, -⟩ := hd
  obtain ⟨c, cs, hc⟩ := List.exists_cons_of_ne_nil hne
  rw [hc] at hall
  refine ⟨[c], if cs = [] then none else some cs, (decide (d.point - 1 < 0), padded (d.point - 1).natAbs),
    ⟨⟨by simp, by simpa using hall c⟩, by simp⟩, ?_, isDigits_padded _, ?_⟩
  · intro ds hds
    split_ifs at hds with h
    · cases hds
    · cases hds
      exact ⟨h, fun e he => hall e (by simp [he])⟩
  · unfold scientific
    cases cs <;> simp [hc, fractionText, exponentText]

theorem layout_parts {d : Digits} (hd : d.Valid) :
    ∃ whole fraction exponent, IsWhole whole ∧ (∀ ds ∈ fraction, IsDigits ds) ∧ (∀ p ∈ exponent, IsDigits p.2) ∧
      (fraction ≠ none ∨ exponent ≠ none) ∧
      layout d = whole ++ (fractionText fraction ++ exponentText exponent) := by
  unfold layout
  split_ifs
  · obtain ⟨whole, fraction, hw, hf, he⟩ := positional_parts hd
    exact ⟨whole, some fraction, none, hw, by simpa using hf, by simp, .inl (by simp), by
      rw [he, exponentText, List.append_nil]⟩
  · obtain ⟨whole, fraction, exponent, hw, hf, hx, he⟩ := scientific_parts hd
    exact ⟨whole, fraction, some exponent, hw, hf, by simpa using hx, .inr (by simp), he⟩

theorem text_finite (words : Words) (negative : Bool) (m : Nat) (e : Int) :
    ∃ d : Digits, d.Valid ∧
      text words (.finite negative m e) = if negative then '-' :: layout d else layout d := by
  by_cases hm : m = 0
  · exact ⟨⟨['0'], 1⟩, ⟨⟨by simp, by simp⟩, by simp⟩, by subst hm; rfl⟩
  · exact ⟨shortest m e, shortest_valid hm e, by simp [text, hm]⟩

end SassData.Binary64

namespace SassData.Json

theorem readScalar_text (x : Binary64) :
    ∃ y, ∀ rest, Stops rest → readScalar (x.text words ++ rest) = some (.float y, rest) := by
  cases x with
  | nan => exact ⟨.nan, fun rest _ => rfl⟩
  | infinity negative =>
    cases negative
    · exact ⟨.infinity false, fun rest _ => rfl⟩
    · exact ⟨.infinity true, fun rest _ => rfl⟩
  | finite negative m e =>
    obtain ⟨d, hd, ht⟩ := Binary64.text_finite words negative m e
    obtain ⟨whole, fraction, exponent, hw, hf, he, hany, hl⟩ := Binary64.layout_parts hd
    refine ⟨Numeral.Parts.toBinary64 negative ⟨whole, fraction.getD [], (exponentValue exponent).getD 0⟩, fun rest hr => ?_⟩
    have hs := readScalar_signed (hw.1.head_append (fractionText fraction ++ (exponentText exponent ++ rest))) negative
    rw [readNumber_float hw hf he hany negative hr] at hs
    rw [ht, hl, ← hs]
    cases negative <;> simp

theorem char_le_iff {c d : Char} : c ≤ d ↔ c.toNat ≤ d.toNat :=
  UInt32.le_iff_toNat_le

theorem char_lt_iff {c d : Char} : c < d ↔ c.toNat < d.toNat :=
  UInt32.lt_iff_toNat_lt

theorem isAlpha_iff {c : Char} : c.isAlpha ↔ 'A' ≤ c ∧ c ≤ 'Z' ∨ 'a' ≤ c ∧ c ≤ 'z' := by
  change (decide ('A'.val ≤ c.val ∧ c.val ≤ 'Z'.val) || (decide ('a'.val ≤ c.val) && decide (c.val ≤ 'z'.val))) =
    true ↔ _
  simp only [Bool.or_eq_true, Bool.and_eq_true, decide_eq_true_eq]
  rfl

theorem isAlphanum_iff {c : Char} :
    c.isAlphanum ↔ ('A' ≤ c ∧ c ≤ 'Z' ∨ 'a' ≤ c ∧ c ≤ 'z') ∨ '0' ≤ c ∧ c ≤ '9' := by
  change (c.isAlpha || (decide ('0'.val ≤ c.val) && decide (c.val ≤ '9'.val))) = true ↔ _
  simp only [Bool.or_eq_true, Bool.and_eq_true, decide_eq_true_eq, isAlpha_iff]
  rfl

def IsNumberChar (c : Char) : Prop := c.isAlphanum ∨ c = '-' ∨ c = '+' ∨ c = '.'

theorem IsDigits.numberChar {ds : List Char} (hd : IsDigits ds) : ∀ c ∈ ds, IsNumberChar c :=
  fun c hc => .inl (by simp [Char.isAlphanum, hd.2 c hc])

theorem numberChar_writeInt (n : Int) : ∀ c ∈ writeInt n, IsNumberChar c := by
  have hd := (isDigits_toDigits n.natAbs).numberChar
  unfold writeInt
  split_ifs
  · exact List.forall_mem_cons.mpr ⟨.inr (.inl rfl), hd⟩
  · exact hd

theorem numberChar_fractionText {fraction : Option (List Char)} (hf : ∀ ds ∈ fraction, IsDigits ds) :
    ∀ c ∈ fractionText fraction, IsNumberChar c := by
  cases fraction with
  | none => simp [fractionText]
  | some ds => exact List.forall_mem_cons.mpr ⟨.inr (.inr (.inr rfl)), (hf ds rfl).numberChar⟩

theorem numberChar_exponentText {exponent : Option (Bool × List Char)} (he : ∀ p ∈ exponent, IsDigits p.2) :
    ∀ c ∈ exponentText exponent, IsNumberChar c := by
  cases exponent with
  | none => simp [exponentText]
  | some p =>
    refine List.forall_mem_cons.mpr ⟨.inl rfl, List.forall_mem_cons.mpr ⟨?_, (he p rfl).numberChar⟩⟩
    split_ifs
    · exact .inr (.inl rfl)
    · exact .inr (.inr (.inl rfl))

theorem numberChar_layout {d : Binary64.Digits} (hd : d.Valid) : ∀ c ∈ Binary64.layout d, IsNumberChar c := by
  obtain ⟨whole, fraction, exponent, hw, hf, he, -, hl⟩ := Binary64.layout_parts hd
  rw [hl]
  simp only [List.mem_append]
  rintro c (hc | hc | hc)
  · exact hw.1.numberChar c hc
  · exact numberChar_fractionText hf c hc
  · exact numberChar_exponentText he c hc

theorem numberChar_text (x : Binary64) : ∀ c ∈ x.text words, IsNumberChar c := by
  cases x with
  | nan =>
    have hword : words.nan.all Char.isAlphanum := by decide
    intro c hc
    exact .inl (List.all_eq_true.mp hword c hc)
  | infinity negative =>
    have hletters : words.infinity.all Char.isAlphanum := by decide
    have hword : ∀ c ∈ words.infinity, IsNumberChar c := fun c hc => .inl (List.all_eq_true.mp hletters c hc)
    cases negative
    · exact hword
    · exact List.forall_mem_cons.mpr ⟨.inr (.inl rfl), hword⟩
  | finite negative m e =>
    obtain ⟨d, hd, ht⟩ := Binary64.text_finite words negative m e
    rw [ht]
    split_ifs
    · exact List.forall_mem_cons.mpr ⟨.inr (.inl rfl), numberChar_layout hd⟩
    · exact numberChar_layout hd

end SassData.Json
