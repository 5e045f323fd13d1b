import Mathlib.Data.List.DropRight
import Mathlib.Tactic.Common
import SassData.Json.Reader
import SassData.Json.Writer

namespace SassData.Json

def IsDigits (ds : List Char) : Prop := ds ≠ [] ∧ ∀ c ∈ ds, c.isDigit

def IsWhole (ds : List Char) : Prop := IsDigits ds ∧ (ds.head? = some '0' → ds = ['0'])

def Stops (rest : List Char) : Prop :=
  ∀ c ∈ rest.head?, c.isDigit = false ∧ c ≠ '.' ∧ c ≠ 'e' ∧ c ≠ 'E'

theorem stops_nil : Stops [] := by simp [Stops]

theorem readDigits_append {ds rest : List Char} (hd : IsDigits ds)
    (hr : ∀ c ∈ rest.head?, c.isDigit = false) : readDigits (ds ++ rest) = (ds, rest) := by
  have ht : rest.takeWhile Char.isDigit = [] := by
    cases rest with
    | nil => rfl
    | cons c rest => simp [hr c rfl]
  have hw : rest.dropWhile Char.isDigit = rest := by
    cases rest with
    | nil => rfl
    | cons c rest => simp [hr c rfl]
  simp only [readDigits]
  rw [List.takeWhile_append_of_pos hd.2, List.dropWhile_append_of_pos hd.2, ht, hw, List.append_nil]

theorem readWhole_append {ds rest : List Char} (hd : IsWhole ds)
    (hr : ∀ c ∈ rest.head?, c.isDigit = false) : readWhole (ds ++ rest) = some (ds, rest) := by
  obtain ⟨hds, hz⟩ := hd
  rw [readWhole, readDigits_append hds hr]
  split
  · next h => exact absurd (congrArg Prod.fst h) hds.1
  · next h =>
    cases h
    simp at hz
  · next h => cases h; rfl

def fractionText : Option (List Char) → List Char
  | none => []
  | some ds => '.' :: ds

def exponentText : Option (Bool × List Char) → List Char
  | none => []
  | some (negative, ds) => 'e' :: (if negative then '-' else '+') :: ds

def exponentValue : Option (Bool × List Char) → Option Int
  | none => none
  | some (negative, ds) => some (if negative then -(Numeral.value ds : Int) else Numeral.value ds)

theorem readFraction_append {fraction : Option (List Char)} {rest : List Char}
    (hf : ∀ ds ∈ fraction, IsDigits ds) (hr : ∀ c ∈ rest.head?, c.isDigit = false ∧ c ≠ '.') :
    readFraction (fractionText fraction ++ rest) = some (fraction, rest) := by
  cases fraction with
  | none =>
    simp only [fractionText, List.nil_append]
    rw [readFraction.eq_def]
    split
    · next cs => simpa using hr '.' rfl
    · rfl
  | some ds =>
    have hd := hf ds rfl
    simp only [fractionText, List.cons_append, readFraction]
    rw [readDigits_append hd fun c hc => (hr c hc).1]
    split
    · next h => exact absurd (congrArg Prod.fst h) hd.1
    · next h => cases h; rfl

theorem readExponent_append {exponent : Option (Bool × List Char)} {rest : List Char}
    (he : ∀ p ∈ exponent, IsDigits p.2) (hr : Stops rest) :
    readExponent (exponentText exponent ++ rest) = some (exponentValue exponent, rest) := by
  cases exponent with
  | none =>
    cases rest with
    | nil => rfl
    | cons c rest =>
      obtain ⟨-, -, h1, h2⟩ := hr c rfl
      simp [exponentText, exponentValue, readExponent, h1, h2]
  | some p =>
    obtain ⟨negative, ds⟩ := p
    have hd : IsDigits ds := he (negative, ds) rfl
    have hread := readDigits_append hd fun c hc => (hr c hc).1
    have hsign : Numeral.sign ((if negative then '-' else '+') :: (ds ++ rest)) = (negative, ds ++ rest) := by
      cases negative <;> rfl
    simp only [exponentText, exponentValue, List.cons_append, readExponent, true_or, ↓reduceIte, hsign, hread]
    split
    · next h => exact absurd (congrArg Prod.fst h) hd.1
    · next h => cases h; rfl

theorem head_exponentText (exponent : Option (Bool × List Char)) (rest : List Char) (hr : Stops rest) :
    ∀ c ∈ (exponentText exponent ++ rest).head?, c.isDigit = false ∧ c ≠ '.' := by
  cases exponent with
  | none => exact fun c hc => ⟨(hr c hc).1, (hr c hc).2.1⟩
  | some p => simp [exponentText]

theorem head_fractionText (fraction : Option (List Char)) {rest : List Char}
    (hr : ∀ c ∈ rest.head?, c.isDigit = false) :
    ∀ c ∈ (fractionText fraction ++ rest).head?, c.isDigit = false := by
  cases fraction with
  | none => exact hr
  | some ds => simp [fractionText]

theorem readNumber_float {whole : List Char} {fraction : Option (List Char)} {exponent : Option (Bool × List Char)}
    (hw : IsWhole whole) (hf : ∀ ds ∈ fraction, IsDigits ds) (he : ∀ p ∈ exponent, IsDigits p.2)
    (hany : fraction ≠ none ∨ exponent ≠ none) (negative : Bool) {rest : List Char} (hr : Stops rest) :
    readNumber negative (whole ++ (fractionText fraction ++ (exponentText exponent ++ rest))) =
      some (.float (Numeral.Parts.toBinary64 negative
        ⟨whole, fraction.getD [], (exponentValue exponent).getD 0⟩), rest) := by
  have h1 := head_exponentText exponent rest hr
  have h2 := head_fractionText fraction fun c hc => (h1 c hc).1
  simp only [readNumber, readWhole_append hw h2, readFraction_append hf h1, readExponent_append he hr,
    Option.bind_eq_bind, Option.bind_some]
  cases fraction with
  | some ds => rfl
  | none =>
    cases exponent with
    | some p => rfl
    | none => simp at hany

theorem head_toDigits {n : Nat} (hn : n ≠ 0) : (Nat.toDigits 10 n).head? ≠ some '0' := by
  induction n using Nat.strongRecOn with
  | ind n ih =>
    rw [Nat.toDigits_eq_if (by decide)]
    split_ifs with h
    · have hd : ∀ d, d < 10 → d ≠ 0 → Nat.digitChar d ≠ '0' := by decide
      simpa using hd n h hn
    · have hq : n / 10 ≠ 0 := by omega
      rw [List.head?_append_of_ne_nil _ Nat.toDigits_ne_nil]
      exact ih (n / 10) (by omega) hq

theorem isDigits_toDigits (n : Nat) : IsDigits (Nat.toDigits 10 n) :=
  ⟨Nat.toDigits_ne_nil, fun _ hc => Nat.isDigit_of_mem_toDigits (by decide) (by decide) hc⟩

theorem isWhole_toDigits (n : Nat) : IsWhole (Nat.toDigits 10 n) := by
  refine ⟨isDigits_toDigits n, fun h => ?_⟩
  by_cases hn : n = 0
  · subst hn; exact Nat.toDigits_zero 10
  · exact absurd h (head_toDigits hn)

theorem readNumber_toDigits (n : Nat) (hn : (Nat.toDigits 10 n).length ≤ maxDigits) (negative : Bool)
    {rest : List Char} (hr : Stops rest) :
    readNumber negative (Nat.toDigits 10 n ++ rest) = some (.int (if negative then -n else n), rest) := by
  have h1 : readFraction rest = some (none, rest) :=
    @readFraction_append none rest (by simp) fun c hc => ⟨(hr c hc).1, (hr c hc).2.1⟩
  have h2 : readExponent rest = some (none, rest) := @readExponent_append none rest (by simp) hr
  simp [readNumber, readWhole_append (isWhole_toDigits n) fun c hc => (hr c hc).1, h1, h2, hn, Numeral.value]

theorem readScalar_digit {c : Char} (hc : c.isDigit) (cs : List Char) :
    readScalar (c :: cs) = readNumber false (c :: cs) := by
  rw [readScalar.eq_def]
  split
  all_goals first | rfl | (next h => cases h; exact absurd hc (by decide))

theorem readScalar_minus {c : Char} (hc : c.isDigit) (cs : List Char) :
    readScalar ('-' :: c :: cs) = readNumber true (c :: cs) := by
  have hi : c ≠ 'I' := by rintro rfl; exact absurd hc (by decide)
  rw [readScalar.eq_def]
  split <;> simp_all

theorem readScalar_signed {s : List Char} (hs : ∃ c ∈ s.head?, c.isDigit) (negative : Bool) :
    readScalar (if negative then '-' :: s else s) = readNumber negative s := by
  obtain ⟨c, hc, hd⟩ := hs
  obtain ⟨cs, rfl⟩ := List.head?_eq_some_iff.mp hc
  cases negative
  · exact readScalar_digit hd cs
  · exact readScalar_minus hd cs

theorem IsDigits.head_append {ds : List Char} (hd : IsDigits ds) (rest : List Char) :
    ∃ c ∈ (ds ++ rest).head?, c.isDigit := by
  obtain ⟨c, cs, rfl⟩ := List.exists_cons_of_ne_nil hd.1
  exact ⟨c, rfl, hd.2 c (by simp)⟩

theorem readScalar_writeInt (n : Int) (hn : fitsDigits n) {rest : List Char} (hr : Stops rest) :
    readScalar (writeInt n ++ rest) = some (.int n, rest) := by
  have hlen : (Nat.toDigits 10 n.natAbs).length ≤ maxDigits := by simpa [fitsDigits] using hn
  have hs := readScalar_signed ((isDigits_toDigits n.natAbs).head_append rest) (decide (n < 0))
  have hval : (if n < 0 then -(n.natAbs : Int) else n.natAbs) = n := by split_ifs <;> omega
  rw [readNumber_toDigits _ hlen _ hr] at hs
  simp only [decide_eq_true_eq, hval] at hs
  rw [← hs, writeInt]
  split_ifs <;> rfl

end SassData.Json
