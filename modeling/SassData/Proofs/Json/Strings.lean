import SassData.Json.Reader
import SassData.Json.Writer
import SassData.Proofs.Text.Utf8

namespace SassData.Json

open Text.Quoted (hex)
open Text.Utf8 (scalar_value)

theorem hexDigit?_digitChar : ∀ d, d < 16 → hexDigit? (Nat.digitChar d) = some d := by decide

theorem forall_mem_hex {P : Char → Prop} (hP : ∀ d < 16, P (Nat.digitChar d)) (width n : Nat) :
    ∀ c ∈ hex width n, P c := by
  induction width generalizing n with
  | zero => simp [hex]
  | succ width ih =>
    intro c hc
    rw [hex, List.mem_append, List.mem_singleton] at hc
    obtain hc | rfl := hc
    · exact ih _ c hc
    · exact hP _ (Nat.mod_lt _ (by decide))

theorem readUnit_hex {n : Nat} (hn : n < 0x10000) (rest : List Char) :
    readUnit (hex 4 n ++ rest) = some (n, rest) := by
  have h1 := hexDigit?_digitChar (n / 16 / 16 / 16 % 16) (Nat.mod_lt _ (by decide))
  have h2 := hexDigit?_digitChar (n / 16 / 16 % 16) (Nat.mod_lt _ (by decide))
  have h3 := hexDigit?_digitChar (n / 16 % 16) (Nat.mod_lt _ (by decide))
  have h4 := hexDigit?_digitChar (n % 16) (Nat.mod_lt _ (by decide))
  have hsum : ((n / 16 / 16 / 16 % 16 * 16 + n / 16 / 16 % 16) * 16 + n / 16 % 16) * 16 + n % 16 = n := by omega
  simp only [hex, List.nil_append, List.cons_append]
  simp [readUnit, h1, h2, h3, h4, hsum]

theorem readUnits_single (c : Char) (hc : c.toNat < 0x10000) (rest : List Char) :
    readUnits (hex 4 c.toNat ++ rest) = some (c, rest) := by
  have hs := scalar_value c
  have hhigh : ¬ (0xD800 ≤ c.toNat ∧ c.toNat ≤ 0xDBFF) := by omega
  have hlow : ¬ (0xDC00 ≤ c.toNat ∧ c.toNat ≤ 0xDFFF) := by omega
  simp [readUnits, readUnit_hex hc, hhigh, hlow, Char.ofNat_toNat]

theorem readLow_unit {low : Nat} (hl : 0xDC00 ≤ low ∧ low ≤ 0xDFFF) (rest : List Char) :
    readLow (unit low ++ rest) = some (low, rest) := by
  have hn : low < 0x10000 := by omega
  simp [unit, readLow, readUnit_hex hn, hl]

theorem readUnits_pair {high low : Nat} (hh : 0xD800 ≤ high ∧ high ≤ 0xDBFF)
    (hl : 0xDC00 ≤ low ∧ low ≤ 0xDFFF) (rest : List Char) :
    readUnits (hex 4 high ++ (unit low ++ rest)) =
      some (Char.ofNat (0x10000 + (high - 0xD800) * 0x400 + (low - 0xDC00)), rest) := by
  have hn : high < 0x10000 := by omega
  simp [readUnits, readUnit_hex hn, hh, readLow_unit hl]

theorem readChar_units (c : Char) (rest : List Char) :
    readChar (units c ++ rest) = some (some c, rest) := by
  by_cases hc : c.toNat < 0x10000
  · simp [units, hc, unit, readChar, readUnits_single c hc]
  · have hs := scalar_value c
    generalize hhigh : 0xD800 + (c.toNat - 0x10000) / 0x400 = high
    generalize hlow : 0xDC00 + (c.toNat - 0x10000) % 0x400 = low
    have hsum : 0x10000 + (high - 0xD800) * 0x400 + (low - 0xDC00) = c.toNat := by omega
    have hh : 0xD800 ≤ high ∧ high ≤ 0xDBFF := by omega
    have hl : 0xDC00 ≤ low ∧ low ≤ 0xDFFF := by omega
    have hpair := readUnits_pair hh hl rest
    rw [hsum, Char.ofNat_toNat] at hpair
    have hu : units c = unit high ++ unit low := by
      simp only [units, hc, ↓reduceIte, hhigh, hlow]
    rw [hu, List.append_assoc]
    simp only [unit, List.cons_append, readChar] at hpair ⊢
    rw [hpair]
    rfl

theorem readChar_plain {c : Char} (hq : c ≠ '"') (hb : c ≠ '\\') (hc : 0x20 ≤ c.toNat) (rest : List Char) :
    readChar (c :: rest) = some (some c, rest) := by
  have hn : ¬ c.toNat < 0x20 := by omega
  rw [readChar.eq_def]
  split <;> simp_all

theorem readChar_escape (charset : Charset) (c : Char) (rest : List Char) :
    readChar (escape charset c ++ rest) = some (some c, rest) := by
  unfold escape
  split_ifs with hq hb hn hr ht hf hbs hlt hascii
  · subst hq; rfl
  · subst hb; rfl
  · subst hn; rfl
  · subst hr; rfl
  · subst ht; rfl
  · subst hf; rfl
  · subst hbs; rfl
  · exact readChar_units c rest
  · exact readChar_units c rest
  · exact readChar_plain hq hb (by omega) rest

theorem readString_flatMap (charset : Charset) (s rest : List Char) (fuel : Nat) (hf : s.length < fuel) :
    readString fuel (s.flatMap (escape charset) ++ '"' :: rest) = some (s, rest) := by
  induction s generalizing fuel with
  | nil =>
    obtain ⟨f, rfl⟩ : ∃ f, fuel = f + 1 := ⟨fuel - 1, by omega⟩
    rfl
  | cons c s ih =>
    obtain ⟨f, rfl⟩ : ∃ f, fuel = f + 1 := ⟨fuel - 1, by omega⟩
    have hs : s.length < f := by simpa using hf
    rw [List.flatMap_cons, List.append_assoc, readString, readChar_escape]
    simp [ih f hs]

theorem escape_ne_nil (charset : Charset) (c : Char) : escape charset c ≠ [] := by
  intro h
  have hr := readChar_escape charset c []
  rw [h] at hr
  cases hr

theorem length_writeString (charset : Charset) (s : List Char) : s.length + 2 ≤ (writeString charset s).length := by
  have hs : s.length ≤ (s.flatMap (escape charset)).length := by
    induction s with
    | nil => simp
    | cons c s ih =>
      have hc := List.length_pos_iff.mpr (escape_ne_nil charset c)
      simp only [List.flatMap_cons, List.length_append, List.length_cons]
      omega
  simp only [writeString, List.length_append, List.length_cons, List.length_nil]
  omega

end SassData.Json
