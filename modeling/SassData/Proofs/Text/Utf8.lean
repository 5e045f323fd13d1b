import Mathlib.Tactic.Common
import SassData.Text.Utf8

namespace SassData.Text.Utf8

theorem toNat_ofNat {n : Nat} (hn : n < 0x100) : (UInt8.ofNat n).toNat = n := by
  rw [UInt8.toNat_ofNat']
  omega

theorem run_ground {n : Nat} (hn : n < 0x100) (rest : List UInt8) :
    run .ground (UInt8.ofNat n :: rest) = (lead n).1 ++ run (lead n).2 rest := by
  rw [run, toNat_ofNat hn]
  rfl

theorem run_last {low high bits b : Nat} (hl : low ≤ 0x80 + b) (hh : 0x80 + b ≤ high) (hb : b < 0x40)
    (rest : List UInt8) :
    run (.within 1 low high bits) (UInt8.ofNat (0x80 + b) :: rest) = Char.ofNat (bits * 0x40 + b) :: run .ground rest := by
  have hbyte : (UInt8.ofNat (0x80 + b)).toNat = 0x80 + b := toNat_ofNat (by omega)
  have hbits : 0x80 + b - 0x80 = b := by omega
  rw [run, hbyte, step, if_pos ⟨hl, hh⟩, hbits]
  rfl

theorem run_more {missing low high bits b : Nat} (hl : low ≤ 0x80 + b) (hh : 0x80 + b ≤ high) (hb : b < 0x40)
    (rest : List UInt8) :
    run (.within (missing + 2) low high bits) (UInt8.ofNat (0x80 + b) :: rest) =
      run (.within (missing + 1) 0x80 0xBF (bits * 0x40 + b)) rest := by
  have hbyte : (UInt8.ofNat (0x80 + b)).toNat = 0x80 + b := toNat_ofNat (by omega)
  have hbits : 0x80 + b - 0x80 = b := by omega
  rw [run, hbyte, step, if_pos ⟨hl, hh⟩, hbits]
  rfl

theorem lead_two {k : Nat} (hl : 2 ≤ k) (hh : k < 0x20) : lead (0xC0 + k) = ([], .within 1 0x80 0xBF k) := by
  have hk : 0xC0 + k - 0xC0 = k := by omega
  rw [lead, if_neg (by omega), if_neg (by omega), if_pos (by omega), hk]

-- The bounds of the second byte leave out characters with a shorter form, halves of pairs, and what is no character.

theorem lead_three {k : Nat} (hk : k < 0x10) : ∃ low high, lead (0xE0 + k) = ([], .within 2 low high k) ∧
    ∀ b < 0x40, (k = 0 → 0x20 ≤ b) → (k = 0xD → b < 0x20) → low ≤ 0x80 + b ∧ 0x80 + b ≤ high := by
  by_cases h0 : k = 0
  · subst h0
    refine ⟨_, _, rfl, ?_⟩
    intro b hb hl hh
    omega
  by_cases hd : k = 0xD
  · subst hd
    refine ⟨_, _, rfl, ?_⟩
    intro b hb hl hh
    omega
  have hbits : 0xE0 + k - 0xE0 = k := by omega
  refine ⟨0x80, 0xBF, ?_, ?_⟩
  · rw [lead, if_neg (by omega), if_neg (by omega), if_neg (by omega), if_neg (by omega), if_neg (by omega),
      if_pos (by omega), hbits]
  · intro b hb hl hh
    omega

theorem lead_four {k : Nat} (hk : k ≤ 4) : ∃ low high, lead (0xF0 + k) = ([], .within 3 low high k) ∧
    ∀ b < 0x40, (k = 0 → 0x10 ≤ b) → (k = 4 → b < 0x10) → low ≤ 0x80 + b ∧ 0x80 + b ≤ high := by
  by_cases h0 : k = 0
  · subst h0
    refine ⟨_, _, rfl, ?_⟩
    intro b hb hl hh
    omega
  by_cases h4 : k = 4
  · subst h4
    refine ⟨_, _, rfl, ?_⟩
    intro b hb hl hh
    omega
  have hbits : 0xF0 + k - 0xF0 = k := by omega
  refine ⟨0x80, 0xBF, ?_, ?_⟩
  · rw [lead, if_neg (by omega), if_neg (by omega), if_neg (by omega), if_neg (by omega), if_neg (by omega),
      if_neg (by omega), if_neg (by omega), if_pos (by omega), hbits]
  · intro b hb hl hh
    omega

theorem scalar_value (c : Char) : c.toNat < 0xD800 ∨ 0xDFFF < c.toNat ∧ c.toNat < 0x110000 := by
  simpa [UInt32.isValidChar, Nat.isValidChar] using c.valid

theorem run_encodeChar (c : Char) (rest : List UInt8) : run .ground (encodeChar c ++ rest) = c :: run .ground rest := by
  have hc := scalar_value c
  have hn : Char.ofNat c.toNat = c := Char.ofNat_toNat c
  unfold encodeChar
  generalize c.toNat = n at hc hn
  dsimp only
  split_ifs with h1 h2 h3
  · rw [List.singleton_append, run_ground (by omega), lead, if_pos h1, hn]
    rfl
  · have hbits : n / 0x40 * 0x40 + n % 0x40 = n := by omega
    rw [List.cons_append, List.singleton_append, run_ground (by omega), lead_two (by omega) (by omega),
      List.nil_append, run_last (by omega) (by omega) (by omega), hbits, hn]
  · have hbits : (n / 0x1000 * 0x40 + n / 0x40 % 0x40) * 0x40 + n % 0x40 = n := by omega
    obtain ⟨low, high, hlead, hbounds⟩ := lead_three (k := n / 0x1000) (by omega)
    obtain ⟨hl, hh⟩ := hbounds (n / 0x40 % 0x40) (by omega) (by omega) (by omega)
    rw [List.cons_append, List.cons_append, List.singleton_append, run_ground (by omega), hlead, List.nil_append,
      run_more hl hh (by omega), run_last (by omega) (by omega) (by omega), hbits, hn]
  · have hbits : ((n / 0x40000 * 0x40 + n / 0x1000 % 0x40) * 0x40 + n / 0x40 % 0x40) * 0x40 + n % 0x40 = n := by omega
    obtain ⟨low, high, hlead, hbounds⟩ := lead_four (k := n / 0x40000) (by omega)
    obtain ⟨hl, hh⟩ := hbounds (n / 0x1000 % 0x40) (by omega) (by omega) (by omega)
    rw [List.cons_append, List.cons_append, List.cons_append, List.singleton_append, run_ground (by omega), hlead,
      List.nil_append, run_more hl hh (by omega), run_more (by omega) (by omega) (by omega),
      run_last (by omega) (by omega) (by omega), hbits, hn]

theorem decode_encode (s : List Char) : decode (encode s) = s := by
  rw [decode, encode]
  induction s with
  | nil => rfl
  | cons c cs ih => rw [List.flatMap_cons, run_encodeChar, ih]

end SassData.Text.Utf8
