import SassData.Proofs.Json.Strings
import SassData.Proofs.Number.Layout

namespace SassData.Json

open Text.Quoted (hex)

def PlainText (s : List Char) : Prop :=
  ∀ c ∈ s, 0x20 ≤ c.toNat ∧ c.toNat ≤ 0x7E

instance (s : List Char) : Decidable (PlainText s) := List.decidableBAll _ s

theorem plainText_cons {c : Char} (hc : 0x20 ≤ c.toNat ∧ c.toNat ≤ 0x7E) {s : List Char} (hs : PlainText s) :
    PlainText (c :: s) :=
  List.forall_mem_cons.mpr ⟨hc, hs⟩

theorem PlainText.append {s t : List Char} (hs : PlainText s) (ht : PlainText t) : PlainText (s ++ t) :=
  List.forall_mem_append.mpr ⟨hs, ht⟩

theorem IsNumberChar.plain {c : Char} (h : IsNumberChar c) : 0x20 ≤ c.toNat ∧ c.toNat ≤ 0x7E := by
  rcases h with h | rfl | rfl | rfl
  · rw [isAlphanum_iff] at h
    simp only [char_le_iff, Char.reduceToNat] at h
    omega
  all_goals decide

theorem plainText_unit (n : Nat) : PlainText (unit n) := by
  have hhex : PlainText (hex 4 n) := forall_mem_hex (by decide) 4 n
  apply plainText_cons (by decide)
  exact plainText_cons (by decide) hhex

theorem plainText_units (c : Char) : PlainText (units c) := by
  unfold units
  dsimp only
  split_ifs
  · exact plainText_unit _
  · exact (plainText_unit _).append (plainText_unit _)

theorem plainText_escape (c : Char) : PlainText (escape .ascii c) := by
  unfold escape
  split_ifs with hq hb hn hr ht hf hbs hlow hhigh
  any_goals decide
  · exact plainText_units c
  · exact plainText_units c
  · have hle : c.toNat ≤ 0x7E := by
      by_contra hlt
      exact hhigh ⟨rfl, by omega⟩
    exact plainText_cons ⟨by omega, hle⟩ (by decide)

theorem plainText_writeString (s : List Char) : PlainText (writeString .ascii s) := by
  have hchars : PlainText (s.flatMap (escape .ascii)) := by
    intro c hc
    obtain ⟨d, -, hd⟩ := List.mem_flatMap.mp hc
    exact plainText_escape d c hd
  apply plainText_cons (by decide)
  exact hchars.append (by decide)

theorem plainText_writeItems {vs : List Json} (hvs : ∀ v ∈ vs, PlainText (v.write .ascii)) :
    PlainText (writeItems .ascii vs) := by
  induction vs with
  | nil => decide
  | cons v vs ih =>
    obtain ⟨hv, hvs⟩ := List.forall_mem_cons.mp hvs
    cases vs with
    | nil => exact hv
    | cons w ws =>
      apply hv.append
      apply plainText_cons (by decide)
      exact plainText_cons (by decide) (ih hvs)

theorem plainText_writeMembers {ms : Members} (hms : ∀ m ∈ ms, PlainText (m.2.write .ascii)) :
    PlainText (writeMembers .ascii ms) := by
  induction ms with
  | nil => decide
  | cons m ms ih =>
    obtain ⟨k, v⟩ := m
    obtain ⟨hv, hms⟩ := List.forall_mem_cons.mp hms
    have hmember : PlainText (writeString .ascii k.toList ++ ':' :: ' ' :: v.write .ascii) := by
      apply (plainText_writeString k.toList).append
      apply plainText_cons (by decide)
      exact plainText_cons (by decide) hv
    cases ms with
    | nil => exact hmember
    | cons m ms =>
      apply hmember.append
      apply plainText_cons (by decide)
      exact plainText_cons (by decide) (ih hms)

theorem plainText_write (v : Json) : PlainText (v.write .ascii) := by
  induction v with
  | null => decide
  | bool b => cases b <;> decide
  | int n => exact fun c hc => (numberChar_writeInt n c hc).plain
  | float x => exact fun c hc => (numberChar_text x c hc).plain
  | str s => exact plainText_writeString s.toList
  | arr items ih =>
    apply plainText_cons (by decide)
    exact (plainText_writeItems ih).append (by decide)
  | obj members ih =>
    apply plainText_cons (by decide)
    exact (plainText_writeMembers ih).append (by decide)

end SassData.Json
