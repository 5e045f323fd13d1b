import Mathlib.Algebra.Group.Nat.Even
import Mathlib.Data.List.DropRight
import SassData.Proofs.Scss.Atoms

namespace SassData.Scss

def backslashesAtEnd (s : List Char) : ℕ :=
  (s.rtakeWhile (· = '\\')).length

def BackslashesPaired (mark : Char) (s : List Char) : Prop :=
  ∀ a b, s = a ++ b → (∀ c ∈ b.head?, c = mark) → Even (backslashesAtEnd a)

def unescape : List Char → List Char
  | '\\' :: c :: cs => c :: unescape cs
  | c :: cs => c :: unescape cs
  | [] => []

def betweenMarks (s : List Char) : List Char :=
  s.tail.dropLast

theorem backslashesAtEnd_concat (s : List Char) (c : Char) :
    backslashesAtEnd (s ++ [c]) = if c = '\\' then backslashesAtEnd s + 1 else 0 := by
  rw [backslashesAtEnd, List.rtakeWhile_concat]
  by_cases hc : c = '\\'
  · simp [hc, backslashesAtEnd]
  · simp [hc]

theorem backslashesAtEnd_append {c : Char} (hc : c ≠ '\\') (s t : List Char) :
    backslashesAtEnd (s ++ c :: t) = backslashesAtEnd t := by
  induction t using List.reverseRecOn with
  | nil => rw [backslashesAtEnd_concat, if_neg hc]; rfl
  | append_singleton t d ih =>
    rw [← List.cons_append, ← List.append_assoc, backslashesAtEnd_concat, backslashesAtEnd_concat, ih]

theorem even_backslashesAtEnd (c : Char) (s : List Char) :
    Even (backslashesAtEnd ('\\' :: c :: s)) ↔ Even (backslashesAtEnd s) := by
  by_cases hc : c = '\\'
  · subst hc
    induction s using List.reverseRecOn with
    | nil => decide
    | append_singleton s d ih =>
      rw [← List.cons_append, ← List.cons_append, backslashesAtEnd_concat, backslashesAtEnd_concat]
      split_ifs
      · rw [Nat.even_add_one, Nat.even_add_one, ih]
      · rfl
  · rw [← backslashesAtEnd_append hc ['\\'] s]
    rfl

section

variable {mark : Char}

theorem paired_cons {c : Char} (hc : c ≠ '\\') (s : List Char) :
    BackslashesPaired mark (c :: s) ↔ BackslashesPaired mark s := by
  have hplain (a : List Char) : backslashesAtEnd (c :: a) = backslashesAtEnd a := backslashesAtEnd_append hc [] a
  constructor
  · intro h a b hs hb
    rw [← hplain]
    exact h (c :: a) b (congrArg (c :: ·) hs) hb
  · intro h a b hs hb
    cases a with
    | nil => exact Even.zero
    | cons d a =>
      obtain ⟨rfl, hrest⟩ := List.cons.inj hs
      rw [hplain]
      exact h a b hrest hb

theorem paired_pair {c : Char} (hc : c ≠ mark) (s : List Char) :
    BackslashesPaired mark ('\\' :: c :: s) ↔ BackslashesPaired mark s := by
  constructor
  · intro h a b hs hb
    apply (even_backslashesAtEnd c a).mp
    exact h ('\\' :: c :: a) b (congrArg ('\\' :: c :: ·) hs) hb
  · intro h a b hs hb
    cases a with
    | nil => exact Even.zero
    | cons d a =>
      obtain ⟨rfl, hs'⟩ := List.cons.inj hs
      cases a with
      | nil =>
        obtain rfl : c :: s = b := hs'
        exact absurd (hb c rfl) hc
      | cons e a =>
        obtain ⟨rfl, hrest⟩ := List.cons.inj hs'
        apply (even_backslashesAtEnd c a).mpr
        exact h a b hrest hb

theorem not_paired {s : List Char} (hs : ∀ c ∈ s.head?, c = mark) : ¬ BackslashesPaired mark ('\\' :: s) := by
  intro h
  exact absurd (h ['\\'] s rfl hs) (by decide)

end

theorem backslash_cons {c : Char} {cs : List Char} (hpair : ∀ d ds, c = '\\' → cs = d :: ds → False)
    (hc : c = '\\') : c :: cs = ['\\'] := by
  cases cs with
  | nil => rw [hc]
  | cons d ds => exact (hpair d ds hc rfl).elim

theorem not_paired_end {mark : Char} : ¬ BackslashesPaired mark ['\\'] :=
  not_paired nofun

theorem not_paired_mark {mark : Char} (s : List Char) : ¬ BackslashesPaired mark ('\\' :: mark :: s) :=
  not_paired fun _ h => (Option.some.inj h).symm

theorem head_ne_backslash {mark c : Char} {cs : List Char} (hpair : ∀ d ds, c = '\\' → cs = d :: ds → False)
    (hs : BackslashesPaired mark (c :: cs)) : c ≠ '\\' := by
  intro hb
  rw [backslash_cons hpair hb] at hs
  exact not_paired_end hs

theorem unescape_plain {c : Char} (hc : c ≠ '\\') (cs : List Char) : unescape (c :: cs) = c :: unescape cs := by
  rw [unescape]
  exact fun _ _ h => absurd h hc

theorem keyChar_plain {c : Char} (hc : c ≠ '\x27') : keyChar c = [c] :=
  if_neg hc

theorem afterClosing_key_iff (k : List Char) :
    afterClosing '\x27' (k.flatMap keyChar ++ ['\x27']) = some [] ↔ BackslashesPaired '\x27' k := by
  -- By the pairs that reading the key finds: behind the backslash of a pair there must not be a quotation mark, which
  -- would bring a backslash of its own.
  fun_induction unescape k with
  | case1 c cs ih =>
    by_cases hc : c = '\x27'
    · subst hc
      simp [keyChar, afterClosing, not_paired_mark]
    · rw [paired_pair hc, ← ih, List.flatMap_cons, List.flatMap_cons, keyChar_plain hc]
      rfl
  | case2 c cs hpair ih =>
    by_cases hb : c = '\\'
    · rw [backslash_cons hpair hb]
      simp [keyChar, afterClosing, not_paired_end]
    · rw [paired_cons hb, ← ih, List.flatMap_cons]
      by_cases hc : c = '\x27'
      · rw [hc]
        rfl
      · rw [keyChar_plain hc, List.append_assoc, List.singleton_append, afterClosing_plain hb, if_neg hc]
  | case3 => simp [BackslashesPaired, backslashesAtEnd, afterClosing]

theorem unescape_key {k : List Char} (hk : BackslashesPaired '\x27' k) :
    unescape (k.flatMap keyChar) = unescape k := by
  fun_induction unescape k with
  | case1 c cs ih =>
    have hc : c ≠ '\x27' := by
      rintro rfl
      exact not_paired_mark cs hk
    rw [List.flatMap_cons, List.flatMap_cons, keyChar_plain hc, ← ih ((paired_pair hc cs).mp hk)]
    rfl
  | case2 c cs hpair ih =>
    have hb := head_ne_backslash hpair hk
    rw [List.flatMap_cons, ← ih ((paired_cons hb cs).mp hk)]
    by_cases hc : c = '\x27'
    · rw [hc]
      rfl
    · rw [keyChar_plain hc, List.singleton_append, unescape_plain hb]
  | case3 => rfl

theorem length_unescape (s : List Char) : (unescape s).length ≤ s.length := by
  fun_induction unescape s with
  | case1 c cs ih =>
    simp only [List.length_cons]
    omega
  | case2 c cs _ ih => exact Nat.succ_le_succ ih
  | case3 => exact Nat.le_refl 0

theorem unescape_eq_self_iff {mark : Char} {s : List Char} (hs : BackslashesPaired mark s) :
    unescape s = s ↔ '\\' ∉ s := by
  fun_induction unescape s with
  | case1 c cs ih =>
    constructor
    · intro h
      have hlen := congrArg List.length h
      have hle := length_unescape cs
      simp only [List.length_cons] at hlen
      omega
    · intro h
      exact absurd List.mem_cons_self h
  | case2 c cs hpair ih =>
    have hb := head_ne_backslash hpair hs
    rw [List.cons.injEq, ih ((paired_cons hb cs).mp hs), List.mem_cons, not_or]
    exact and_congr_left' ⟨fun _ => hb.symm, fun _ => rfl⟩
  | case3 => simp

theorem betweenMarks_printKey (k : List Char) : betweenMarks (printKey k) = k.flatMap keyChar := by
  rw [printKey_eq, betweenMarks, List.tail_cons, List.dropLast_concat]

/-- A printed key is one quoted string if and only if the backslashes of the key are even in number in front of each
quotation mark and at the end; and it is one from which the key is read back if and only if the key has no
backslash. -/
theorem printKey_faithful_iff (k : String) :
    (afterQuoted (printKey k.toList) = some [] ↔ BackslashesPaired '\x27' k.toList) ∧
      (afterQuoted (printKey k.toList) = some [] ∧ unescape (betweenMarks (printKey k.toList)) = k.toList ↔
        '\\' ∉ k.toList) := by
  have hclosed : afterQuoted (printKey k.toList) = some [] ↔ BackslashesPaired '\x27' k.toList :=
    afterClosing_key_iff k.toList
  refine ⟨hclosed, ?_⟩
  rw [betweenMarks_printKey, hclosed]
  constructor
  · rintro ⟨hk, h⟩
    rw [unescape_key hk] at h
    exact (unescape_eq_self_iff hk).mp h
  · intro h
    have hk : BackslashesPaired '\x27' k.toList := (afterClosing_key_iff k.toList).mp (afterClosing_key h [])
    rw [unescape_key hk]
    exact ⟨hk, (unescape_eq_self_iff hk).mpr h⟩

example : afterQuoted (printKey "a\\".toList) = none := by decide

end SassData.Scss
