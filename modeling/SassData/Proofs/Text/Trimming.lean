import Mathlib.Data.List.DropRight
import SassData.Text.Blank
import SassData.Text.Pieces

namespace SassData.Text

theorem dropRight_eq (p : Char → Bool) (s : List Char) : dropRight p s = s.rdropWhile p := rfl

theorem dropRight_append_blank {p : Char → Bool} {q : List Char} (hq : ∀ c ∈ q, p c) (s : List Char) :
    dropRight p (s ++ q) = dropRight p s := by
  have hreverse : ∀ c ∈ q.reverse, p c := fun c hc => hq c (List.mem_reverse.mp hc)
  rw [dropRight, List.reverse_append, List.dropWhile_append_of_pos hreverse, dropRight]

theorem dropRight_eq_self {p : Char → Bool} {s : List Char} (hs : ∀ c ∈ s.getLast?, ¬ p c) : dropRight p s = s := by
  rw [dropRight_eq, List.rdropWhile_eq_self_iff]
  intro hne
  exact hs _ (List.getLast?_eq_some_getLast hne)

theorem prefix_dropRight {p : Char → Bool} {n : List Char} (hn : ∀ c ∈ n, ¬ p c) (s : List Char) :
    n <+: dropRight p (n ++ s) := by
  induction s using List.reverseRecOn with
  | nil =>
    have hself : dropRight p n = n := dropRight_eq_self fun c hc => hn c (List.mem_of_getLast? hc)
    refine ⟨[], ?_⟩
    rw [List.append_nil, hself]
  | append_singleton s c ih =>
    rw [← List.append_assoc, dropRight_eq, List.rdropWhile_concat]
    split_ifs
    · exact ih
    · rw [List.append_assoc]
      exact List.prefix_append n _

theorem prefix_trim {n : List Char} (hn : ∀ c ∈ n, ¬ isBlank c) (s : List Char) : n <+: trim (n ++ s) := by
  cases n with
  | nil => exact List.nil_prefix
  | cons c cs =>
    have hc := hn c List.mem_cons_self
    rw [trim, trimBy, List.cons_append, List.dropWhile_cons_of_neg hc, ← List.cons_append]
    exact prefix_dropRight hn s

theorem dropWhile_append_stop {p : Char → Bool} {t : List Char} (ht : ∀ c ∈ t.head?, ¬ p c) (s : List Char) :
    (s ++ t).dropWhile p = s.dropWhile p ++ t := by
  rw [List.dropWhile_append]
  split_ifs with hs
  · rw [List.isEmpty_iff.mp hs, List.nil_append]
    cases t with
    | nil => rfl
    | cons c cs => exact List.dropWhile_cons_of_neg (ht c rfl)
  · rfl

theorem getLast?_rdropWhile (p : Char → Bool) (s : List Char) : ∀ c ∈ (s.rdropWhile p).getLast?, ¬ p c := by
  intro c hc
  obtain ⟨hne, rfl⟩ := List.mem_getLast?_eq_getLast hc
  exact List.rdropWhile_last_not p s hne

structure IsTrimmed (s : List Char) : Prop where
  head : ∀ c ∈ s.head?, ¬ isBlank c
  last : ∀ c ∈ s.getLast?, ¬ isBlank c

theorem isTrimmed_trim (s : List Char) : IsTrimmed (trim s) := by
  constructor
  · intro c hc
    obtain ⟨q, hq⟩ := List.rdropWhile_prefix isBlank (s.dropWhile isBlank)
    have hhead : ((s.dropWhile isBlank).rdropWhile isBlank).head? = some c := hc
    have hstart : (s.dropWhile isBlank).head? = some c := by
      rw [← hq, List.head?_append, hhead, Option.some_or]
    have hstop := List.head?_dropWhile_not isBlank s
    rw [hstart] at hstop
    rw [Bool.not_eq_true]
    exact hstop
  · exact getLast?_rdropWhile isBlank (s.dropWhile isBlank)

theorem IsTrimmed.trim_eq {s : List Char} (hs : IsTrimmed s) : trim s = s := by
  have hstart : s.dropWhile isBlank = s := dropWhile_append_stop hs.head []
  rw [trim, trimBy, hstart, dropRight_eq_self hs.last]

theorem trim_eq_nil_iff {s : List Char} : trim s = [] ↔ ∀ c ∈ s, isBlank c := by
  constructor
  · intro h
    apply List.dropWhile_eq_nil_iff.mp
    rw [trim, trimBy, dropRight_eq, List.rdropWhile_eq_nil_iff] at h
    have hstop := List.head?_dropWhile_not isBlank s
    cases hs : s.dropWhile isBlank with
    | nil => rfl
    | cons c cs =>
      rw [hs] at h hstop
      have hc := h c List.mem_cons_self
      rw [hstop] at hc
      cases hc
  · intro h
    rw [trim, trimBy, List.dropWhile_eq_nil_iff.mpr h]
    rfl

theorem toList_trimmed (s : String) : (trimmed s).toList = trim s.toList :=
  String.toList_ofList

theorem isTrimmed_trimmed (s : String) : IsTrimmed (trimmed s).toList := by
  rw [toList_trimmed]
  exact isTrimmed_trim _

theorem trimmed_eq_empty_iff {s : String} : trimmed s = "" ↔ ∀ c ∈ s.toList, isBlank c := by
  rw [← trim_eq_nil_iff, ← toList_trimmed, String.toList_eq_nil_iff]

theorem trim_append {t : List Char} (hne : t ≠ []) (ht : IsTrimmed t) (s : List Char) {q : List Char}
    (hq : ∀ c ∈ q, isBlank c) :
    trim (s ++ t ++ q) = s.dropWhile isBlank ++ t := by
  have hstop : ∀ c ∈ (t ++ q).head?, ¬ isBlank c := by
    rw [List.head?_append_of_ne_nil t hne]
    exact ht.head
  have hend : ∀ c ∈ (s.dropWhile isBlank ++ t).getLast?, ¬ isBlank c := by
    rw [List.getLast?_append_of_ne_nil _ hne]
    exact ht.last
  rw [trim, trimBy, List.append_assoc, dropWhile_append_stop hstop, ← List.append_assoc, dropRight_append_blank hq,
    dropRight_eq_self hend]

theorem rtakeWhile_append_of_pos {p : Char → Bool} {t : List Char} (ht : ∀ c ∈ t, p c) (s : List Char) :
    (s ++ t).rtakeWhile p = s.rtakeWhile p ++ t := by
  have hreverse : ∀ c ∈ t.reverse, p c := fun c hc => ht c (List.mem_reverse.mp hc)
  rw [List.rtakeWhile, List.reverse_append, List.takeWhile_append_of_pos hreverse, List.reverse_append,
    List.reverse_reverse, List.rtakeWhile]

theorem rtakeWhile_append_stop {p : Char → Bool} {s : List Char} (hs : ∀ c ∈ s.getLast?, ¬ p c) (t : List Char) :
    (s ++ t).rtakeWhile p = t.rtakeWhile p := by
  have hstop : s.rtakeWhile p = [] := by
    apply List.rtakeWhile_eq_nil_iff.mpr
    intro hne
    exact hs _ (List.getLast?_eq_some_getLast hne)
  induction t using List.reverseRecOn with
  | nil => rw [List.append_nil, hstop, List.rtakeWhile_nil]
  | append_singleton t c ih => rw [← List.append_assoc, List.rtakeWhile_concat, List.rtakeWhile_concat, ih]

def IsLines (s : List Char) : Prop :=
  ∀ c ∈ s.getLast?, c = '\n'

def lastLine (s : List Char) : List Char :=
  s.rtakeWhile (· ≠ '\n')

theorem IsLines.dropWhile {s : List Char} (hs : IsLines s) (p : Char → Bool) : IsLines (s.dropWhile p) := by
  intro c hc
  apply hs c
  rw [← List.takeWhile_append_dropWhile (p := p) (l := s), List.getLast?_append, hc]
  rfl

theorem lastLine_append {s t : List Char} (hs : IsLines s) (ht : '\n' ∉ t) : lastLine (s ++ t) = t := by
  have hstop : ∀ c ∈ s.getLast?, ¬ decide (c ≠ '\n') := by
    intro c hc
    rw [hs c hc]
    decide
  rw [lastLine, rtakeWhile_append_stop hstop, List.rtakeWhile_eq_self_iff]
  intro c hc
  rw [decide_eq_true_eq]
  rintro rfl
  exact ht hc

theorem notMem_lastLine (s : List Char) : '\n' ∉ lastLine s := by
  intro h
  exact absurd (List.mem_rtakeWhile_imp h) (by decide)

theorem getLast?_pieces (s : List Char) : (pieces '\n' s).getLast? = some (lastLine s) := by
  have hsplit : s.rdropWhile (· ≠ '\n') ++ lastLine s = s := List.rdropWhile_append_rtakeWhile
  have hself := pieces_self (notMem_lastLine s)
  rcases List.eq_nil_or_concat (s.rdropWhile (· ≠ '\n')) with hnil | ⟨front, c, hfront⟩
  · rw [hnil, List.nil_append] at hsplit
    rw [hsplit] at hself
    rw [hself, hsplit]
    rfl
  · rw [List.concat_eq_append] at hfront
    have hlast : c ∈ (s.rdropWhile (· ≠ '\n')).getLast? := by
      rw [hfront, List.getLast?_concat]
      rfl
    have hc : c = '\n' := by simpa using getLast?_rdropWhile (· ≠ '\n') s c hlast
    have hs : s = front ++ '\n' :: lastLine s := by
      rw [hfront, hc, List.append_assoc, List.singleton_append] at hsplit
      exact hsplit.symm
    have hpieces := pieces_append_sep '\n' front (lastLine s)
    rw [← hs, hself] at hpieces
    rw [hpieces, List.getLast?_concat]

theorem mem_of_mem_trim {s : List Char} {c : Char} (h : c ∈ trim s) : c ∈ s := by
  have hlead : trim s <+: s.dropWhile isBlank := List.rdropWhile_prefix _ _
  exact (List.dropWhile_suffix _).mem (hlead.mem h)

end SassData.Text
