namespace SassData.Text

def pieces (sep : Char) : List Char → List (List Char)
  | [] => [[]]
  | c :: cs =>
    if c = sep then [] :: pieces sep cs
    else match pieces sep cs with
      | [] => [[c]]
      | p :: ps => (c :: p) :: ps

def glue (sep : List Char) : List (List Char) → List Char
  | [] => []
  | [p] => p
  | p :: q :: ps => p ++ sep ++ glue sep (q :: ps)

def unifyNewlines : List Char → List Char
  | '\r' :: '\n' :: cs => '\n' :: unifyNewlines cs
  | '\r' :: cs => '\n' :: unifyNewlines cs
  | c :: cs => c :: unifyNewlines cs
  | [] => []

theorem glue_cons (sep p : List Char) (ps : List (List Char)) :
    glue sep (p :: ps) = p ++ ps.flatMap (sep ++ ·) := by
  induction ps generalizing p with
  | nil => simp [glue]
  | cons q qs ih => rw [glue, ih, List.flatMap_cons, List.append_assoc, List.append_assoc]

theorem pieces_ne_nil (sep : Char) (s : List Char) : pieces sep s ≠ [] := by
  cases s with
  | nil => simp [pieces]
  | cons c cs =>
    by_cases h : c = sep
    · simp [pieces, h]
    · cases hp : pieces sep cs <;> simp [pieces, h, hp]

theorem glue_pieces (sep : Char) (s : List Char) : glue [sep] (pieces sep s) = s := by
  induction s with
  | nil => rfl
  | cons c cs ih =>
    cases h : pieces sep cs with
    | nil => exact absurd h (pieces_ne_nil sep cs)
    | cons p ps =>
      rw [h] at ih
      by_cases hc : c = sep
      · simp [pieces, hc, h, glue, ih]
      · cases ps with
        | nil => simpa [pieces, hc, h, glue] using ih
        | cons q qs => simpa [pieces, hc, h, glue] using ih

theorem notMem_pieces {sep : Char} {s p : List Char} (hp : p ∈ pieces sep s) : sep ∉ p := by
  induction s generalizing p with
  | nil =>
    rw [pieces, List.mem_singleton] at hp
    simp [hp]
  | cons c cs ih =>
    rw [pieces] at hp
    split at hp
    · rw [List.mem_cons] at hp
      obtain rfl | hp := hp
      · exact List.not_mem_nil
      · exact ih hp
    · next hc =>
      split at hp
      · rw [List.mem_singleton] at hp
        simp [hp, Ne.symm hc]
      · next q qs hq =>
        have hsep : ¬ sep = c := fun h => hc h.symm
        rw [List.mem_cons] at hp
        obtain rfl | hp := hp
        · rw [List.mem_cons, not_or]
          exact ⟨hsep, ih (by rw [hq]; exact List.mem_cons_self)⟩
        · exact ih (by rw [hq]; exact List.mem_cons_of_mem _ hp)

theorem pieces_append_sep (sep : Char) (s t : List Char) :
    pieces sep (s ++ sep :: t) = pieces sep s ++ pieces sep t := by
  induction s with
  | nil => rw [List.nil_append, pieces, List.singleton_append, pieces, if_pos rfl]
  | cons c cs ih =>
    by_cases hc : c = sep
    · rw [List.cons_append, pieces, if_pos hc, ih, pieces, if_pos hc, List.cons_append]
    · rw [List.cons_append, pieces, if_neg hc, ih, pieces, if_neg hc]
      cases hp : pieces sep cs with
      | nil => exact absurd hp (pieces_ne_nil sep cs)
      | cons p ps => rfl

theorem pieces_self {sep : Char} {p : List Char} (hp : sep ∉ p) : pieces sep p = [p] := by
  induction p with
  | nil => rfl
  | cons c cs ih =>
    rw [List.mem_cons, not_or] at hp
    rw [pieces, if_neg (Ne.symm hp.1), ih hp.2]

theorem pieces_append {sep : Char} {p : List Char} (hp : sep ∉ p) (s : List Char) :
    pieces sep (p ++ sep :: s) = p :: pieces sep s := by
  rw [pieces_append_sep, pieces_self hp, List.singleton_append]

theorem pieces_glue {sep : Char} {ps : List (List Char)} (hne : ps ≠ []) (hps : ∀ p ∈ ps, sep ∉ p) :
    pieces sep (glue [sep] ps) = ps := by
  induction ps with
  | nil => exact absurd rfl hne
  | cons p ps ih =>
    have hp : sep ∉ p := hps p List.mem_cons_self
    cases ps with
    | nil => rw [glue, pieces_self hp]
    | cons q qs =>
      have hrest := ih (List.cons_ne_nil _ _) fun r hr => hps r (List.mem_cons_of_mem _ hr)
      rw [glue, List.append_assoc, List.singleton_append, pieces_append hp, hrest]

theorem length_pieces (sep : Char) (s : List Char) : (pieces sep s).length = s.count sep + 1 := by
  induction s with
  | nil => rfl
  | cons c cs ih =>
    by_cases hc : c = sep
    · rw [pieces, if_pos hc, hc, List.length_cons, ih, List.count_cons_self]
    · rw [List.count_cons_of_ne hc, ← ih, pieces, if_neg hc]
      cases hp : pieces sep cs with
      | nil => exact absurd hp (pieces_ne_nil sep cs)
      | cons p ps => rfl

theorem count_glue_cons (sep : Char) (p q : List Char) (ps : List (List Char)) :
    (glue [sep] (p :: q :: ps)).count sep = p.count sep + 1 + (glue [sep] (q :: ps)).count sep := by
  rw [glue, List.count_append, List.count_append, List.count_singleton_self]

theorem length_le_count_glue (sep : Char) (ps : List (List Char)) : ps.length ≤ (glue [sep] ps).count sep + 1 := by
  induction ps with
  | nil => exact Nat.zero_le _
  | cons p ps ih =>
    cases ps with
    | nil => exact Nat.le_add_left _ _
    | cons q qs =>
      rw [count_glue_cons, List.length_cons]
      omega

theorem length_pieces_glue {sep : Char} {ps : List (List Char)} (hne : ps ≠ []) :
    (pieces sep (glue [sep] ps)).length = ps.length ↔ ∀ p ∈ ps, sep ∉ p := by
  constructor
  · intro h
    rw [length_pieces] at h
    induction ps with
    | nil => exact absurd rfl hne
    | cons p ps ih =>
      cases ps with
      | nil => exact List.forall_mem_singleton.mpr (List.count_eq_zero.mp (Nat.succ.inj h))
      | cons q qs =>
        have hle := length_le_count_glue sep (q :: qs)
        rw [count_glue_cons, List.length_cons] at h
        have hp : p.count sep = 0 := by omega
        have hrest : (glue [sep] (q :: qs)).count sep + 1 = (q :: qs).length := by omega
        exact List.forall_mem_cons.mpr ⟨List.count_eq_zero.mp hp, ih (List.cons_ne_nil _ _) hrest⟩
  · intro h
    rw [pieces_glue hne h]

theorem unifyNewlines_eq_self {s : List Char} (hs : '\r' ∉ s) : unifyNewlines s = s := by
  induction s with
  | nil => rfl
  | cons c cs ih =>
    rw [List.mem_cons, not_or] at hs
    have hc : c = '\r' → False := fun h => hs.1 h.symm
    rw [unifyNewlines, ih hs.2]
    · exact fun _ h _ => hc h
    · exact fun h => hc h

end SassData.Text
