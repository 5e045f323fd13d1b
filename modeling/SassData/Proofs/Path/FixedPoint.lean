import SassData.Proofs.Path.Normal

/-!
The normal form of an absolute path has neither dots nor double dots among its components, and is its own normal form.
-/

namespace SassData.Path

def IsEntry (c : List Char) : Prop :=
  IsComponent c ∧ c ≠ up

theorem walk_skip {anchored : Bool} {done : List (List Char)} {c : List Char} (hc : c = [] ∨ c = here)
    (cs : List (List Char)) : walk anchored done (c :: cs) = walk anchored done cs := by
  cases done <;> simp only [walk, if_pos hc]

theorem walk_push {anchored : Bool} {done : List (List Char)} {c : List Char} (hc : c ≠ [] ∧ c ≠ here) (hup : c ≠ up)
    (cs : List (List Char)) : walk anchored done (c :: cs) = walk anchored (c :: done) cs := by
  cases done <;> simp only [walk, if_neg (not_or.mpr hc), if_pos hup]

theorem up_notMem_walk {done : List (List Char)} (hdone : up ∉ done) (cs : List (List Char)) :
    up ∉ walk true done cs := by
  fun_induction walk true done cs with
  | case1 done => rwa [List.mem_reverse]
  | case2 done c cs _ ih => exact ih hdone
  | case3 done c cs _ hup ih =>
    apply ih
    rw [List.mem_cons, not_or]
    exact ⟨Ne.symm hup, hdone⟩
  | case4 c cs _ _ _ ih => exact ih hdone
  | case5 c cs _ _ hanchored ih => exact absurd rfl hanchored
  -- A double dot on top of the components so far is the one thing that could keep another one.
  | case6 c cs _ _ ds ih => exact absurd List.mem_cons_self hdone
  | case7 c cs _ _ d ds _ ih =>
    rw [List.mem_cons, not_or] at hdone
    exact ih hdone.2

theorem components_isEntry {p : List Char} (hp : isAbsolute p) : ∀ c ∈ components p, IsEntry c := by
  intro c hc
  refine ⟨components_isComponent p c hc, ?_⟩
  rintro rfl
  rw [components, hp] at hc
  exact up_notMem_walk List.not_mem_nil _ hc

theorem walk_entries (anchored : Bool) {cs : List (List Char)} (hcs : ∀ c ∈ cs, IsEntry c) (done : List (List Char)) :
    walk anchored done cs = done.reverse ++ cs := by
  induction cs generalizing done with
  | nil => exact (List.append_nil _).symm
  | cons c cs ih =>
    obtain ⟨⟨⟨hne, hdot, -⟩, hup⟩, hcs⟩ := List.forall_mem_cons.mp hcs
    rw [walk_push ⟨hne, hdot⟩ hup, ih hcs, List.reverse_cons, List.append_assoc, List.singleton_append]

theorem walk_cons_congr {anchored : Bool} {cs ds : List (List Char)}
    (h : ∀ done, walk anchored done cs = walk anchored done ds) (done : List (List Char)) (c : List Char) :
    walk anchored done (c :: cs) = walk anchored done (c :: ds) := by
  cases done <;> simp only [walk, h]

theorem walk_filter (anchored : Bool) (cs done : List (List Char)) :
    walk anchored done (cs.filter fun c => c ≠ [] ∧ c ≠ here) = walk anchored done cs := by
  induction cs generalizing done with
  | nil => rfl
  | cons c cs ih =>
    by_cases hc : c = [] ∨ c = here
    · rw [List.filter_cons_of_neg, ih, walk_skip hc]
      rw [decide_eq_true_iff]
      exact fun h => hc.elim h.1 h.2
    · rw [List.filter_cons_of_pos]
      · exact walk_cons_congr ih done c
      · rw [decide_eq_true_iff]
        exact not_or.mp hc

theorem components_eq_walk_names (p : List Char) : components p = walk (isAbsolute p) [] (names p) :=
  (walk_filter _ _ _).symm

section

variable {p : List Char} (hp : isAbsolute p)

include hp

theorem components_normalize : components (normalize p) = components p := by
  rw [components_eq_walk_names, normalize_eq hp, names_normal (anchor_isAnchor hp) (components_isComponent p),
    walk_entries _ (components_isEntry hp), List.reverse_nil, List.nil_append]

theorem normalize_normalize : normalize (normalize p) = normalize p := by
  have hanchor : anchor (normalize p) = anchor p := by
    rw [normalize_eq hp, anchor_normal (anchor_isAnchor hp) (components_isComponent p)]
  rw [normalize_eq (isAbsolute_normalize hp), hanchor, components_normalize hp, ← normalize_eq hp]

theorem join_absolute (directory : List Char) : join directory p = p :=
  if_pos hp

end

theorem absolute_absolute {cwd cwd' : List Char} (hcwd : isAbsolute cwd) (p : List Char) :
    absolute cwd' (absolute cwd p) = absolute cwd p := by
  rw [absolute, join_absolute (isAbsolute_absolute hcwd p), absolute, normalize_normalize (isAbsolute_join hcwd p)]

theorem mem_parts_normal {a : List Char} (ha : IsAnchor a) {cs : List (List Char)} (hcs : ∀ c ∈ cs, IsComponent c)
    {c : List Char} (hc : c ∈ parts (a ++ Text.glue ['/'] cs)) : c = [] ∨ c ∈ cs := by
  have hglue : c ∈ Text.pieces '/' (Text.glue ['/'] cs) → c = [] ∨ c ∈ cs := by
    intro h
    by_cases hne : cs = []
    · rw [hne, Text.glue, Text.pieces, List.mem_singleton] at h
      exact .inl h
    · rw [Text.pieces_glue hne fun c hc => (hcs c hc).2.2] at h
      exact .inr h
  obtain rfl | rfl := ha
  · rw [parts, List.singleton_append, Text.pieces, if_pos rfl, List.mem_cons] at hc
    exact hc.elim .inl hglue
  · rw [parts, List.cons_append, List.singleton_append, Text.pieces, if_pos rfl, Text.pieces, if_pos rfl,
      List.mem_cons, List.mem_cons] at hc
    exact hc.elim .inl fun hc => hc.elim .inl hglue

theorem parts_normalize {p : List Char} (hp : isAbsolute p) : ∀ c ∈ parts (normalize p), c ≠ here ∧ c ≠ up := by
  intro c hc
  rw [normalize_eq hp] at hc
  obtain rfl | hc := mem_parts_normal (anchor_isAnchor hp) (components_isComponent p) hc
  · decide
  · obtain ⟨⟨-, hdot, -⟩, hup⟩ := components_isEntry hp c hc
    exact ⟨hdot, hup⟩

end SassData.Path
