import SassData.Proofs.Path.Url

namespace SassData.Path

/-- One path spells another: it keeps the components that are neither empty nor a dot, with a single slash between
them and none at the end, and both paths or neither start with exactly two slashes. -/
structure Spells (s p : List Char) : Prop where
  form : ∃ a cs, IsAnchor a ∧ (∀ c ∈ cs, IsComponent c) ∧ s = a ++ Text.glue ['/'] cs
  double : (s.takeWhile (· = '/')).length = 2 ↔ (p.takeWhile (· = '/')).length = 2
  names_eq : names s = names p

theorem isComponent_names (p : List Char) : ∀ c ∈ names p, IsComponent c := by
  intro c hc
  obtain ⟨hparts, hkept⟩ := List.mem_filter.mp hc
  obtain ⟨hne, hdot⟩ := of_decide_eq_true hkept
  exact ⟨hne, hdot, Text.notMem_pieces hparts⟩

theorem anchor_double_iff (p : List Char) : anchor p = ['/', '/'] ↔ (p.takeWhile (· = '/')).length = 2 := by
  unfold anchor
  split
  · next h => simp [h]
  · next h => simp [h]
  · next hne => simpa using hne

theorem anchor_congr {p q : List Char} (hp : IsAnchor (anchor p)) (hq : IsAnchor (anchor q))
    (h : anchor p = ['/', '/'] ↔ anchor q = ['/', '/']) : anchor p = anchor q := by
  obtain hp | hp := hp
  · obtain hq | hq := hq
    · rw [hp, hq]
    · rw [hp, hq] at h
      exact absurd (h.mpr rfl) (by decide)
  · rw [hp, h.mp hp]

theorem isAbsolute_spelling {p : List Char} (hp : isAbsolute p) : isAbsolute (Url.spelling p) := by
  rw [spelling_eq]
  obtain ha | ha := anchor_isAnchor hp <;> rw [ha] <;> rfl

theorem spelling_spelling {p : List Char} (hp : isAbsolute p) : Url.spelling (Url.spelling p) = Url.spelling p :=
  spelling_normal (anchor_isAnchor hp) (isComponent_names p)

theorem spells_spelling {p : List Char} (hp : isAbsolute p) : Spells (Url.spelling p) p := by
  have ha := anchor_isAnchor hp
  have hnames := isComponent_names p
  refine ⟨⟨anchor p, names p, ha, hnames, rfl⟩, ?_, names_normal ha hnames⟩
  rw [← anchor_double_iff, ← anchor_double_iff, spelling_eq, anchor_normal ha hnames]

theorem spells_iff {s p : List Char} (hp : isAbsolute p) : Spells s p ↔ s = Url.spelling p := by
  constructor
  · rintro ⟨⟨a, cs, ha, hcs, rfl⟩, hdouble, hnames⟩
    have hanchor : anchor (a ++ Text.glue ['/'] cs) = anchor p := by
      apply anchor_congr
      · rwa [anchor_normal ha hcs]
      · exact anchor_isAnchor hp
      · rw [anchor_double_iff, anchor_double_iff, hdouble]
    rw [← spelling_normal ha hcs, spelling_eq, hanchor, hnames, ← spelling_eq]
  · rintro rfl
    exact spells_spelling hp

namespace Url

theorem encode_eq_flatMap (s : List Char) : encode s = s.flatMap fun c => encode [c] := by
  simp [encode, Text.Utf8.encode, List.flatMap_assoc]

theorem ofName_absolute {p : List Char} (hp : isAbsolute p) {byteOf : Char → Option UInt8}
    (h : ∀ c ∈ spelling p, byteOf c = none) : ofName byteOf p = .ok (fileScheme ++ encode (spelling p)) := by
  have hencode : ((spelling p).flatMap fun c => ((byteOf c).map encodeByte).getD (encode [c])) =
      (spelling p).flatMap fun c => encode [c] := by
    rw [List.flatMap_def, List.flatMap_def]
    apply congrArg List.flatten
    apply List.map_congr_left
    intro c hc
    rw [h c hc]
    rfl
  rw [ofName, if_pos hp, hencode, ← encode_eq_flatMap]

theorem ofPath_absolute {p : List Char} (hp : isAbsolute p) : ofPath p = .ok (fileScheme ++ encode (spelling p)) :=
  ofName_absolute hp fun _ _ => rfl

theorem isAbsolute_of_ofPath {p u : List Char} (h : ofPath p = .ok u) : isAbsolute p := by
  unfold ofPath ofName at h
  split_ifs at h with hp
  exact hp

theorem ofPath_spelling {p : List Char} (hp : isAbsolute p) : ofPath (spelling p) = ofPath p := by
  rw [ofPath_absolute hp, ofPath_absolute (isAbsolute_spelling hp), spelling_spelling hp]

theorem toPath_ofPath {p u : List Char} (h : ofPath p = .ok u) : toPath u = .ok (spelling p) := by
  have hp := isAbsolute_of_ofPath h
  rw [ofPath_absolute hp] at h
  cases h
  exact toPath_encode (isAbsolute_spelling hp)

end Url

end SassData.Path
