import Mathlib.Tactic.Common
import SassData.Path.Url

namespace SassData.Path

theorem isAbsolute_iff {p : List Char} : isAbsolute p ↔ p.head? = some '/' := by
  cases p with
  | nil => simp [isAbsolute]
  | cons c cs =>
    rw [isAbsolute.eq_def]
    split
    · next h => cases h; simp
    · next h => simpa using fun hc : c = '/' => h cs (by rw [hc])

def IsComponent (c : List Char) : Prop :=
  c ≠ [] ∧ c ≠ here ∧ '/' ∉ c

theorem walk_isComponent {anchored : Bool} {done cs : List (List Char)} (hdone : ∀ c ∈ done, IsComponent c)
    (hcs : ∀ c ∈ cs, '/' ∉ c) : ∀ c ∈ walk anchored done cs, IsComponent c := by
  fun_induction walk anchored done cs with
  | case1 done =>
    intro c hc
    exact hdone c (List.mem_reverse.mp hc)
  | case2 done c cs _ ih => exact ih hdone (List.forall_mem_cons.mp hcs).2
  | case3 done c cs hskip _ ih =>
    obtain ⟨hc, hcs⟩ := List.forall_mem_cons.mp hcs
    rw [not_or] at hskip
    apply ih _ hcs
    exact List.forall_mem_cons.mpr ⟨⟨hskip.1, hskip.2, hc⟩, hdone⟩
  | case4 c cs _ _ _ ih => exact ih hdone (List.forall_mem_cons.mp hcs).2
  | case5 c cs hskip _ _ ih =>
    obtain ⟨hc, hcs⟩ := List.forall_mem_cons.mp hcs
    rw [not_or] at hskip
    apply ih _ hcs
    exact List.forall_mem_singleton.mpr ⟨hskip.1, hskip.2, hc⟩
  | case6 c cs hskip _ ds ih =>
    obtain ⟨hc, hcs⟩ := List.forall_mem_cons.mp hcs
    rw [not_or] at hskip
    apply ih _ hcs
    exact List.forall_mem_cons.mpr ⟨⟨hskip.1, hskip.2, hc⟩, hdone⟩
  | case7 c cs _ _ d ds _ ih => exact ih (List.forall_mem_cons.mp hdone).2 (List.forall_mem_cons.mp hcs).2

theorem components_isComponent (p : List Char) : ∀ c ∈ components p, IsComponent c := by
  apply walk_isComponent
  · intro c hc
    exact absurd hc List.not_mem_nil
  · intro c hc
    exact Text.notMem_pieces hc

def IsAnchor (a : List Char) : Prop :=
  a = ['/'] ∨ a = ['/', '/']

theorem anchor_isAnchor {p : List Char} (hp : isAbsolute p) : IsAnchor (anchor p) := by
  unfold anchor
  split
  · next hlength =>
    cases p with
    | nil => cases hp
    | cons c cs =>
      by_cases hc : c = '/'
      · simp [hc] at hlength
      · simp [isAbsolute, hc] at hp
  · exact .inr rfl
  · exact .inl rfl

theorem takeWhile_glue {cs : List (List Char)} (hcs : ∀ c ∈ cs, IsComponent c) :
    (Text.glue ['/'] cs).takeWhile (· = '/') = [] := by
  cases cs with
  | nil => rfl
  | cons c cs =>
    obtain ⟨hne, -, hslash⟩ := hcs c (by simp)
    obtain ⟨d, ds, rfl⟩ := List.exists_cons_of_ne_nil hne
    have hd : ¬ d = '/' := fun h => hslash (by simp [h])
    rw [Text.glue_cons, List.cons_append, List.takeWhile_cons_of_neg (by simpa using hd)]

theorem filter_pieces_glue {cs : List (List Char)} (hcs : ∀ c ∈ cs, IsComponent c) :
    (Text.pieces '/' (Text.glue ['/'] cs)).filter (fun c => c ≠ [] ∧ c ≠ here) = cs := by
  by_cases hne : cs = []
  · subst hne
    rfl
  · have hself : cs.filter (fun c => c ≠ [] ∧ c ≠ here) = cs := by
      apply List.filter_eq_self.mpr
      intro c hc
      exact decide_eq_true ⟨(hcs c hc).1, (hcs c hc).2.1⟩
    rw [Text.pieces_glue hne fun c hc => (hcs c hc).2.2, hself]

theorem anchor_normal {a : List Char} (ha : IsAnchor a) {cs : List (List Char)} (hcs : ∀ c ∈ cs, IsComponent c) :
    anchor (a ++ Text.glue ['/'] cs) = a := by
  have htake := takeWhile_glue hcs
  obtain rfl | rfl := ha <;> simp [anchor, htake]

def names (p : List Char) : List (List Char) :=
  (parts p).filter fun c => c ≠ [] ∧ c ≠ here

theorem names_normal {a : List Char} (ha : IsAnchor a) {cs : List (List Char)} (hcs : ∀ c ∈ cs, IsComponent c) :
    names (a ++ Text.glue ['/'] cs) = cs := by
  have hfilter := filter_pieces_glue hcs
  obtain rfl | rfl := ha <;> simpa [names, parts, Text.pieces] using hfilter

theorem spelling_eq (p : List Char) : Url.spelling p = anchor p ++ Text.glue ['/'] (names p) := rfl

theorem spelling_normal {a : List Char} (ha : IsAnchor a) {cs : List (List Char)} (hcs : ∀ c ∈ cs, IsComponent c) :
    Url.spelling (a ++ Text.glue ['/'] cs) = a ++ Text.glue ['/'] cs := by
  rw [spelling_eq, anchor_normal ha hcs, names_normal ha hcs]

theorem normalize_eq {p : List Char} (hp : isAbsolute p) : normalize p = anchor p ++ Text.glue ['/'] (components p) := by
  unfold normalize
  split
  · next hnil =>
    obtain ha | ha := anchor_isAnchor hp
    · simp [ha] at hnil
    · simp [ha] at hnil
  · rfl

theorem spelling_normalize {p : List Char} (hp : isAbsolute p) : Url.spelling (normalize p) = normalize p := by
  rw [normalize_eq hp]
  exact spelling_normal (anchor_isAnchor hp) (components_isComponent p)

theorem isAbsolute_normalize {p : List Char} (hp : isAbsolute p) : isAbsolute (normalize p) := by
  rw [normalize_eq hp]
  obtain ha | ha := anchor_isAnchor hp <;> rw [ha] <;> rfl

theorem isAbsolute_join {cwd : List Char} (hcwd : isAbsolute cwd) (p : List Char) : isAbsolute (join cwd p) := by
  rw [isAbsolute_iff] at hcwd
  unfold join
  split_ifs with hp
  · exact hp
  · rw [isAbsolute_iff, List.head?_append, hcwd, Option.some_or]
  · rw [isAbsolute_iff, List.head?_append, hcwd, Option.some_or]

theorem isAbsolute_absolute {cwd : List Char} (hcwd : isAbsolute cwd) (p : List Char) :
    isAbsolute (absolute cwd p) :=
  isAbsolute_normalize (isAbsolute_join hcwd p)

end SassData.Path
