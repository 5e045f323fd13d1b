import SassData.Import.Resolve
import SassData.Proofs.Path.FileName

namespace SassData

structure FileTree.IsModule (t : FileTree) (path : String) : Prop where
  extension : ['.', 'p', 'y'] <:+ path.toList ∨ ['.', 'p', 'y', 'w'] <:+ path.toList
  file : t.isFile path

def FileTree.isModule (t : FileTree) (path : String) : Bool :=
  Path.isDataModule path.toList && t.isFile path

theorem FileTree.isModule_iff {t : FileTree} {path : String} : t.isModule path ↔ t.IsModule path := by
  rw [isModule, Bool.and_eq_true, Path.isDataModule_iff]
  exact ⟨fun h => ⟨h.1, h.2⟩, fun h => ⟨h.extension, h.file⟩⟩

theorem FileTree.absolute_absolute {t u : FileTree} (hcwd : Path.isAbsolute t.cwd) (path : String) :
    u.absolute (t.absolute path) = t.absolute path := by
  rw [absolute, absolute, String.toList_ofList, Path.absolute_absolute hcwd]

def IsFirst {α : Type} (P : α → Prop) (as : List α) (a : α) : Prop :=
  ∃ before after, as = before ++ a :: after ∧ P a ∧ ∀ b ∈ before, ¬ P b

theorem IsFirst.append {α : Type} {P : α → Prop} {as : List α} {a : α} (h : IsFirst P as a) (bs : List α) :
    IsFirst P (as ++ bs) a := by
  obtain ⟨before, after, rfl, ha, hbefore⟩ := h
  exact ⟨before, after ++ bs, by rw [List.append_assoc, List.cons_append], ha, hbefore⟩

theorem IsFirst.mem {α : Type} {P : α → Prop} {as : List α} {a : α} (h : IsFirst P as a) : a ∈ as := by
  obtain ⟨before, after, rfl, -, -⟩ := h
  exact List.mem_append_right before List.mem_cons_self

namespace Import

theorem isAbsolute_absolute {t : FileTree} (hcwd : Path.isAbsolute t.cwd) (p : String) :
    Path.isAbsolute (t.absolute p).toList := by
  rw [FileTree.absolute, String.toList_ofList]
  exact Path.isAbsolute_absolute hcwd p.toList

def candidates (t : FileTree) (includePaths : List String) (specifier previous : String) : List String :=
  candidate t (directoryOf previous) specifier :: includePaths.map fun root => candidate t root specifier

theorem existing?_eq_guard (t : FileTree) (directory specifier : String) :
    existing? t directory specifier = Option.guard t.isModule (candidate t directory specifier) := by
  unfold existing?
  by_cases h : t.isModule (candidate t directory specifier) = true
  · rw [Option.guard_pos h]
    exact if_pos (Bool.and_eq_true_iff.mp h)
  · rw [Option.guard_eq_none_iff.mpr (Bool.eq_false_iff.mpr h)]
    exact if_neg fun hmodule => h (Bool.and_eq_true_iff.mpr hmodule)

theorem findSome?_existing? (t : FileTree) (includePaths : List String) (specifier : String) :
    (includePaths.findSome? fun root => existing? t root specifier) =
      (includePaths.map fun root => candidate t root specifier).find? t.isModule := by
  rw [List.find?_eq_findSome?_guard, List.findSome?_map, Function.comp_def]
  simp only [existing?_eq_guard]

def searchResult (includePaths : List String) (specifier : String) : Option String → Except Failure (Option String)
  | some path => .ok (some path)
  | none => if includePaths = [] then .ok none else .error (notFound specifier includePaths)

theorem included_eq (t : FileTree) (specifier : String) (includePaths : List String) :
    included t specifier includePaths =
      searchResult includePaths specifier
        ((includePaths.map fun root => candidate t root specifier).find? t.isModule) := by
  unfold included
  by_cases hnone : includePaths = []
  · subst hnone
    rfl
  · rw [if_neg hnone, findSome?_existing?]
    cases (includePaths.map fun root => candidate t root specifier).find? t.isModule with
    | some path => rfl
    | none => exact (if_neg hnone).symm

theorem resolveFiles_value (t : FileTree) (includePaths : List String) (specifier previous : String) :
    (resolveFiles t includePaths specifier previous).value =
      searchResult includePaths specifier ((candidates t includePaths specifier previous).find? t.isModule) := by
  unfold resolveFiles candidates beside?
  rw [existing?_eq_guard]
  by_cases hbeside : t.isModule (candidate t (directoryOf previous) specifier) = true
  · rw [List.find?_cons_of_pos hbeside, Option.guard_pos hbeside]
    rfl
  · rw [List.find?_cons_of_neg hbeside, ← included_eq, Option.guard_eq_none_iff.mpr (Bool.eq_false_iff.mpr hbeside)]
    rfl

theorem searchResult_eq_found_iff {includePaths : List String} {specifier path : String} {path? : Option String} :
    searchResult includePaths specifier path? = .ok (some path) ↔ path? = some path := by
  constructor
  · intro h
    unfold searchResult at h
    split at h
    · cases h
      rfl
    · split_ifs at h
      cases h
  · rintro rfl
    rfl

theorem searchResult_eq_error {includePaths : List String} {specifier : String} {path? : Option String} {f : Failure}
    (h : searchResult includePaths specifier path? = .error f) : f = notFound specifier includePaths := by
  unfold searchResult at h
  split at h
  · cases h
  · split_ifs at h
    cases h
    rfl

theorem find?_isModule_iff {t : FileTree} {paths : List String} {path : String} :
    paths.find? t.isModule = some path ↔ IsFirst t.IsModule paths path := by
  simp only [List.find?_eq_some_iff_append, Bool.not_eq_true', ← Bool.not_eq_true, FileTree.isModule_iff]
  constructor
  · rintro ⟨hfound, before, after, hpaths, hbefore⟩
    exact ⟨before, after, hpaths, hfound, hbefore⟩
  · rintro ⟨before, after, hpaths, hfound, hbefore⟩
    exact ⟨hfound, before, after, hpaths, hbefore⟩

theorem find?_isModule_eq_none {t : FileTree} {paths : List String} (h : ∀ path ∈ paths, ¬ t.IsModule path) :
    paths.find? t.isModule = none := by
  apply List.find?_eq_none.mpr
  intro path hpath
  rw [FileTree.isModule_iff]
  exact h path hpath

section

variable {t : FileTree} {includePaths : List String} {specifier previous path : String}

theorem resolveFiles_found_iff :
    (resolveFiles t includePaths specifier previous).value = .ok (some path) ↔
      IsFirst t.IsModule (candidates t includePaths specifier previous) path := by
  rw [resolveFiles_value, searchResult_eq_found_iff, find?_isModule_iff]

theorem candidates_append (more : List String) :
    candidates t (includePaths ++ more) specifier previous =
      candidates t includePaths specifier previous ++ more.map fun root => candidate t root specifier := by
  rw [candidates, List.map_append, candidates, List.cons_append]

theorem mem_candidates (h : path ∈ candidates t includePaths specifier previous) : ∃ p, path = t.absolute p := by
  obtain rfl | h := List.mem_cons.mp h
  · exact ⟨_, rfl⟩
  · obtain ⟨root, -, rfl⟩ := List.mem_map.mp h
    exact ⟨_, rfl⟩

theorem resolveFiles_absolute (h : (resolveFiles t includePaths specifier previous).value = .ok (some path)) :
    ∃ p, path = t.absolute p :=
  mem_candidates (resolveFiles_found_iff.mp h).mem

theorem resolveFiles_module (h : (resolveFiles t includePaths specifier previous).value = .ok (some path)) :
    t.IsModule path := by
  obtain ⟨-, -, -, hmodule, -⟩ := resolveFiles_found_iff.mp h
  exact hmodule

theorem resolveFiles_error {f : Failure}
    (h : (resolveFiles t includePaths specifier previous).value = .error f) : f = notFound specifier includePaths := by
  rw [resolveFiles_value] at h
  exact searchResult_eq_error h

end

end Import

end SassData
