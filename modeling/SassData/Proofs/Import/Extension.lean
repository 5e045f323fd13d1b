import Mathlib.Data.List.Find
import SassData.Proofs.Import.CanonicalUrl

namespace SassData.Import

section

variable {t : FileTree} (hcwd : Path.isAbsolute t.cwd) {specifier : String} (hs : isDataModule specifier)

include hcwd hs

theorem fileName_candidate (directory : String) :
    Path.fileName (candidate t directory specifier).toList = Path.fileName specifier.toList := by
  have hjoin := Path.fileName_join directory.toList specifier.toList
  have hentry : Path.IsEntry (Path.fileName specifier.toList) := by
    apply Path.isEntry_of_isDataModule _ (Path.slash_notMem_fileName _)
    rwa [Path.isDataModule_fileName]
  rw [← hjoin] at hentry
  rw [candidate, FileTree.absolute, String.toList_ofList, String.toList_ofList, Path.fileName_absolute hentry hcwd,
    hjoin]

theorem isDataModule_candidate (directory : String) : isDataModule (candidate t directory specifier) := by
  rw [isDataModule, ← Path.isDataModule_fileName, fileName_candidate hcwd hs, Path.isDataModule_fileName]
  exact hs

theorem isModule_candidate (directory : String) :
    t.isModule (candidate t directory specifier) = t.isFile (candidate t directory specifier) := by
  have hmodule := isDataModule_candidate hcwd hs directory
  rw [FileTree.isModule, ← isDataModule, hmodule, Bool.true_and]

theorem existing?_isFile (directory : String) :
    existing? t directory specifier = Option.guard t.isFile (candidate t directory specifier) := by
  have hmodule := isModule_candidate hcwd hs directory
  rw [existing?_eq_guard, Option.guard, Option.guard, hmodule]

theorem find?_isModule_candidates (includePaths : List String) (previous : String) :
    (candidates t includePaths specifier previous).find? t.isModule =
      (candidates t includePaths specifier previous).find? t.isFile := by
  apply List.find?_congr
  intro path hpath
  obtain rfl | hpath := List.mem_cons.mp hpath
  · exact isModule_candidate hcwd hs _
  · obtain ⟨root, -, rfl⟩ := List.mem_map.mp hpath
    exact isModule_candidate hcwd hs root

end

/-- A specifier is passed on if what an importer answers depends on how it resolves. -/
def PassedOn (t : FileTree) (specifier : String) (containing : Option String) : Prop :=
  ∃ i j : Importer, i.canonicalize t specifier containing ≠ j.canonicalize t specifier containing

theorem passedOn_iff {t : FileTree} {specifier : String} {containing : Option String} :
    PassedOn t specifier containing ↔
      isDataModule specifier ∧ ∃ url previous, containing = some url ∧ pathOfUrl url = .ok previous := by
  constructor
  · rintro ⟨i, j, hne⟩
    by_cases hs : isDataModule specifier
    · refine ⟨hs, ?_⟩
      cases containing with
      | none => exact absurd (by simp only [Importer.canonicalize]) hne
      | some url =>
        cases hurl : pathOfUrl url with
        | ok previous => exact ⟨url, previous, rfl, hurl⟩
        | error f => exact absurd (by simp only [Importer.canonicalize, hurl]) hne
    · rw [Bool.not_eq_true] at hs
      exact absurd (by rw [canonicalize_other hs, canonicalize_other hs]) hne
  · rintro ⟨hs, url, previous, rfl, hurl⟩
    -- An importer that resolves among files answers at once, and one with an external resolver does not.
    refine ⟨⟨.files [], {}⟩, ⟨.external fun _ _ => [], {}⟩, ?_⟩
    intro heq
    rw [canonicalize_resolve hs hurl, canonicalize_resolve hs hurl] at heq
    cases congrArg Traced.value heq

/-- A candidate for a specifier with the extension of data modules has that extension too, ends in the same name, is
absolute, and is its own normal form wherever it is seen from. So the extension is never what makes a specifier fail
that an importer passes on: the outcome depends on which candidates are files. -/
theorem extension_kept {t : FileTree} (hcwd : Path.isAbsolute t.cwd) (specifier : String) :
    (isDataModule specifier → ∀ directory, let path := candidate t directory specifier
      isDataModule path ∧ Path.fileName path.toList = Path.fileName specifier.toList ∧
        Path.isAbsolute path.toList ∧ ∀ u : FileTree, u.absolute path = path) ∧
    ∀ containing, PassedOn t specifier containing →
      (∀ directory, let path := candidate t directory specifier
        existing? t directory specifier = Option.guard t.isFile path ∧
          (existing? t directory specifier = none ↔ ¬ t.isFile path)) ∧
      ∀ includePaths previous, (resolveFiles t includePaths specifier previous).value =
        searchResult includePaths specifier ((candidates t includePaths specifier previous).find? t.isFile) := by
  constructor
  · intro hs directory path
    refine ⟨isDataModule_candidate hcwd hs directory, fileName_candidate hcwd hs directory, ?_, ?_⟩
    · exact isAbsolute_absolute hcwd _
    · intro u
      exact FileTree.absolute_absolute hcwd _
  · intro containing hpassed
    have hs := (passedOn_iff.mp hpassed).1
    constructor
    · intro directory path
      have hguard := existing?_isFile hcwd hs directory
      refine ⟨hguard, ?_⟩
      rw [hguard, Option.guard_eq_none_iff, Bool.not_eq_true]
    · intro includePaths previous
      rw [resolveFiles_value, find?_isModule_candidates hcwd hs]

def dottedTree : FileTree :=
  { files := [([['w'], ['.', '.', 'p', 'y']], ⟨[], none, none⟩)], cwd := ['/', '/', 'w'] }

theorem extension_kept_dots :
    (Path.isAbsolute dottedTree.cwd ∧ isDataModule "a//../..py" ∧
      PassedOn dottedTree "a//../..py" (some "file:///s/a.scss")) ∧
    Path.fileName (candidate dottedTree "" "a//../..py").toList = Path.fileName "a//../..py".toList ∧
    existing? dottedTree "" "a//../..py" = some "//w/..py" ∧ existing? dottedTree "x" "a//../..py" = none := by
  have hurl : pathOfUrl "file:///s/a.scss" = .ok "/s/a.scss" := by decide +kernel
  have hs : isDataModule "a//../..py" := by decide +kernel
  have hpassed : PassedOn dottedTree "a//../..py" (some "file:///s/a.scss") :=
    passedOn_iff.mpr ⟨hs, _, _, rfl, hurl⟩
  obtain ⟨hkept, hmiss⟩ := extension_kept (t := dottedTree) rfl "a//../..py"
  obtain ⟨hfiles, -⟩ := hmiss _ hpassed
  refine ⟨⟨rfl, hs, hpassed⟩, (hkept hs "").2.1, ?_, ?_⟩
  · rw [(hfiles "").1]
    decide +kernel
  · rw [(hfiles "x").2]
    decide +kernel

end SassData.Import
