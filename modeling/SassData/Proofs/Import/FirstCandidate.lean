import SassData.Proofs.Import.Candidates
import SassData.Proofs.Import.RunOutcome

namespace SassData

namespace Import

section

variable {t : FileTree} {includePaths : List String} {specifier previous : String}

theorem candidates_absolute (hspecifier : Path.isAbsolute specifier.toList) :
    candidates t includePaths specifier previous = List.replicate (includePaths.length + 1) (t.absolute specifier) := by
  have hcandidate : ∀ directory, candidate t directory specifier = t.absolute specifier := by
    intro directory
    rw [candidate, Path.join_absolute hspecifier, String.ofList_toList]
  rw [candidates, List.replicate_succ, hcandidate]
  simp only [hcandidate, List.map_const']

theorem resolveFiles_absolute_specifier (hspecifier : Path.isAbsolute specifier.toList) :
    (resolveFiles t includePaths specifier previous).value =
      searchResult includePaths specifier (Option.guard t.isModule (t.absolute specifier)) := by
  rw [resolveFiles_value, candidates_absolute hspecifier, List.find?_replicate_of_length_pos (Nat.succ_pos _)]
  rfl

end

theorem searchResult_none_iff {includePaths : List String} {specifier : String} :
    searchResult includePaths specifier none = .ok none ↔ includePaths = [] := by
  unfold searchResult
  split_ifs with hnone
  · simp [hnone]
  · simp [hnone]

theorem searchResult_fails {includePaths : List String} (hne : includePaths ≠ []) (specifier : String) :
    FailsWith (searchResult includePaths specifier none) .resolutionNotFound :=
  ⟨_, if_neg hne, rfl⟩

/-- What resolving among files gives: the first candidate that is a data module, spelled out from the root. If none
is, a miss or a failure tells whether there were include paths. More include paths do not change what is found, and
for an absolute specifier neither the importing style sheet nor the include paths matter. -/
theorem first_candidate {t : FileTree} (hcwd : Path.isAbsolute t.cwd) (includePaths : List String)
    (specifier previous : String) :
    let resolved := fun includePaths previous => (resolveFiles t includePaths specifier previous).value
    (∀ path, resolved includePaths previous = .ok (some path) ↔
      IsFirst t.IsModule (candidates t includePaths specifier previous) path) ∧
    (∀ path, resolved includePaths previous = .ok (some path) →
      Path.isAbsolute path.toList ∧ t.absolute path = path ∧
        ∀ c ∈ Path.parts path.toList, c ≠ Path.here ∧ c ≠ Path.up) ∧
    ((∀ path ∈ candidates t includePaths specifier previous, ¬ t.IsModule path) →
      (resolved includePaths previous = .ok none ↔ includePaths = []) ∧
      (includePaths ≠ [] → FailsWith (resolved includePaths previous) .resolutionNotFound)) ∧
    (∀ path more, resolved includePaths previous = .ok (some path) →
      resolved (includePaths ++ more) previous = .ok (some path)) ∧
    (Path.isAbsolute specifier.toList → ∀ previous',
      resolved includePaths previous' = resolved includePaths previous ∧
      ∀ includePaths', includePaths ≠ [] → includePaths' ≠ [] →
        resolved includePaths' previous' = resolved includePaths previous ∨
          FailsWith (resolved includePaths' previous') .resolutionNotFound ∧
            FailsWith (resolved includePaths previous) .resolutionNotFound) := by
  dsimp only
  refine ⟨fun path => resolveFiles_found_iff, ?_, ?_, ?_, ?_⟩
  · intro path hfound
    obtain ⟨p, rfl⟩ := mem_candidates (resolveFiles_found_iff.mp hfound).mem
    refine ⟨isAbsolute_absolute hcwd p, FileTree.absolute_absolute hcwd p, ?_⟩
    rw [FileTree.absolute, String.toList_ofList]
    exact Path.parts_normalize (Path.isAbsolute_join hcwd p.toList)
  · intro hnone
    rw [resolveFiles_value, find?_isModule_eq_none hnone]
    exact ⟨searchResult_none_iff, fun hne => searchResult_fails hne specifier⟩
  · intro path more hfound
    rw [resolveFiles_found_iff] at hfound
    rw [resolveFiles_found_iff, candidates_append]
    exact hfound.append _
  · intro hspecifier previous'
    -- Every candidate is the specifier itself, so that the search depends on no directory.
    simp only [resolveFiles_absolute_specifier hspecifier, true_and]
    intro includePaths' hne hne'
    cases Option.guard t.isModule (t.absolute specifier) with
    | some path => exact .inl rfl
    | none => exact .inr ⟨searchResult_fails hne' specifier, searchResult_fails hne specifier⟩

def shadowedTree : FileTree :=
  { files := [([['w'], ['l', 'i', 'b'], ['d', '.', 'p', 'y', 'w']], ⟨[], none, none⟩)]
    directories := [[['w'], ['s'], ['d', '.', 'p', 'y', 'w']]]
    cwd := ['/', 'w'] }

theorem first_candidate_shadowed :
    Path.isAbsolute shadowedTree.cwd ∧
      (resolveFiles shadowedTree [".", "..//../w/lib"] "./x/../d.pyw" "s//a.scss").value =
        .ok (some "/w/lib/d.pyw") := by
  refine ⟨rfl, ((first_candidate (t := shadowedTree) rfl _ _ _).1 _).mpr ?_⟩
  refine ⟨["/w/s/d.pyw", "/w/d.pyw"], [], by decide +kernel, ?_, ?_⟩
  · rw [← FileTree.isModule_iff]
    decide +kernel
  · simp only [← FileTree.isModule_iff]
    decide +kernel

end Import

end SassData
