import SassData.Import.Importer
import SassData.Proofs.Import.Candidates
import SassData.Proofs.Path.Spelling

namespace SassData.Import

def spelled (path : String) : String :=
  String.ofList (Path.Url.spelling path.toList)

theorem urlOfPath_absolute {path : String} (hp : Path.isAbsolute path.toList) :
    ∃ url, urlOfPath path = .ok url ∧ pathOfUrl url = .ok (spelled path) := by
  have hurl := Path.Url.ofPath_absolute hp
  refine ⟨_, by rw [urlOfPath, urlOfName]; exact congrArg (fun u => (u.map String.ofList).mapError Failure.url) hurl, ?_⟩
  rw [pathOfUrl, String.toList_ofList, Path.Url.toPath_ofPath hurl]
  rfl

theorem urlOfPath_spelled {path : String} (hp : Path.isAbsolute path.toList) :
    urlOfPath (spelled path) = urlOfPath path := by
  have hspelling := Path.Url.ofPath_spelling hp
  rw [Path.Url.ofPath, Path.Url.ofPath] at hspelling
  rw [urlOfPath, urlOfPath, urlOfName, urlOfName, spelled, String.toList_ofList, hspelling]

theorem isAbsolute_of_urlOfPath {path url : String} (h : urlOfPath path = .ok url) : Path.isAbsolute path.toList := by
  have hname : urlOfPath path = ((Path.Url.ofPath path.toList).map String.ofList).mapError .url := rfl
  rw [hname] at h
  cases hu : Path.Url.ofPath path.toList with
  | error e =>
    rw [hu] at h
    cases h
  | ok u => exact Path.Url.isAbsolute_of_ofPath hu

theorem pathOfUrl_urlOfPath {path url : String} (h : urlOfPath path = .ok url) :
    pathOfUrl url = .ok (spelled path) := by
  obtain ⟨u, hu, hback⟩ := urlOfPath_absolute (isAbsolute_of_urlOfPath h)
  rw [h] at hu
  cases hu
  exact hback

theorem spelled_congr {p q url : String} (hp : urlOfPath p = .ok url) (hq : urlOfPath q = .ok url) :
    spelled p = spelled q := by
  have hback := pathOfUrl_urlOfPath hp
  rw [pathOfUrl_urlOfPath hq] at hback
  exact (Except.ok.inj hback).symm

theorem spells_spelled {path : String} (hp : Path.isAbsolute path.toList) (s : String) :
    Path.Spells s.toList path.toList ↔ s = spelled path := by
  rw [Path.spells_iff hp, spelled, ← String.toList_inj, String.toList_ofList]

theorem spelled_absolute {t : FileTree} {p : String} (h : Path.isAbsolute (Path.join t.cwd p.toList)) :
    spelled (t.absolute p) = t.absolute p := by
  rw [spelled, FileTree.absolute, String.toList_ofList, Path.absolute, Path.spelling_normalize h]

theorem canonicalize_resolve {specifier url previous : String} (hs : isDataModule specifier)
    (hurl : pathOfUrl url = .ok previous) (i : Importer) (t : FileTree) :
    i.canonicalize t specifier (some url) = (do
      let answer ← i.strategy.resolve t specifier previous
      pure (answer.toUrl t)) := by
  simp only [Importer.canonicalize, hs, Bool.not_true, Bool.false_eq_true, if_false, hurl]

theorem canonicalize_other {specifier : String} (hs : isDataModule specifier = false) (i : Importer) (t : FileTree)
    (containing : Option String) : i.canonicalize t specifier containing = pure (.now (.ok none)) := by
  simp only [Importer.canonicalize, hs, Bool.not_false, if_true]

theorem url_absolute {t : FileTree} (hcwd : Path.isAbsolute t.cwd) (p : String) :
    ∃ url, urlOfPath (t.absolute p) = .ok url ∧ pathOfUrl url = .ok (t.absolute p) := by
  have hurl := urlOfPath_absolute (isAbsolute_absolute hcwd p)
  rwa [spelled_absolute (Path.isAbsolute_join hcwd p.toList)] at hurl

def IsText (t : FileTree) (path : String) : Prop :=
  ∀ c ∈ path.toList, t.byteOf c = none

theorem urlOfName_text {t : FileTree} {path : String} (hp : Path.isAbsolute path.toList)
    (h : IsText t (spelled path)) : urlOfName t.byteOf path = urlOfPath path := by
  rw [IsText, spelled, String.toList_ofList] at h
  have hurl := Path.Url.ofName_absolute hp h
  rw [← Path.Url.ofPath_absolute hp] at hurl
  rw [urlOfPath, urlOfName, urlOfName, hurl]
  rfl

theorem urlOfName_absolute {t : FileTree} (hcwd : Path.isAbsolute t.cwd) {p : String} (h : IsText t (t.absolute p)) :
    urlOfName t.byteOf (t.absolute p) = urlOfPath (t.absolute p) := by
  apply urlOfName_text (isAbsolute_absolute hcwd p)
  rwa [spelled_absolute (Path.isAbsolute_join hcwd p.toList)]

inductive IsResolved : String → Prop
  | found {t : FileTree} {includePaths : List String} {specifier previous path : String}
      (hcwd : Path.isAbsolute t.cwd)
      (h : (resolveFiles t includePaths specifier previous).value = .ok (some path)) : IsResolved path
  | normal {t : FileTree} {path : String} (hp : Path.isAbsolute path.toList) (h : t.absolute path = path) :
      IsResolved path

theorem spelled_resolved {path : String} (h : IsResolved path) : spelled path = path := by
  cases h with
  | found hcwd h =>
    obtain ⟨p, rfl⟩ := resolveFiles_absolute h
    exact spelled_absolute (Path.isAbsolute_join hcwd p.toList)
  | @normal t _ hp h =>
    have hjoin : Path.join t.cwd path.toList = path.toList := if_pos hp
    have hspelled := spelled_absolute (t := t) (p := path) (by rwa [hjoin])
    rwa [h] at hspelled

/-- Paths and their URLs: going to the URL and back gives the spelling of a path, coming from a URL and going back
gives the same URL, and resolved paths with the same URL are equal. -/
theorem paths_and_urls :
    (∀ path : String, Path.isAbsolute path.toList → ∃ url s, urlOfPath path = .ok url ∧ pathOfUrl url = .ok s ∧
      ∀ s' : String, Path.Spells s'.toList path.toList ↔ s' = s) ∧
    (∀ (t : FileTree) (path : String), Path.isAbsolute path.toList → t.absolute path = path →
      ∃ url, urlOfPath path = .ok url ∧ pathOfUrl url = .ok path) ∧
    (∀ path url : String, urlOfPath path = .ok url → ∃ q, pathOfUrl url = .ok q ∧ urlOfPath q = .ok url) ∧
    (∀ p q url : String, urlOfPath p = .ok url → urlOfPath q = .ok url →
      ∃ s : String, Path.Spells s.toList p.toList ∧ Path.Spells s.toList q.toList) ∧
    ∀ p q url : String, IsResolved p → IsResolved q → urlOfPath p = .ok url → urlOfPath q = .ok url → p = q := by
  refine ⟨?_, ?_, ?_, ?_, ?_⟩
  · intro path hp
    obtain ⟨url, hurl, hback⟩ := urlOfPath_absolute hp
    exact ⟨url, spelled path, hurl, hback, spells_spelled hp⟩
  · intro t path hp hnormal
    obtain ⟨url, hurl, hback⟩ := urlOfPath_absolute hp
    rw [spelled_resolved (.normal hp hnormal)] at hback
    exact ⟨url, hurl, hback⟩
  · intro path url hurl
    refine ⟨spelled path, pathOfUrl_urlOfPath hurl, ?_⟩
    rw [urlOfPath_spelled (isAbsolute_of_urlOfPath hurl), hurl]
  · intro p q url hp hq
    refine ⟨spelled p, (spells_spelled (isAbsolute_of_urlOfPath hp) _).mpr rfl, ?_⟩
    rw [spells_spelled (isAbsolute_of_urlOfPath hq), spelled_congr hp hq]
  · intro p q url hresolvedp hresolvedq hp hq
    rw [← spelled_resolved hresolvedp, spelled_congr hp hq, spelled_resolved hresolvedq]

def crookedPath : String := "//a%2F?#/./\té;//..//b[@ \n/."

def straightPath : String := "//a%2F?#/\té;/../b[@ \n"

theorem spells_straight : Path.Spells straightPath.toList crookedPath.toList := by
  refine ⟨⟨['/', '/'], [['a', '%', '2', 'F', '?', '#'], ['\t', 'é', ';'], ['.', '.'], ['b', '[', '@', ' ', '\n']],
    .inr rfl, ?_, rfl⟩, ?_, ?_⟩
  · simp [Path.IsComponent, Path.here]
  · decide
  · decide

theorem paths_and_urls_crooked :
    Path.isAbsolute crookedPath.toList ∧
      ∃ url, urlOfPath crookedPath = .ok url ∧ pathOfUrl url = .ok straightPath := by
  have habsolute : Path.isAbsolute crookedPath.toList := rfl
  obtain ⟨url, s, hurl, hback, hspells⟩ := paths_and_urls.1 crookedPath habsolute
  rw [← (hspells straightPath).mp spells_straight] at hback
  exact ⟨habsolute, url, hurl, hback⟩

end SassData.Import
