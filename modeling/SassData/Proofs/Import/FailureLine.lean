import SassData.Proofs.DataModule.Streams
import SassData.Proofs.DataModule.Summary
import SassData.Proofs.Import.Loading

namespace SassData

open Text (IsLines lastLine)

namespace Export

theorem getLast?_because (what path : String) (e : Thrown) : (because what path e).toList.getLast? = some ')' := by
  have hclose : ")".toList = [')'] := rfl
  rw [because, String.toList_append, hclose, List.getLast?_concat]

theorem because_ne_nil (what path : String) (e : Thrown) : (because what path e).toList ≠ [] := by
  intro h
  have hlast := getLast?_because what path e
  rw [h] at hlast
  cases hlast

section

variable {what : String} {c : Char} (hwhat : what.toList.head? = some c) (hc : ¬ Text.isBlank c)

include hwhat hc

theorem isTrimmed_because (path : String) (e : Thrown) : Text.IsTrimmed (because what path e).toList := by
  constructor
  · simp only [because, String.toList_append, List.head?_append, hwhat, Option.some_or]
    rintro d ⟨⟩
    exact hc
  · rw [getLast?_because]
    rintro d ⟨⟩
    decide

theorem toList_trimmed_because (printed path : String) (e : Thrown) :
    (Text.trimmed (printed ++ because what path e ++ "\n")).toList =
      printed.toList.dropWhile Text.isBlank ++ (because what path e).toList := by
  rw [Text.toList_trimmed, String.toList_append, String.toList_append]
  exact Text.trim_append (because_ne_nil what path e) (isTrimmed_because hwhat hc path e) printed.toList
    (List.forall_mem_singleton.mpr rfl)

theorem make_because (hline : OneLine what) {path : String} (hpath : OneLine path) {printed : String}
    (hprinted : IsLines printed.toList) (errorClass : Import.ErrorClass) (e : Thrown) :
    ∃ diagnostic, Import.ImportError.make errorClass (some (printed ++ because what path e ++ "\n")) =
        ⟨errorClass, diagnostic⟩ ∧
      lastLine diagnostic.toList = (because what path e).toList := by
  have hcolon : OneLine ": " := by decide
  have htext := toList_trimmed_because hwhat hc printed path e
  have hne : Text.trimmed (printed ++ because what path e ++ "\n") ≠ "" := by
    intro h
    rw [h] at htext
    exact because_ne_nil what path e (List.append_eq_nil_iff.mp htext.symm).2
  refine ⟨_, Import.ImportError.make_trimmed hne, ?_⟩
  rw [htext]
  exact Text.lastLine_append (hprinted.dropWhile _) (oneLine_because hpath (hline.append hcolon) e)

end

end Export

namespace Import

theorem loadSource_thrown (host : Host) (x : Runtime) {t : FileTree} {o : Options} {path : String} {m : DataModule}
    {e : Thrown} (hs : (commandFor o path).refusal? = none) (ha : path.toList.head? = some '/')
    (hm : t.module? path = some m) (ht : m.thrown = some e) (he : e.failsModule) (hforgotten : m.forgotten = 0) :
    (loadSource (host.over x t) o path).value =
      .error (.importError (.make (.of .importFailed)
        (some (Print.all path m.prints ++ Export.because "Could not import module" path e ++ "\n")))) := by
  have hrun : Export.exportPath x t path =
      .ok (Export.failed .importFailed (Print.all path m.prints) (Export.because "Could not import module" path e)) := by
    rw [Export.exportPath_module x (Path.isAbsolute_iff.mpr ha) hm, Export.runModule, ht]
    exact if_pos he
  have hremarks : Export.remarks x t path = "" := by
    apply Export.remarks_of_forgotten
    intro m' hm'
    cases hm.symm.trans hm'
    exact hforgotten
  rw [loadSource_value, loadData_of_run host hs hrun, hremarks, String.append_empty]
  rfl

/-- A module that ends with an exception is reported as a failed import, whatever it printed. The last line of the
diagnostic sums the exception up: without notes as the name of its class with what it says, with notes as the last line
of the last of them. -/
theorem failed_import_line (host : Host) (x : Runtime) {t : FileTree} {o : Options} {path : String} {m : DataModule}
    {e : Thrown} (hs : (commandFor o path).refusal? = none) (ha : path.toList.head? = some '/') (hpath : OneLine path)
    (hm : t.module? path = some m) (ht : m.thrown = some e) (he : e.failsModule)
    (hprints : IsLines (Print.all path m.prints).toList) (hforgotten : m.forgotten = 0) :
    ∃ diagnostic summary,
      (loadSource (host.over x t) o path).value = .error (.importError ⟨.of .importFailed, diagnostic⟩) ∧
      String.ofList (lastLine diagnostic.toList) = "Could not import module: " ++ path ++ " (" ++ summary ++ ")" ∧
      OneLine summary ∧
      (e.notes = [] →
        ((∀ c ∈ e.fullName.toList, ¬ Text.isBlank c) → e.fullName.toList <+: summary.toList) ∧
        ∃ s, e.Says s ∧ summary = onOneLine (e.titled s)) ∧
      ∀ note, e.notes.getLast? = some note → summary = Text.trimmed (String.ofList (lastLine note.toList)) := by
  have hwhat : OneLine "Could not import module" := by decide
  have hfirst : "Could not import module".toList.head? = some 'C' := by decide
  have hblank : ¬ Text.isBlank 'C' := by decide
  have hcolon : "Could not import module" ++ ": " = "Could not import module: " := by decide
  obtain ⟨diagnostic, hmake, hline⟩ :=
    Export.make_because hfirst hblank hwhat hpath hprints (.of .importFailed) e
  refine ⟨diagnostic, e.summary, ?_, ?_, e.oneLine_summary, ?_, fun note => Thrown.summary_note⟩
  · rw [loadSource_thrown host x hs ha hm ht he hforgotten, hmake]
  · rw [hline, String.ofList_toList, Export.because, hcolon]
  · intro hnotes
    refine ⟨fun hname => Thrown.fullName_prefix_summary hname hnotes, e.detail, e.says_detail, ?_⟩
    rw [Thrown.summary_eq, Thrown.lastLine_eq_titled hnotes]

def treeWith (m : DataModule) : FileTree :=
  { files := [([['d', '.', 'p', 'y']], m)] }

theorem loadSource_treeWith (prints : List Print) {e : Thrown} (he : e.failsModule) :
    (loadSource (usualHost.over usualRuntime (treeWith ⟨prints, some e, none⟩)) {} "/d.py").value =
      .error (.importError (.make (.of .importFailed)
        (some (Print.all "/d.py" prints ++ Export.because "Could not import module" "/d.py" e ++ "\n")))) := by
  have hm : (treeWith ⟨prints, some e, none⟩).module? "/d.py" = some ⟨prints, some e, none⟩ := rfl
  rw [loadSource_thrown usualHost usualRuntime rfl rfl hm rfl he rfl]

def twoLines : Thrown :=
  { scope := "__sass_data__.", name := "Custom", message := some " first\nsecond\t" }

theorem failed_import_line_folded :
    ((commandFor {} "/d.py").refusal? = none ∧ OneLine "/d.py" ∧ twoLines.failsModule) ∧
      ∃ diagnostic,
        (loadSource (usualHost.over usualRuntime (treeWith ⟨[.text " ", .text "loading\n"], some twoLines, none⟩)) {}
          "/d.py").value = .error (.importError ⟨.of .importFailed, diagnostic⟩) ∧
        String.ofList (lastLine diagnostic.toList) =
          "Could not import module: /d.py (__sass_data__.Custom:  first second)" := by
  have hpath : OneLine "/d.py" := by decide
  have hprints : IsLines (Print.all "/d.py" [.text " ", .text "loading\n"]).toList := by
    have hlast : (Print.all "/d.py" [.text " ", .text "loading\n"]).toList.getLast? = some '\n' := by decide +kernel
    rw [IsLines, hlast]
    rintro c ⟨⟩
    rfl
  refine ⟨⟨rfl, hpath, rfl⟩, ?_⟩
  obtain ⟨diagnostic, summary, hload, hline, -, hsummary, -⟩ := failed_import_line usualHost usualRuntime
    (t := treeWith ⟨[.text " ", .text "loading\n"], some twoLines, none⟩) (o := {}) rfl rfl hpath rfl rfl rfl hprints
    rfl
  refine ⟨diagnostic, hload, ?_⟩
  obtain ⟨s, hs, hfolded⟩ := (hsummary rfl).2
  have htext : onOneLine (twoLines.titled twoLines.text) = "__sass_data__.Custom:  first second" := by
    decide +kernel
  cases hs with
  | text h =>
    rw [hline, hfolded, htext]
    decide +kernel
  | words h => cases h
  | wordsIn h => cases h

def located : Thrown :=
  { name := "SyntaxError", origin := .syntaxError ⟨some "/d.py", some 1⟩, message := some "invalid syntax" }

def annotated : Thrown :=
  { name := "RuntimeError", message := some "boom", notes := ["in the theme\nsee the manual"] }

/-- Neither is the text of an exception always what stands behind its class, nor does its class always begin the
summary, nor does the line that says what failed always stand alone. -/
theorem failed_import_line_departs :
    ¬ (∀ e : Thrown, e.failsModule → e.notes = [] → ∃ diagnostic,
        (loadSource (usualHost.over usualRuntime (treeWith ⟨[], some e, none⟩)) {} "/d.py").value =
          .error (.importError ⟨.of .importFailed, diagnostic⟩) ∧
        String.ofList (lastLine diagnostic.toList) =
          "Could not import module: /d.py (" ++ onOneLine (e.titled e.text) ++ ")") ∧
    ¬ (∀ e : Thrown, e.failsModule → ∃ diagnostic summary,
        (loadSource (usualHost.over usualRuntime (treeWith ⟨[], some e, none⟩)) {} "/d.py").value =
          .error (.importError ⟨.of .importFailed, diagnostic⟩) ∧
        String.ofList (lastLine diagnostic.toList) = "Could not import module: /d.py (" ++ summary ++ ")" ∧
        e.fullName.toList <+: summary.toList) ∧
    ¬ (∀ prints : List Print, ∃ diagnostic summary,
        (loadSource (usualHost.over usualRuntime (treeWith ⟨prints, some twoLines, none⟩)) {} "/d.py").value =
          .error (.importError ⟨.of .importFailed, diagnostic⟩) ∧
        String.ofList (lastLine diagnostic.toList) = "Could not import module: /d.py (" ++ summary ++ ")") := by
  refine ⟨?_, ?_, ?_⟩
  · intro h
    obtain ⟨diagnostic, hload, hline⟩ := h located rfl rfl
    have hmade : ImportError.make (.of .importFailed)
        (some (Print.all "/d.py" [] ++ Export.because "Could not import module" "/d.py" located ++ "\n")) =
        ⟨.of .importFailed, "Could not import module: /d.py (SyntaxError: invalid syntax)"⟩ := by decide +kernel
    rw [loadSource_treeWith [] rfl, hmade] at hload
    cases hload
    exact absurd hline (by decide +kernel)
  · intro h
    obtain ⟨diagnostic, summary, hload, hline, s, hs⟩ := h annotated rfl
    have hmade : ImportError.make (.of .importFailed)
        (some (Print.all "/d.py" [] ++ Export.because "Could not import module" "/d.py" annotated ++ "\n")) =
        ⟨.of .importFailed, "Could not import module: /d.py (see the manual)"⟩ := by decide +kernel
    rw [loadSource_treeWith [] rfl, hmade] at hload
    cases hload
    have hprefix : "Could not import module: /d.py (".toList ++ annotated.fullName.toList <+:
        lastLine "Could not import module: /d.py (see the manual)".toList := by
      refine ⟨s ++ ")".toList, ?_⟩
      rw [← String.toList_ofList (l := lastLine _), hline, String.toList_append, String.toList_append, ← hs]
      simp only [List.append_assoc]
    exact absurd hprefix (by decide +kernel)
  · intro h
    obtain ⟨diagnostic, summary, hload, hline⟩ := h [.text "loading"]
    have hmade : ImportError.make (.of .importFailed) (some (Print.all "/d.py" [.text "loading"] ++
        Export.because "Could not import module" "/d.py" twoLines ++ "\n")) = ⟨.of .importFailed,
          "loadingCould not import module: /d.py (__sass_data__.Custom:  first second)"⟩ := by decide +kernel
    rw [loadSource_treeWith [.text "loading"] rfl, hmade] at hload
    cases hload
    have hhead : (lastLine "loadingCould not import module: /d.py (__sass_data__.Custom:  first second)".toList).head? =
        some 'l' := by decide +kernel
    rw [← String.toList_ofList (l := lastLine _), hline, String.append_assoc, String.toList_append] at hhead
    cases hhead

end Import

end SassData
