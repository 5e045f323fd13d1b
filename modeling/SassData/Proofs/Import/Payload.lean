import SassData.Import.Load
import SassData.Proofs.DataModule.Encoding
import SassData.Proofs.DataModule.Running
import SassData.Proofs.Json.Ascii

namespace SassData

namespace Export

theorem exportPath_success {x : Runtime} {t : FileTree} {path : String} {r : Report}
    (h : exportPath x t path = .ok r) (hexit : r.exit = .ok) :
    ∃ m v j, t.module? path = some m ∧ m.Gives v ∧ v.Stands j ∧ v.depth ≤ x.nesting ∧ r.stdout = j.render .ascii := by
  have hother : ∀ {r' : Report}, exportPath x t path = .ok r' → r'.exit = .ok := by
    intro r' hr'
    rw [h] at hr'
    cases hr'
    exact hexit
  cases ha : Path.isAbsolute path.toList with
  | false => cases hother (exportPath_relative x ha)
  | true =>
    cases hm : t.module? path with
    | none =>
      have hf : t.isFile path = false := by simp [FileTree.isFile, hm]
      cases hd : t.isDirectory path with
      | false => cases hother (exportPath_missing x ha (by simp [FileTree.pathExists, hf, hd]))
      | true => cases hother (exportPath_directory x ha hf hd)
    | some m =>
      rw [exportPath_module x ha hm] at h
      obtain ⟨v, j, hv, hj, hd, hstdout⟩ := (leaves_of_runModule x h).success hexit
      exact ⟨m, v, j, rfl, hv, hj, hd, hstdout⟩

end Export

namespace Import

theorem ofBytes_plainText {s : String} (hs : Json.PlainText s.toList) (status : Int) (stderr : List UInt8) :
    ∃ errors, ChildOutcome.ofBytes status (Text.Utf8.encode s.toList) stderr = .exited status s errors := by
  have hreturn : '\r' ∉ s.toList := by
    intro h
    exact absurd (hs _ h) (by decide)
  refine ⟨String.ofList (Text.unifyNewlines (Text.Utf8.decode stderr)), ?_⟩
  rw [ChildOutcome.ofBytes]
  dsimp only
  rw [Text.Utf8.decode_encode, Text.unifyNewlines_eq_self hreturn, String.ofList_toList]

/-- The output of a successful export is JSON text of printable ASCII, and the host reads from its bytes just the text
that was written. -/
theorem payload_of_run {x : Runtime} {t : FileTree} {arguments : List String} {r : Report}
    (h : Export.run x t arguments = .ok r) (hexit : r.exit = .ok) :
    (∀ c ∈ r.stdout.toList, 0x20 ≤ c.toNat ∧ c.toNat ≤ 0x7E) ∧
    ∃ m v j, t.module? (arguments.headD "") = some m ∧ m.Gives v ∧ v.Stands j ∧
      v.toJson Value.exportRules x.nesting = .ok j ∧ r.stdout = j.render .ascii ∧
      ∀ (status : Int) (stderr : List UInt8), ∃ stdout errors,
        ChildOutcome.ofBytes status (Text.Utf8.encode r.stdout.toList) stderr = .exited status stdout errors ∧
        stdout = j.render .ascii ∧ Json.parse? stdout = some j.settled := by
  obtain ⟨m, v, j, hm, hv, hj, hd, hstdout⟩ := Export.exportPath_success h hexit
  have hplain : Json.PlainText r.stdout.toList := by
    rw [hstdout, Json.render, String.toList_ofList]
    exact Json.plainText_write j
  refine ⟨hplain, m, v, j, hm, hv, hj, hj.toJson_eq hd, hstdout, ?_⟩
  intro status stderr
  obtain ⟨errors, hread⟩ := ofBytes_plainText hplain status stderr
  refine ⟨r.stdout, errors, hread, hstdout, ?_⟩
  rw [hstdout]
  exact Json.parse?_render .ascii hj.inLimits

def pipedModule : DataModule :=
  ⟨[.text "loading\r\n"], none, some (.coroutine [.text "é"] none
    (.dict [(.str "\r\n", .str "\x7f😀"), (.float (.finite true 3 (-1)), .tuple [.null, .int (-7)])]))⟩

def pipedTree : FileTree :=
  { files := [([['d', '.', 'p', 'y']], pipedModule)] }

def pipedOutput : String :=
  "\x7b\"\\r\\n\": \"\\u007f\\ud83d\\ude00\", \"-1.5\": [null, -7]\x7d"

def pipingRuntime : Runtime :=
  ⟨985, Thrown.headline, fun _ => ""⟩

theorem payload_of_run_piped :
    Export.run pipingRuntime pipedTree ["/d.py"] = .ok ⟨.ok, pipedOutput, "loading\r\né"⟩ ∧
      ∃ errors, ChildOutcome.ofBytes 0 (Text.Utf8.encode pipedOutput.toList) [0x0D, 0xFF] =
        .exited 0 pipedOutput errors := by
  have hrun : Export.run pipingRuntime pipedTree ["/d.py"] = .ok ⟨.ok, pipedOutput, "loading\r\né"⟩ := by decide +kernel
  obtain ⟨-, m, v, j, -, -, -, -, hstdout, hread⟩ := payload_of_run hrun rfl
  obtain ⟨stdout, errors, hbytes, htext, -⟩ := hread 0 [0x0D, 0xFF]
  rw [htext, ← hstdout] at hbytes
  exact ⟨hrun, errors, hbytes⟩

end Import

end SassData
