import SassData.Proofs.DataModule.Encoding
import SassData.Proofs.DataModule.Running

/-!
The two streams of the exporting process. What modules print comes first on one of them, in order, and changes
nothing else: the other stream holds JSON text or nothing, and a failure adds a single line.
-/

namespace SassData

open Import (ExitCode)

namespace Value

mutual

def silenced : Value → Value
  | .list items => .list (silencedItems items)
  | .tuple items => .tuple (silencedItems items)
  | .dict entries => .dict (silencedEntries entries)
  | .coroutine _ thrown result => .coroutine [] thrown (silenced result)
  | v => v

def silencedItems : List Value → List Value
  | [] => []
  | v :: vs => silenced v :: silencedItems vs

def silencedEntries : List (Value × Value) → List (Value × Value)
  | [] => []
  | (k, v) :: es => (silenced k, silenced v) :: silencedEntries es

end

end Value

namespace DataModule

def silenced (m : DataModule) : DataModule :=
  ⟨[], m.thrown, m.exported.map Value.silenced⟩

end DataModule

namespace FileTree

def silenced (t : FileTree) : FileTree :=
  { t with files := t.files.map fun f => (f.1, f.2.silenced) }

end FileTree

def Report.behind (printed : String) (r : Report) : Report :=
  { r with stderr := printed ++ r.stderr }

namespace Export

variable (x : Runtime)

end Export

def OneLine (s : String) : Prop :=
  '\n' ∉ s.toList

instance (s : String) : Decidable (OneLine s) := inferInstanceAs (Decidable (¬ _))

theorem OneLine.append {s t : String} (hs : OneLine s) (ht : OneLine t) : OneLine (s ++ t) := by
  rw [OneLine, String.toList_append, List.mem_append, not_or]
  exact ⟨hs, ht⟩

theorem Thrown.oneLine_summary (e : Thrown) : OneLine e.summary := by
  rw [OneLine, summary, String.toList_ofList, List.mem_map]
  rintro ⟨c, -, hc⟩
  split_ifs at hc with h
  · exact absurd hc (by decide)
  · exact h hc

/-- A report behind what was printed: an output and nothing more, or a single line that says what failed. -/
inductive Report.Ends (printed : String) (output : String → Prop) : Report → Prop
  | data {stdout : String} (hstdout : output stdout) : Ends printed output ⟨.ok, stdout, printed⟩
  | failed {exit : ExitCode} {said : String} (hexit : exit ≠ .ok) (hsaid : OneLine said) :
      Ends printed output ⟨exit, "", printed ++ (said ++ "\n")⟩

def DataModule.Outputs (m : DataModule) (nesting : Nat) (stdout : String) : Prop :=
  ∃ v j, m.Gives v ∧ v.Stands j ∧ v.depth ≤ nesting ∧ stdout = j.render .ascii

namespace Value

end Value

namespace DataModule

end DataModule

namespace Export

variable (x : Runtime)

theorem remarks_of_forgotten {t : FileTree} {path : String}
    (h : ∀ m, t.module? path = some m → m.forgotten = 0) : remarks x t path = "" := by
  rw [remarks]
  cases hm : t.module? path with
  | none => rfl
  | some m => exact if_neg fun hne => hne.2 (h m hm)

section

variable {path : String} (hpath : OneLine path)

include hpath

theorem oneLine_because {what : String} (hwhat : OneLine what) (e : Thrown) :
    OneLine (what ++ path ++ " (" ++ e.summary ++ ")") := by
  have hopen : OneLine " (" := by decide
  have hclose : OneLine ")" := by decide
  exact (((hwhat.append hpath).append hopen).append e.oneLine_summary).append hclose

theorem Leaves.ends {m : DataModule} {r : Report} (h : Leaves x path m r) :
    r.Ends (Print.all path m.performed) (m.Outputs x.nesting) := by
  have hfailed : ∀ (exit : ExitCode) (printed line : String), exit ≠ .ok → OneLine line →
      (⟨exit, "", printed ++ line ++ "\n"⟩ : Report).Ends printed (m.Outputs x.nesting) := by
    intro exit printed line hexit hline
    rw [String.append_assoc]
    exact .failed hexit hline
  have himport : OneLine "Could not import module: " := by decide
  cases h with
  | data hg hj hd => exact .data ⟨_, _, hg, hj, hd, rfl⟩
  | unwritten hg hv e =>
    have hwhat : OneLine "Imported module data could not be serialized: " := by decide
    exact hfailed _ _ _ (by decide) (oneLine_because hpath hwhat e)
  | running prints e exported => exact hfailed _ _ _ (by decide) (oneLine_because hpath himport e)
  | awaiting prints ps e v => exact hfailed _ _ _ (by decide) (oneLine_because hpath himport e.leavingCoroutine)
  | nothing ht hn =>
    have hwhat : OneLine "Imported module has no default export: " := by decide
    have hperformed : m.performed = m.prints := by simp only [DataModule.performed, ht, hn]
    rw [hperformed]
    exact hfailed _ _ _ (by decide) (hwhat.append hpath)

end

end Export

end SassData
