import SassData.Import.Session
import SassData.Proofs.Import.ResolveThenRun

namespace SassData

structure FileTree.IsTextual (t : FileTree) : Prop where
  cwd : Path.isAbsolute t.cwd
  byteOf : ∀ c, t.byteOf c = none

namespace Import

theorem isText_of_isTextual {t : FileTree} (ht : t.IsTextual) (path : String) : IsText t path :=
  fun c _ => ht.byteOf c

namespace Session

def after (s : Session) (steps : List Step) : Session :=
  steps.foldl next s

variable {s : Session} (hs : s.tree.IsTextual)

include hs

theorem isTextual_next (step : Step) : (s.next step).tree.IsTextual := by
  cases step with
  | changeDirectory path => exact ⟨Path.isAbsolute_absolute hs.cwd path.toList, hs.byteOf⟩
  | make name factory fields =>
    rw [next]
    split
    · exact hs
    · exact hs
  | _ => exact ⟨hs.cwd, hs.byteOf⟩

theorem isTextual_after (steps : List Step) : (s.after steps).tree.IsTextual := by
  induction steps generalizing s with
  | nil => exact hs
  | cons step steps ih => exact ih (isTextual_next hs step)

omit hs

theorem run_getElem? (steps : List Step) (k : Nat) :
    (s.run steps)[k]? = steps[k]?.map (s.after (steps.take k)).record := by
  induction steps generalizing s k with
  | nil => rfl
  | cons step steps ih =>
    cases k with
    | zero => rfl
    | succ k => exact ih k

include hs

/-- Wherever a session calls a synchronous importer, its answer is that of resolving and loading on the files as the steps
before have left them. -/
theorem answer_of_run {steps : List Step} {k : Nat} {name specifier previous : String} {w : Waiting}
    {ended : Option ChildOutcome} (hstep : steps[k]? = some (.call name specifier previous w ended))
    {includePaths : List String} {o : Options}
    (himporter : (s.after (steps.take k)).importer name = .ok (.singleCall ⟨.files includePaths, o⟩)) :
    let s' := s.after (steps.take k)
    let run := resolveThenRun s'.tree (s'.host ended) o includePaths specifier previous
    ∃ r, (s.run steps)[k]? = some r ∧
      r.answer = ((Outcome.ofResult run.value).map fun outcome => .called ⟨outcome, []⟩) := by
  intro s' run
  have hs' : s'.tree.IsTextual := isTextual_after hs _
  refine ⟨s'.record (.call name specifier previous w ended), ?_, ?_⟩
  · rw [run_getElem?, hstep]
    rfl
  · have hsingle : s'.singleCall name = .ok ⟨.files includePaths, o⟩ := by
      rw [singleCall, himporter]
      rfl
    rw [record, answer, hsingle, Traced.proceed, Traced.bind_value, Traced.pure_value,
      call_files_value _ w o includePaths specifier previous hs'.cwd (isText_of_isTextual hs' _)
        fun path _ => isText_of_isTextual hs' path]
    change _ = (Outcome.ofResult run.value).map _
    cases Outcome.ofResult run.value with
    | error f => rfl
    | ok outcome => rfl

end Session

end Import

end SassData
