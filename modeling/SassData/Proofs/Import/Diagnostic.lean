import SassData.Proofs.Import.RunOutcome
import SassData.Proofs.Import.Strategies
import SassData.Proofs.Text.Trimming

namespace SassData.Import

namespace ImportError

structure IsClean (e : ImportError) : Prop where
  ne_empty : e.diagnostic ≠ ""
  ends : Text.IsTrimmed e.diagnostic.toList

theorem IsClean.trimmed_eq {e : ImportError} (he : e.IsClean) : Text.trimmed e.diagnostic = e.diagnostic := by
  rw [Text.trimmed, he.ends.trim_eq, String.ofList_toList]

theorem isClean_default (c : ErrorClass) : (⟨c, c.defaultDiagnostic⟩ : ImportError).IsClean := by
  have hne : c.defaultDiagnostic ≠ "" := by
    unfold ErrorClass.defaultDiagnostic
    cases c.kind <;> decide
  have htrim : Text.trimmed c.defaultDiagnostic = c.defaultDiagnostic := by
    unfold ErrorClass.defaultDiagnostic
    cases c.kind <;> decide +kernel
  refine ⟨hne, ?_⟩
  rw [← htrim]
  exact Text.isTrimmed_trimmed _

theorem isClean_make (c : ErrorClass) (given : Option String) : (make c given).IsClean := by
  cases given with
  | none => exact isClean_default c
  | some s =>
    by_cases hs : Text.trimmed s = ""
    · rw [make_blank hs]
      exact isClean_default c
    · rw [make_trimmed hs]
      exact ⟨hs, Text.isTrimmed_trimmed s⟩

theorem IsClean.make_eq {e : ImportError} (he : e.IsClean) : make e.errorClass (some e.diagnostic) = e := by
  rw [make_trimmed, he.trimmed_eq]
  rw [he.trimmed_eq]
  exact he.ne_empty

theorem isClean_iff {e : ImportError} : e.IsClean ↔ ∃ given, e = make e.errorClass given := by
  constructor
  · intro he
    exact ⟨some e.diagnostic, he.make_eq.symm⟩
  · rintro ⟨given, he⟩
    rw [he]
    exact isClean_make _ given

def GivesDefault (c : ErrorClass) (given : Option String) : Prop :=
  given = none ∨ ∃ s, given = some s ∧ ((∀ d ∈ s.toList, Text.isBlank d) ∨ Text.trimmed s = c.defaultDiagnostic)

theorem make_diagnostic_iff {c : ErrorClass} {given : Option String} :
    (make c given).diagnostic = c.defaultDiagnostic ↔ GivesDefault c given := by
  cases given with
  | none => exact ⟨fun _ => .inl rfl, fun _ => rfl⟩
  | some s =>
    by_cases hs : Text.trimmed s = ""
    · rw [make_blank hs]
      exact ⟨fun _ => .inr ⟨s, rfl, .inl (Text.trimmed_eq_empty_iff.mp hs)⟩, fun _ => rfl⟩
    · rw [make_trimmed hs]
      constructor
      · intro h
        exact .inr ⟨s, rfl, .inr h⟩
      · rintro (hnone | ⟨_, ⟨⟩, hblank | h⟩)
        · cases hnone
        · exact absurd (Text.trimmed_eq_empty_iff.mpr hblank) hs
        · exact h

/-- The errors of an import that are raised: by loading or running a module, whatever becomes of the process, by
searching the include paths, and by resolving a specifier, at once or when an external resolver has settled it. -/
inductive Raised (e : ImportError) : Prop
  | loading {host : Host} {o : Options} {path : String} (h : (loadData host o path).value = .error (.importError e))
  | running {host : Host} {o : Options} {path : String}
      (h : (loadSource host o path).value = .error (.importError e))
  | searching {t : FileTree} {specifier : String} {includePaths : List String}
      (h : included t specifier includePaths = .error (.importError e))
  | resolving {s : Strategy} {t : FileTree} {specifier previous : String}
      (h : (s.resolve t specifier previous).value = .now (.error (.importError e)))
  | settling {s : Strategy} {t : FileTree} {specifier previous : String}
      (h : (s.resolve t specifier previous).value = .pending (some (.error (.importError e))))

theorem isClean_ofThrown {e : Thrown} {error : ImportError} (h : Failure.ofThrown e = .importError error) :
    error.IsClean := by
  unfold Failure.ofThrown at h
  split at h
  · cases h
    exact isClean_make _ _
  · cases h

theorem isClean_settlement {complaint : Complaint} {result : Json} {error : ImportError}
    (h : Act.settlement? complaint result = some (.error (.importError error))) : error.IsClean := by
  cases complaint with
  | exception e =>
    rw [Act.settlement?] at h
    split_ifs at h
    · exact isClean_ofThrown (Except.error.inj (Option.some.inj h))
    · cases h
  | value v =>
    rw [Act.settlement?] at h
    split_ifs at h
    · cases h
    · cases h
    · split at h
      · cases h
      · cases h
  | textless => cases h

theorem isClean_firstCall {acts : List Act} {later : Bool} {error : ImportError}
    (h : Act.firstCall? later acts = some (.error (.importError error))) : error.IsClean := by
  obtain ⟨complaint, result, -, hsettled⟩ := Act.firstCall?_settles h
  exact isClean_settlement hsettled

theorem isClean_outcome {acts : List Act} {error : ImportError}
    (h : Act.outcome acts = some (.error (.importError error))) : error.IsClean := by
  unfold Act.outcome at h
  split at h
  · exact isClean_ofThrown (Except.error.inj (Option.some.inj h))
  · rw [Option.orElse_eq_orElse, Option.orElse_eq_or, Option.or_eq_some_iff] at h
    obtain h | ⟨-, h⟩ := h
    · exact isClean_firstCall h
    · exact isClean_firstCall h

theorem isClean_interpret {reading : Nat} {c : Command} {ended : ChildOutcome} {error : ImportError}
    (h : interpret reading c ended = .error (.importError error)) : error.IsClean := by
  cases ended with
  | timedOut =>
    cases h
    exact isClean_make _ _
  | notStarted reason =>
    cases h
    exact isClean_make _ _
  | exited status stdout stderr =>
    rw [interpret] at h
    split_ifs at h
    · unfold readData at h
      split at h
      · cases h
        exact isClean_make _ _
      · cases h
      · cases h
      · cases h
        exact isClean_make _ _
    · cases h
      exact isClean_make _ _

theorem isClean_loadData {host : Host} {o : Options} {path : String} {error : ImportError}
    (h : (loadData host o path).value = .error (.importError error)) : error.IsClean := by
  simp only [loadData, Traced.bind_value] at h
  cases hstart : host.start (commandFor o path) with
  | error e =>
    rw [hstart] at h
    cases h
  | ok ended =>
    rw [hstart] at h
    exact isClean_interpret h

theorem isClean_included {t : FileTree} {specifier : String} {includePaths : List String} {error : ImportError}
    (h : included t specifier includePaths = .error (.importError error)) : error.IsClean := by
  rw [included_eq] at h
  cases searchResult_eq_error h
  exact isClean_make _ _

section

variable {s : Strategy} {t : FileTree} {specifier previous : String} {error : ImportError}

theorem isClean_now (h : (s.resolve t specifier previous).value = .now (.error (.importError error))) :
    error.IsClean := by
  cases s with
  | files includePaths =>
    simp only [Strategy.resolve, Traced.bind_value, Traced.pure_value] at h
    cases hr : (resolveFiles t includePaths specifier previous).value with
    | ok path? =>
      rw [hr] at h
      cases h
    | error f =>
      rw [hr] at h
      cases h
      cases resolveFiles_error hr
      exact isClean_make _ _
  | external resolver => cases h

theorem isClean_pending (h : (s.resolve t specifier previous).value = .pending (some (.error (.importError error)))) :
    error.IsClean := by
  cases s with
  | files includePaths => cases h
  | external resolver =>
    simp only [Strategy.resolve, Traced.bind_value, Traced.pure_value, Answer.pending.injEq] at h
    unfold resolveExternal at h
    split at h
    · cases h
    · exact isClean_outcome h

end

theorem Raised.isClean {e : ImportError} (he : e.Raised) : e.IsClean := by
  cases he with
  | loading h => exact isClean_loadData h
  | @running host o path h =>
    rw [loadSource_value] at h
    cases hdata : (loadData host o path).value with
    | ok members =>
      rw [hdata] at h
      exact absurd h (host.print_ne_importError members e)
    | error f =>
      rw [hdata] at h
      cases h
      exact isClean_loadData hdata
  | searching h => exact isClean_included h
  | resolving h => exact isClean_now h
  | settling h => exact isClean_pending h

end ImportError

theorem loadData_exited {host : Host} {o : Options} {path : String} {status : Int} {stdout stderr : String}
    (hstart : host.start (commandFor o path) = .ok (.exited status stdout stderr)) (hstatus : status ≠ 0) :
    (loadData host o path).value = .error (.importError (.ofStatus (some status) (some stderr))) := by
  simp only [loadData, Traced.bind_value, hstart, Traced.pure_value]
  exact if_neg hstatus

/-- Every error that is made or raised carries a diagnostic that is not empty and has no white space at its ends. It is
the one of the class only if there is no text, or if trimming leaves nothing of the text or that very diagnostic. The
diagnostic is stable: made from it once more, also by way of the status of a process, the error is the same. -/
theorem diagnostics_clean :
    (∀ (c : ErrorClass) (given : Option String), let e := ImportError.make c given
      (e.diagnostic ≠ "" ∧ Text.IsTrimmed e.diagnostic.toList ∧ Text.trimmed e.diagnostic = e.diagnostic) ∧
        (e.diagnostic = c.defaultDiagnostic ↔ ImportError.GivesDefault c given) ∧
        e.text = c.kind.name ++ ": " ++ e.diagnostic ∧ .make c (some e.diagnostic) = e) ∧
    (∀ e : ImportError, e.Raised → e.IsClean ∧ e.text = e.errorClass.kind.name ++ ": " ++ e.diagnostic ∧
      .make e.errorClass (some e.diagnostic) = e ∧ ∃ given, e = .make e.errorClass given) ∧
    (∀ (status : Option Int) (given : Option String), let e := ImportError.ofStatus status given
      .ofStatus status (some e.diagnostic) = e) ∧
    ∀ {host : Host} {o : Options} {path : String} {status : Int} {stdout stderr : String},
      host.start (commandFor o path) = .ok (.exited status stdout stderr) → status ≠ 0 →
        (loadData host o path).value = .error (.importError (.ofStatus (some status) (some stderr))) := by
  refine ⟨?_, ?_, ?_, loadData_exited⟩
  · intro c given e
    have he := ImportError.isClean_make c given
    exact ⟨⟨he.ne_empty, he.ends, he.trimmed_eq⟩, ImportError.make_diagnostic_iff, rfl, he.make_eq⟩
  · intro e hraised
    have he := hraised.isClean
    exact ⟨he, rfl, he.make_eq, ImportError.isClean_iff.mp he⟩
  · intro status given e
    exact (ImportError.isClean_make _ given).make_eq

def paddedText : String :=
  "\n\u0085 boom \u00a0\u2028\n"

def paddedHost : Host :=
  { usualHost with start := .always (.exited 12 "" paddedText) }

theorem diagnostics_clean_padded :
    (paddedHost.start (commandFor {} "/d.py") = .ok (.exited 12 "" paddedText) ∧ (12 : Int) ≠ 0) ∧
    ImportError.Raised ⟨.of .importFailed, "boom"⟩ ∧ ImportError.IsClean ⟨.of .importFailed, "boom"⟩ := by
  obtain ⟨-, hclean, -, hexited⟩ := diagnostics_clean
  have hload : (loadData paddedHost {} "/d.py").value =
      .error (.importError (.ofStatus (some 12) (some paddedText))) := hexited rfl (by decide)
  have herror : ImportError.ofStatus (some 12) (some paddedText) = ⟨.of .importFailed, "boom"⟩ := by decide +kernel
  rw [herror] at hload
  have hraised : ImportError.Raised ⟨.of .importFailed, "boom"⟩ := .loading hload
  exact ⟨⟨rfl, by decide⟩, hraised, (hclean _ hraised).1⟩

end SassData.Import
