import SassData.Proofs.Import.ResolveThenRun

namespace SassData

theorem Thrown.isOrdinary_leavingCoroutine {e : Thrown} (he : e.isOrdinary) : e.leavingCoroutine.isOrdinary := by
  unfold leavingCoroutine
  split_ifs
  · decide
  · exact he

namespace Import

theorem Failure.isOrdinary_ofThrown {e : Thrown} (he : e.isOrdinary) : (Failure.ofThrown e).isOrdinary := by
  unfold Failure.ofThrown
  split
  · rfl
  · exact he

def IsOrdinary (settled : Except Failure Json) : Prop :=
  ∀ f, settled = .error f → f.isOrdinary

theorem isOrdinary_ok (v : Json) : IsOrdinary (.ok v) :=
  nofun

theorem isOrdinary_error {f : Failure} : IsOrdinary (.error f) ↔ f.isOrdinary := by
  constructor
  · intro h
    exact h f rfl
  · rintro hf _ ⟨⟩
    exact hf

namespace Act

theorem settlement?_exception {e : Thrown} (he : e.endsIteration = false) (result : Json) :
    settlement? (.exception e) result = some (.error (.ofThrown e)) := by
  rw [settlement?, he]
  rfl

def Fit : Act → Prop
  | .throws e => e.isOrdinary
  | .calls (.exception e) _ _ => e.isOrdinary ∧ e.endsIteration = false
  | .calls (.value v) _ _ => ∃ text, v.toValue.display = .ok text
  | .calls .textless _ _ => False

theorem settlement?_fit {error : Complaint} {result : Json} {later : Bool} (h : (calls error result later).Fit) :
    ∃ s, settlement? error result = some s ∧ IsOrdinary s := by
  cases error with
  | exception e =>
    obtain ⟨hordinary, hends⟩ := h
    exact ⟨_, settlement?_exception hends result, isOrdinary_error.mpr (Failure.isOrdinary_ofThrown hordinary)⟩
  | value v =>
    obtain ⟨text, htext⟩ := h
    rw [settlement?, htext]
    cases v.isFalsy with
    | true => exact ⟨_, rfl, isOrdinary_ok _⟩
    | false =>
      refine ⟨_, rfl, ?_⟩
      apply isOrdinary_error.mpr
      rfl
  | textless => cases h

theorem throws_of_thrown? {acts : List Act} {e : Thrown} (h : thrown? acts = some e) : throws e ∈ acts := by
  induction acts with
  | nil => cases h
  | cons act acts ih =>
    cases act with
    | throws e' =>
      cases h
      exact List.mem_cons_self
    | calls error result later =>
      apply List.mem_cons_of_mem
      exact ih h

theorem firstCall?_settles {acts : List Act} {later : Bool} {s : Except Failure Json}
    (h : firstCall? later acts = some s) :
    ∃ error result, calls error result later ∈ acts ∧ settlement? error result = some s := by
  induction acts with
  | nil => cases h
  | cons act acts ih =>
    have hrest : firstCall? later acts = some s →
        ∃ error result, calls error result later ∈ act :: acts ∧ settlement? error result = some s := by
      intro hrest
      obtain ⟨error, result, hmem, hs⟩ := ih hrest
      exact ⟨error, result, List.mem_cons_of_mem _ hmem, hs⟩
    cases act with
    | throws e => cases h
    | calls error result l =>
      rw [firstCall?] at h
      split_ifs at h with hl
      · cases hsettled : settlement? error result with
        | none =>
          rw [hsettled] at h
          exact hrest h
        | some s' =>
          rw [hsettled] at h
          cases h
          exact ⟨error, result, hl ▸ List.mem_cons_self, hsettled⟩
      · exact hrest h

theorem firstCall?_isOrdinary {acts : List Act} (hfit : ∀ act ∈ acts, act.Fit) {later : Bool} {s : Except Failure Json}
    (h : firstCall? later acts = some s) : IsOrdinary s := by
  obtain ⟨error, result, hmem, hs⟩ := firstCall?_settles h
  obtain ⟨s', hs', hordinary⟩ := settlement?_fit (hfit _ hmem)
  rw [hs] at hs'
  cases hs'
  exact hordinary

theorem firstCall?_isSome {acts : List Act} (hfit : ∀ act ∈ acts, act.Fit) (hthrown : thrown? acts = none)
    {error : Complaint} {result : Json} {later : Bool} (hcall : calls error result later ∈ acts) :
    ∃ s, firstCall? later acts = some s := by
  induction acts with
  | nil => cases hcall
  | cons act acts ih =>
    obtain ⟨hact, hacts⟩ := List.forall_mem_cons.mp hfit
    cases act with
    | throws e => cases hthrown
    | calls error' result' l =>
      rw [firstCall?]
      split_ifs with hl
      · obtain ⟨s, hs, -⟩ := settlement?_fit hact
        rw [hs]
        exact ⟨s, rfl⟩
      · apply ih hacts hthrown
        rcases List.mem_cons.mp hcall with hhead | htail
        · cases hhead
          exact absurd rfl hl
        · exact htail

theorem outcome_fit {acts : List Act} (hfit : ∀ act ∈ acts, act.Fit)
    (hcalls : ∃ error result later, calls error result later ∈ acts) : ∃ s, outcome acts = some s ∧ IsOrdinary s := by
  obtain ⟨error, result, later, hcall⟩ := hcalls
  unfold outcome
  cases hthrown : thrown? acts with
  | some e =>
    refine ⟨_, rfl, ?_⟩
    apply isOrdinary_error.mpr
    apply Failure.isOrdinary_ofThrown
    apply Thrown.isOrdinary_leavingCoroutine
    exact hfit _ (throws_of_thrown? hthrown)
  | none =>
    -- A call that comes later counts only if none has come at once, so that it is not the given one that has to win.
    obtain ⟨s, hs⟩ := firstCall?_isSome hfit hthrown hcall
    cases hnow : firstCall? false acts with
    | some s' => exact ⟨s', rfl, firstCall?_isOrdinary hfit hnow⟩
    | none =>
      cases later with
      | false =>
        rw [hnow] at hs
        cases hs
      | true =>
        refine ⟨s, hs, ?_⟩
        exact firstCall?_isOrdinary hfit hs

end Act

def Waiting.EndedBy (w : Waiting) (e : Thrown) : Prop :=
  w.inLoop ∧ (e.origin = .leaving ∨ e.origin = .interrupt)

theorem Waiting.stopped_cases (w : Waiting) (f : Failure) :
    w.stopped f = .ok [] ∨ ∃ e, w.EndedBy e ∧ w.stopped f = .error (.thrown e) := by
  unfold stopped
  split
  · split_ifs with h
    · refine .inr ⟨_, ?_, rfl⟩
      simpa [EndedBy, Thrown.stopsLoop] using h
    · exact .inl rfl
  · exact .inl rfl

theorem Importer.complete_cases (i : Importer) (host : Host) (w : Waiting) (c : Completion (Option String)) :
    (∃ os : List Outcome, os.length ≤ 1 ∧ (i.complete host w c).value = .ok os) ∨
      ∃ e, w.EndedBy e ∧ (i.complete host w c).value = .error (.thrown e) := by
  have hhanded : ∀ o : Outcome, (if w.handOver then [o] else []).length ≤ 1 := by
    intro o
    split_ifs
    · exact le_rfl
    · exact Nat.zero_le 1
  have hstopped : ∀ f, (∃ os, os.length ≤ 1 ∧ w.stopped f = .ok os) ∨
      ∃ e, w.EndedBy e ∧ w.stopped f = .error (.thrown e) := by
    intro f
    apply (w.stopped_cases f).imp_left
    intro h
    exact ⟨[], Nat.zero_le 1, h⟩
  rcases c with _ | f | url?
  · exact .inl ⟨[], Nat.zero_le 1, rfl⟩
  · rw [complete]
    by_cases hf : f.isOrdinary
    · rw [if_pos hf]
      exact .inl ⟨_, hhanded _, rfl⟩
    · rw [if_neg hf]
      exact hstopped f
  · rw [complete, Traced.bind_value]
    cases (i.loadCanonical host url?).value with
    | ok o => exact .inl ⟨_, hhanded o, rfl⟩
    | error f => exact hstopped f

/-- What is settled reaches those who wait for it: it is no failure but an ordinary one, and what is raised by loading
a path that was found is an error of an import. -/
structure Reaches (host : Host) (o : Options) (settled : Except Failure Json) : Prop where
  ordinary : IsOrdinary settled
  loads : ∀ path, settled = .ok (.str path) → Path.isAbsolute path.toList →
    ∀ f, (loadSource host o (spelled path)).value = .error f → ∃ e, f = .importError e

def Outcome.ofSettled (host : Host) (o : Options) : Except Failure Json → Outcome
  | .error f => .failed f
  | .ok .null => .nothing
  | .ok (.str path) =>
    if Path.isAbsolute path.toList then
      match (loadSource host o (spelled path)).value with
      | .ok contents => .imported ⟨spelled path, contents⟩
      | .error f => .failed f
    else .failed (.url .relativePath)
  | .ok v => .failed (.notPath v.typeName)

theorem urlOfName_relative {byteOf : Char → Option UInt8} {path : String} (hp : Path.isAbsolute path.toList = false) :
    urlOfName byteOf path = .error (.url .relativePath) := by
  rw [urlOfName, Path.Url.ofName, hp]
  rfl

section

variable (host : Host) {w : Waiting} (hw : w.handOver) (i : Importer)

theorem complete_loaded {url? : Option String} {f : Failure} (hf : (i.loadCanonical host url?).value = .error f) :
    (i.complete host w (some (.ok url?))).value = w.stopped f := by
  rw [Importer.complete, Traced.bind_value, hf]
  rfl

include hw

theorem complete_failed {f : Failure} (hf : f.isOrdinary) :
    (i.complete host w (some (.error f))).value = .ok [.failed f] := by
  rw [Importer.complete, if_pos hf, if_pos hw]
  rfl

theorem complete_outcome {url? : Option String} {o : Outcome} (ho : (i.loadCanonical host url?).value = .ok o) :
    (i.complete host w (some (.ok url?))).value = .ok [o] := by
  rw [Importer.complete, Traced.bind_value, ho]
  simp only [hw, if_true]
  rfl

variable {t : FileTree} {s : Except Failure Json}
  (htext : ∀ path, s = .ok (.str path) → Path.isAbsolute path.toList → IsText t (spelled path))

include htext

theorem complete_settled (hs : Reaches host i.options s) :
    (i.complete host w (some (s.bind (urlOfResult t)))).value = .ok [.ofSettled host i.options s] := by
  cases s with
  | error f => exact complete_failed host hw i (hs.ordinary f rfl)
  | ok v =>
    cases v with
    | null => exact complete_outcome host hw i rfl
    | str path =>
      cases hp : Path.isAbsolute path.toList with
      | true =>
        obtain ⟨url, hurl, hback⟩ := urlOfPath_absolute hp
        rw [← urlOfName_text hp (htext path rfl hp)] at hurl
        have hbind : (Except.ok (Json.str path)).bind (urlOfResult t) = .ok (some url) := by
          simp only [Except.bind, urlOfResult, hurl]
          rfl
        rw [hbind, Outcome.ofSettled, if_pos hp]
        apply complete_outcome host hw i
        rw [loadCanonical_url hback, Traced.bind_value, Traced.pure_value]
        cases hsource : (loadSource host i.options (spelled path)).value with
        | ok contents => rfl
        | error f =>
          obtain ⟨e, rfl⟩ := hs.loads path rfl hp f hsource
          rfl
      | false =>
        have hbind : (Except.ok (Json.str path)).bind (urlOfResult t) = .error (.url .relativePath) := by
          simp only [Except.bind, urlOfResult, urlOfName_relative hp]
          rfl
        rw [hbind, Outcome.ofSettled, hp]
        exact complete_failed host hw i rfl
    | _ => exact complete_failed host hw i rfl

end

theorem stopped_ne (w : Waiting) (f : Failure) (o : Outcome) : w.stopped f ≠ .ok [o] := by
  intro h
  obtain hnothing | ⟨e, -, herror⟩ := w.stopped_cases f
  · rw [h] at hnothing
    cases hnothing
  · rw [h] at herror
    cases herror

theorem complete_iff (host : Host) {w : Waiting} (hw : w.handOver) (i : Importer) {t : FileTree} {c : Completion Json}
    (htext : ∀ path, c = some (.ok (.str path)) → Path.isAbsolute path.toList → IsText t (spelled path)) :
    (∃ o, (i.complete host w (c.map (·.bind (urlOfResult t)))).value = .ok [o]) ↔
      ∃ s, c = some s ∧ Reaches host i.options s := by
  cases c with
  | none =>
    refine iff_of_false ?_ nofun
    rintro ⟨o, ho⟩
    cases ho
  | some s =>
    have htext : ∀ path, s = .ok (.str path) → Path.isAbsolute path.toList → IsText t (spelled path) := by
      rintro path rfl
      exact htext path rfl
    constructor
    · rintro ⟨o, ho⟩
      refine ⟨s, rfl, ⟨?_, ?_⟩⟩
      · rintro f rfl
        by_contra hf
        have hstopped : (i.complete host w (some (.error f))).value = w.stopped f := by
          rw [Importer.complete, if_neg hf]
          rfl
        exact stopped_ne w f o (hstopped.symm.trans ho)
      · rintro path rfl hp f hsource
        obtain ⟨url, hurl, hback⟩ := urlOfPath_absolute hp
        rw [← urlOfName_text hp (htext path rfl hp)] at hurl
        have hbind : (Except.ok (Json.str path)).bind (urlOfResult t) = .ok (some url) := by
          simp only [Except.bind, urlOfResult, hurl]
          rfl
        by_contra hother
        have hload : (i.loadCanonical host (some url)).value = .error f := by
          rw [loadCanonical_url hback, Traced.bind_value, Traced.pure_value, hsource]
          exact ofFailure_eq_error.mpr ⟨rfl, not_exists.mp hother⟩
        have hstopped := complete_loaded host i (w := w) hload
        rw [Option.map_some, hbind] at ho
        exact stopped_ne w f o (hstopped.symm.trans ho)
    · rintro ⟨_, ⟨⟩, hs⟩
      exact ⟨_, complete_settled host hw i htext hs⟩

section

variable {t : FileTree} (hcwd : Path.isAbsolute t.cwd) (host : Host) (w : Waiting) (o : Options)
  (external : ExternalResolver) {specifier previous : String} (hprevious : IsText t (t.absolute previous))

include hcwd hprevious

theorem call_other (hs : isDataModule specifier = false) :
    (Importer.call ⟨.external external, o⟩ t host w specifier previous).value = .ok ⟨.nothing, []⟩ := by
  obtain ⟨url, hurl, -⟩ := url_previous previous hcwd hprevious
  rw [Importer.call, hurl, Traced.proceed, canonicalize_other hs]
  rfl

theorem call_external (hs : isDataModule specifier) :
    Importer.call ⟨.external external, o⟩ t host w specifier previous = (do
      let settled ← resolveExternal t external specifier (t.absolute previous)
      let handedOver ← Importer.complete ⟨.external external, o⟩ host w (settled.map (·.bind (urlOfResult t)))
      pure (handedOver.map fun os => ⟨.nothing, os⟩)) := by
  obtain ⟨url, hurl, hback⟩ := url_previous previous hcwd hprevious
  have hcanonical : Importer.canonicalize ⟨.external external, o⟩ t specifier (some url) = (do
      let settled ← resolveExternal t external specifier (t.absolute previous)
      pure (.pending (settled.map (·.bind (urlOfResult t))))) := by
    rw [canonicalize_resolve hs hback, Strategy.resolve, bind_assoc]
    rfl
  rw [Importer.call, hurl, Traced.proceed, hcanonical, bind_assoc]
  simp only [pure_bind]

theorem call_external_value (hs : isDataModule specifier) :
    (Importer.call ⟨.external external, o⟩ t host w specifier previous).value =
      (Importer.complete ⟨.external external, o⟩ host w
        ((resolveExternal t external specifier (t.absolute previous)).value.map
          (·.bind (urlOfResult t)))).value.map fun os => ⟨.nothing, os⟩ := by
  rw [call_external hcwd host w o external hprevious hs, Traced.bind_value, Traced.bind_value, Traced.pure_value]

theorem call_eq_ok_iff (hs : isDataModule specifier) {os : List Outcome} :
    (Importer.call ⟨.external external, o⟩ t host w specifier previous).value = .ok ⟨.nothing, os⟩ ↔
      (Importer.complete ⟨.external external, o⟩ host w
        ((resolveExternal t external specifier (t.absolute previous)).value.map
          (·.bind (urlOfResult t)))).value = .ok os := by
  rw [call_external_value hcwd host w o external hprevious hs]
  cases (Importer.complete ⟨.external external, o⟩ host w
    ((resolveExternal t external specifier (t.absolute previous)).value.map (·.bind (urlOfResult t)))).value with
  | ok os' => simp [Except.map]
  | error f => simp [Except.map]

theorem call_cases (specifier : String) :
    (∃ os : List Outcome, os.length ≤ 1 ∧
      (Importer.call ⟨.external external, o⟩ t host w specifier previous).value = .ok ⟨.nothing, os⟩) ∨
    ∃ e, w.EndedBy e ∧
      (Importer.call ⟨.external external, o⟩ t host w specifier previous).value = .error (.thrown e) := by
  cases hs : isDataModule specifier with
  | false => exact .inl ⟨[], Nat.zero_le 1, call_other hcwd host w o external hprevious hs⟩
  | true =>
    apply (Importer.complete_cases ⟨.external external, o⟩ host w _).imp
    · rintro ⟨os, hos, h⟩
      exact ⟨os, hos, (call_eq_ok_iff hcwd host w o external hprevious hs).mpr h⟩
    · rintro ⟨e, he, h⟩
      refine ⟨e, he, ?_⟩
      rw [call_external_value hcwd host w o external hprevious hs, h]
      rfl

end

theorem resolveExternal_fit {t : FileTree} {external : ExternalResolver} {specifier previous : String}
    (hcalls : ∃ error result later, Act.calls error result later ∈ external previous specifier)
    (hfit : beside? t specifier previous = none → ∀ act ∈ external previous specifier, act.Fit) :
    ∃ s, (resolveExternal t external specifier previous).value = some s ∧ IsOrdinary s := by
  unfold resolveExternal
  cases hb : beside? t specifier previous with
  | some path => exact ⟨_, rfl, isOrdinary_ok _⟩
  | none => exact Act.outcome_fit (hfit hb) hcalls

/-- An asynchronous import gives nothing at once and hands over one outcome at most. It hands one over if, and only if,
it is one of a data module and what is settled reaches those who wait. All acts of a resolver that keep nothing from
them do reach them, unless loading what was found raises something else than an error of an import. -/
theorem asynchronous_import (host : Host) (o : Options) {t : FileTree} {w : Waiting} (external : ExternalResolver)
    (specifier previous : String) (hcwd : Path.isAbsolute t.cwd) (hw : w.handOver)
    (hprevious : IsText t (t.absolute previous))
    (hcalls : ∃ error result later, Act.calls error result later ∈ external (t.absolute previous) specifier) :
    let call := Importer.call ⟨.external external, o⟩ t host w specifier previous
    let settled := (resolveExternal t external specifier (t.absolute previous)).value
    ((∃ os, os.length ≤ 1 ∧ call.value = .ok ⟨.nothing, os⟩) ∨
      ∃ e, w.EndedBy e ∧ call.value = .error (.thrown e)) ∧
    (isDataModule specifier = false → call.value = .ok ⟨.nothing, []⟩) ∧
    (isDataModule specifier → (beside? t specifier (t.absolute previous) = none →
        ∀ act ∈ external (t.absolute previous) specifier, act.Fit) → ∃ s, settled = some s ∧ IsOrdinary s) ∧
    ((∀ path, settled = some (.ok (.str path)) → Path.isAbsolute path.toList → IsText t (spelled path)) →
      (∀ s, isDataModule specifier → settled = some s → Reaches host o s →
        call.value = .ok ⟨.nothing, [.ofSettled host o s]⟩) ∧
      ((∃ done, call.value = .ok ⟨.nothing, [done]⟩) ↔
        isDataModule specifier ∧ ∃ s, settled = some s ∧ Reaches host o s)) := by
  intro call settled
  refine ⟨call_cases hcwd host w o external hprevious specifier, call_other hcwd host w o external hprevious,
    fun _ => resolveExternal_fit hcalls, fun htext => ⟨?_, ?_⟩⟩
  · intro s hs hsettled hreaches
    apply (call_eq_ok_iff hcwd host w o external hprevious hs).mpr
    rw [show (resolveExternal t external specifier (t.absolute previous)).value = some s from hsettled]
    apply complete_settled host hw ⟨.external external, o⟩ _ hreaches
    rintro path rfl
    exact htext path hsettled
  · cases hs : isDataModule specifier with
    | false =>
      have hcall : call.value = .ok ⟨.nothing, []⟩ := call_other hcwd host w o external hprevious hs
      simp [hcall]
    | true =>
      have hhanded : ∀ done, call.value = .ok ⟨.nothing, [done]⟩ ↔ _ :=
        fun done => call_eq_ok_iff hcwd host w o external hprevious hs
      rw [exists_congr hhanded, complete_iff host hw _ htext]
      simp only [true_and, settled]

def insistentResolver : ExternalResolver := fun _ _ =>
  [.calls (.value .null) (.str "/lib/./top.py") true, .calls (.value (.str "too late")) .null true]

def insistentHost : Host :=
  usualHost.ending fun _ => .exited 0 "\x7b\"a\": 1\x7d" ""

def insistentCall (specifier : String) : Traced (Except Failure Call) :=
  Importer.call ⟨.external insistentResolver, {}⟩ {} insistentHost ⟨false, true⟩ specifier "/styles/style.scss"

theorem asynchronous_import_insistent :
    (IsText {} (FileTree.absolute {} "/styles/style.scss") ∧
      (∃ error result later, Act.calls error result later ∈ insistentResolver "/styles/style.scss" "top.py") ∧
      ∀ act ∈ insistentResolver "/styles/style.scss" "top.py", act.Fit) ∧
    (insistentCall "top.py").value = .ok ⟨.nothing, [.imported ⟨"/lib/top.py", "$a: 1;"⟩]⟩ ∧
    (insistentCall "top.scss").value = .ok ⟨.nothing, []⟩ := by
  have htext : ∀ path, IsText {} path := fun _ _ _ => rfl
  have hcalls : ∀ specifier, ∃ error result later,
      Act.calls error result later ∈ insistentResolver "/styles/style.scss" specifier :=
    fun _ => ⟨_, _, _, List.mem_cons_self⟩
  have hfit : ∀ act ∈ insistentResolver "/styles/style.scss" "top.py", act.Fit := by
    rintro act (⟨⟩ | ⟨_, ⟨⟩ | ⟨_, ⟨⟩⟩⟩)
    · exact ⟨_, rfl⟩
    · exact ⟨_, rfl⟩
  have himport := fun specifier => asynchronous_import insistentHost {} (t := {}) (w := ⟨false, true⟩) insistentResolver
    specifier "/styles/style.scss" rfl rfl (htext _) (hcalls specifier)
  have hsource : (loadSource insistentHost {} (spelled "/lib/./top.py")).value = .ok "$a: 1;" := by decide +kernel
  refine ⟨⟨htext _, hcalls _, hfit⟩, ?_, ?_⟩
  · obtain ⟨s, hsettled, hordinary⟩ := (himport "top.py").2.2.1 rfl fun _ => hfit
    cases hsettled
    have hreaches : Reaches insistentHost {} (.ok (.str "/lib/./top.py")) := by
      refine ⟨hordinary, ?_⟩
      rintro path ⟨⟩ - f hf
      cases hsource.symm.trans hf
    rw [insistentCall, ((himport "top.py").2.2.2 fun _ _ _ => htext _).1 _ rfl rfl hreaches]
    decide +kernel
  · exact (himport "top.scss").2.1 rfl

end Import

end SassData
