import SassData.Proofs.Import.Loading

namespace SassData.Import

def Host.ending (host : Host) (outcome : Command → ChildOutcome) : Host :=
  { host with start := fun c => .ok (outcome c) }

theorem spawnedOf_append (es fs : List Event) : spawnedOf (es ++ fs) = spawnedOf es ++ spawnedOf fs :=
  List.filterMap_append

theorem loadSource_events (host : Host) (o : Options) (path : String) :
    ∃ messages : List String, (loadSource host o path).events =
      .debug ("Loading " ++ path) :: .spawned (commandFor o path) :: messages.map .debug := by
  have hexit : ∀ ended, ∃ messages : List String, (exitLine ended).events = messages.map .debug := by
    intro ended
    cases ended with
    | exited status stdout stderr => exact ⟨[_], rfl⟩
    | _ => exact ⟨[], rfl⟩
  rw [loadSource, loadData, Traced.bind_events, Traced.bind_events, Traced.bind_events, Traced.pure_events,
    List.append_nil]
  cases host.start (commandFor o path) with
  | error e => exact ⟨[], rfl⟩
  | ok ended =>
    obtain ⟨messages, hmessages⟩ := hexit ended
    refine ⟨messages, ?_⟩
    rw [Traced.bind_events, Traced.pure_events, List.append_nil, hmessages]
    rfl

theorem spawnedOf_debug (messages : List String) : spawnedOf (messages.map .debug) = [] := by
  induction messages with
  | nil => rfl
  | cons message messages ih => exact ih

theorem spawnedOf_loadSource (host : Host) (o : Options) (path : String) :
    spawnedOf (loadSource host o path).events = [commandFor o path] := by
  obtain ⟨messages, hmessages⟩ := loadSource_events host o path
  rw [hmessages]
  change commandFor o path :: spawnedOf (messages.map .debug) = _
  rw [spawnedOf_debug]

def FailsWith {α : Type} (r : Except Failure α) (k : ErrorKind) : Prop :=
  ∃ e : ImportError, r = .error (.importError e) ∧ e.errorClass = .of k

def failureStatuses : List (Int × ErrorKind) :=
  [(10, .invalidPath), (11, .fileNotFound), (12, .importFailed), (13, .noDefaultExport),
    (14, .dataSerializationFailed)]

/-- What an outcome of a process means: data, or a kind of error. -/
inductive ChildOutcome.Means : ChildOutcome → Option ErrorKind → Prop
  | timedOut : Means .timedOut (some .timeout)
  | notStarted (reason : String) : Means (.notStarted reason) (some .unknown)
  | named {status : Int} {k : ErrorKind} (h : (status, k) ∈ failureStatuses) (stdout stderr : String) :
      Means (.exited status stdout stderr) (some k)
  | unnamed {status : Int} (h : status < 0 ∨ (0 < status ∧ status < 10) ∨ 14 < status) (stdout stderr : String) :
      Means (.exited status stdout stderr) (some .unknown)
  | unreadable {stdout : String} (h : ∀ v, ¬ Json.Denotes stdout.toList v) (stderr : String) :
      Means (.exited 0 stdout stderr) (some .dataParsingFailed)
  | noObject {stdout : String} {v : Json} (hv : Json.Denotes stdout.toList v) (hobject : ∀ members, v ≠ .obj members)
      (stderr : String) : Means (.exited 0 stdout stderr) (some .invalidData)
  | object {stdout : String} {members : Members} (h : Json.Denotes stdout.toList (.obj members)) (stderr : String) :
      Means (.exited 0 stdout stderr) none

theorem means_exists (ended : ChildOutcome) : ∃ k, ended.Means k := by
  cases ended with
  | timedOut => exact ⟨_, .timedOut⟩
  | notStarted reason => exact ⟨_, .notStarted reason⟩
  | exited status stdout stderr =>
    by_cases hzero : status = 0
    · subst hzero
      by_cases hv : ∃ v, Json.Denotes stdout.toList v
      · obtain ⟨v, hv⟩ := hv
        by_cases hobject : ∃ members, v = .obj members
        · obtain ⟨members, rfl⟩ := hobject
          exact ⟨_, .object hv stderr⟩
        · exact ⟨_, .noObject hv (not_exists.mp hobject) stderr⟩
      · exact ⟨_, .unreadable (not_exists.mp hv) stderr⟩
    · by_cases hnamed : 10 ≤ status ∧ status ≤ 14
      · have hstatus : status = 10 ∨ status = 11 ∨ status = 12 ∨ status = 13 ∨ status = 14 := by omega
        rcases hstatus with rfl | rfl | rfl | rfl | rfl
        all_goals exact ⟨_, .named (by simp [failureStatuses]; rfl) stdout stderr⟩
      · exact ⟨_, .unnamed (by omega) stdout stderr⟩

theorem ofStatus_named {status : Int} {k : ErrorKind} (h : (status, k) ∈ failureStatuses) (diagnostic : String) :
    status ≠ 0 ∧ (ImportError.ofStatus (some status) (some diagnostic)).errorClass = .of k := by
  simp only [failureStatuses, List.mem_cons, List.not_mem_nil, or_false, Prod.mk.injEq] at h
  rcases h with ⟨rfl, rfl⟩ | ⟨rfl, rfl⟩ | ⟨rfl, rfl⟩ | ⟨rfl, rfl⟩ | ⟨rfl, rfl⟩
  all_goals exact ⟨by decide, rfl⟩

theorem ofStatus_unnamed {status : Int} (h : status < 0 ∨ (0 < status ∧ status < 10) ∨ 14 < status)
    (diagnostic : String) : (ImportError.ofStatus (some status) (some diagnostic)).errorClass = .of .unknown := by
  have hnone : ExitCode.ofStatus? status = none := by
    apply List.find?_eq_none.mpr
    intro c _
    have hcode : c.code = 0 ∨ (10 ≤ c.code ∧ c.code ≤ 14) := by cases c <;> decide
    rw [decide_eq_true_eq]
    omega
  simp only [ImportError.ofStatus, Option.bind_some, hnone]
  rfl

inductive TooDeep (host : Host) (stdout : String) : Failure → Prop
  | toRead {mark : Char} (h : Json.load host.reading stdout = .error (.tooDeep mark)) :
      TooDeep host stdout (.thrown (tooDeepToRead mark))
  | toPrint {members : Members} (h : Json.load host.reading stdout = .ok (.obj members))
      (hcalls : host.calls < Json.callsOfMembers host.atom members) :
      TooDeep host stdout (.encoding Json.tooManyCalls)

theorem load_ok_denotes {reading : Nat} {stdout : String} {v : Json} (h : Json.load reading stdout = .ok v) :
    Json.Denotes stdout.toList v := by
  unfold Json.load at h
  split at h
  · cases h
  · next hparse =>
    cases h
    exact Json.read?_eq_some_iff.mp hparse
  · cases h

theorem load_denotes {reading : Nat} {stdout : String} {v : Json} (hv : Json.Denotes stdout.toList v)
    (hdeep : ∀ mark, Json.load reading stdout ≠ .error (.tooDeep mark)) : Json.load reading stdout = .ok v := by
  have hparse : Json.parse? stdout = some v := Json.read?_eq_some_iff.mpr hv
  unfold Json.load at hdeep ⊢
  rw [hparse] at hdeep ⊢
  split
  · next mark h =>
    rw [h] at hdeep
    exact (hdeep mark rfl).elim
  · next h => exact congrArg Except.ok (Option.some.inj h).symm
  · next h => cases h

theorem load_malformed {reading : Nat} {stdout : String} (hv : ∀ v, ¬ Json.Denotes stdout.toList v)
    (hdeep : ∀ mark, Json.load reading stdout ≠ .error (.tooDeep mark)) :
    Json.load reading stdout = .error .malformed := by
  cases h : Json.load reading stdout with
  | ok v => exact (hv v (load_ok_denotes h)).elim
  | error refusal =>
    cases refusal with
    | malformed => rfl
    | tooDeep mark => exact (hdeep mark h).elim

section

variable {reading : Nat} (c : Command) {ended : ChildOutcome}
  (hdeep : ∀ stdout stderr mark, ended = .exited 0 stdout stderr → Json.load reading stdout ≠ .error (.tooDeep mark))

include hdeep

theorem reports_of_means {k : Option ErrorKind} (h : ended.Means k) :
    Reports (interpret reading c ended) (k.elim .data .error) := by
  have hexited : ∀ {status : Int}, status ≠ 0 → ∀ stdout stderr, interpret reading c (.exited status stdout stderr) =
      .error (.importError (.ofStatus (some status) (some stderr))) := fun hstatus _ _ => if_neg hstatus
  cases h with
  | timedOut => exact ⟨_, rfl, rfl⟩
  | notStarted reason => exact ⟨_, rfl, rfl⟩
  | named h stdout stderr =>
    obtain ⟨hstatus, hclass⟩ := ofStatus_named h stderr
    exact ⟨_, hexited hstatus stdout stderr, hclass⟩
  | unnamed h stdout stderr => exact ⟨_, hexited (by omega) stdout stderr, ofStatus_unnamed h stderr⟩
  | @unreadable stdout h stderr =>
    rw [interpret, if_pos rfl, readData, load_malformed h fun mark => hdeep stdout stderr mark rfl]
    exact ⟨_, rfl, rfl⟩
  | @noObject stdout v hv hobject stderr =>
    rw [interpret, if_pos rfl, readData, load_denotes hv fun mark => hdeep stdout stderr mark rfl]
    cases v with
    | obj members => exact absurd rfl (hobject members)
    | _ => exact ⟨_, rfl, rfl⟩
  | @object stdout members h stderr =>
    rw [interpret, if_pos rfl, readData, load_denotes h fun mark => hdeep stdout stderr mark rfl]
    exact ⟨_, rfl⟩

theorem reports_iff_means {k : Option ErrorKind} :
    Reports (interpret reading c ended) (k.elim .data .error) ↔ ended.Means k := by
  refine ⟨fun hk => ?_, reports_of_means c hdeep⟩
  obtain ⟨l, hl⟩ := means_exists ended
  have hkl := reports_unique hk (reports_of_means c hdeep hl)
  cases k <;> cases l <;> cases hkl
  all_goals exact hl

end

theorem interpret_eq_ok {reading : Nat} {c : Command} {ended : ChildOutcome} {members : Members}
    (h : interpret reading c ended = .ok members) :
    ∃ stdout stderr, ended = .exited 0 stdout stderr ∧ Json.load reading stdout = .ok (.obj members) := by
  cases ended with
  | timedOut => cases h
  | notStarted reason => cases h
  | exited status stdout stderr =>
    rw [interpret] at h
    split_ifs at h with hstatus
    refine ⟨stdout, stderr, by rw [hstatus], ?_⟩
    unfold readData at h
    split at h
    · cases h
    · cases h
    · next members' hload =>
      cases h
      exact hload
    · cases h

theorem interpret_error {reading : Nat} {c : Command} {ended : ChildOutcome} {f : Failure}
    (h : interpret reading c ended = .error f) :
    (∃ e, f = .importError e) ∨ ∃ stdout stderr mark, ended = .exited 0 stdout stderr ∧
      Json.load reading stdout = .error (.tooDeep mark) ∧ f = .thrown (tooDeepToRead mark) := by
  cases ended with
  | timedOut =>
    cases h
    exact .inl ⟨_, rfl⟩
  | notStarted reason =>
    cases h
    exact .inl ⟨_, rfl⟩
  | exited status stdout stderr =>
    rw [interpret] at h
    split_ifs at h with hstatus
    · unfold readData at h
      split at h
      · cases h
        exact .inl ⟨_, rfl⟩
      · next mark hload =>
        cases h
        exact .inr ⟨stdout, stderr, mark, by rw [hstatus], hload, rfl⟩
      · cases h
      · cases h
        exact .inl ⟨_, rfl⟩
    · cases h
      exact .inl ⟨_, rfl⟩

section

variable (host : Host) (outcome : Command → ChildOutcome) (o : Options) (path : String)

theorem loadSource_ending :
    (loadSource (host.ending outcome) o path).value =
      (interpret host.reading (commandFor o path) (outcome (commandFor o path))).bind host.print := rfl

theorem loadSource_failed {f : Failure}
    (h : interpret host.reading (commandFor o path) (outcome (commandFor o path)) = .error f) :
    (loadSource (host.ending outcome) o path).value = .error f := by
  rw [loadSource_ending, h]
  rfl

theorem loadSource_printed
    (hdeep : ∀ stdout stderr f, outcome (commandFor o path) = .exited 0 stdout stderr → ¬ TooDeep host stdout f)
    {members : Members}
    (h : interpret host.reading (commandFor o path) (outcome (commandFor o path)) = .ok members) :
    (loadSource (host.ending outcome) o path).value = .ok (Scss.declarations members) := by
  obtain ⟨stdout, stderr, hended, hload⟩ := interpret_eq_ok h
  have hcalls : Json.callsOfMembers host.atom members ≤ host.calls := by
    rw [← Nat.not_lt]
    exact fun hcalls => hdeep stdout stderr _ hended (.toPrint hload hcalls)
  rw [loadSource_ending, h, Except.bind, print_eq host (load_ok_denotes hload).inLimits, if_pos hcalls]

theorem loadSource_error {f : Failure} (h : (loadSource (host.ending outcome) o path).value = .error f) :
    (∃ e, f = .importError e) ∨ ∃ stdout stderr, outcome (commandFor o path) = .exited 0 stdout stderr ∧
      TooDeep host stdout f := by
  rw [loadSource_ending] at h
  cases hr : interpret host.reading (commandFor o path) (outcome (commandFor o path)) with
  | error g =>
    rw [hr] at h
    cases h
    obtain he | ⟨stdout, stderr, mark, hended, hload, rfl⟩ := interpret_error hr
    · exact .inl he
    · exact .inr ⟨stdout, stderr, hended, .toRead hload⟩
  | ok members =>
    obtain ⟨stdout, stderr, hended, hload⟩ := interpret_eq_ok hr
    have hprint := print_eq host (load_ok_denotes hload).inLimits
    rw [hr] at h
    rw [Except.bind, hprint] at h
    split_ifs at h with hcalls
    cases h
    exact .inr ⟨stdout, stderr, hended, .toPrint hload (Nat.lt_of_not_le hcalls)⟩

theorem loadSource_tooDeep {f : Failure} {stdout stderr : String}
    (hended : outcome (commandFor o path) = .exited 0 stdout stderr) (h : TooDeep host stdout f) :
    (loadSource (host.ending outcome) o path).value = .error f := by
  rw [loadSource_ending, hended, interpret, if_pos rfl, readData]
  cases h with
  | toRead h =>
    rw [h]
    rfl
  | toPrint h hcalls =>
    have hprint := print_eq host (load_ok_denotes h).inLimits
    rw [if_neg (Nat.not_le.mpr hcalls)] at hprint
    rw [h]
    exact hprint

end

/-- However the process ends that is started for a path, the run gives declarations or an error of an import, unless
the output is too deep. It gives declarations if, and only if, the process succeeds and its output stands for an object;
what other ends mean tells the kind of the error. Printing fails for no other reason, since the values that texts stand
for pass the rules for what is displayed. -/
theorem loadSource_outcome (host : Host) (outcome : Command → ChildOutcome) (o : Options) (path : String)
    (hdeep : ∀ stdout stderr f, outcome (commandFor o path) = .exited 0 stdout stderr → ¬ TooDeep host stdout f) :
    let run := loadSource (host.ending outcome) o path
    let ended := outcome (commandFor o path)
    spawnedOf run.events = [commandFor o path] ∧
    (∃! k, ended.Means k) ∧
    ((∃ text, run.value = .ok text) ∨ ∃ k, FailsWith run.value k) ∧
    (∀ k, FailsWith run.value k ↔ ended.Means (some k)) ∧
    (∀ text, run.value = .ok text ↔ ∃ stdout stderr members, ended = .exited 0 stdout stderr ∧
      Json.Denotes stdout.toList (.obj members) ∧ Scss.declarations members = text) ∧
    ∀ (stdout : List Char) (v : Json), Json.Denotes stdout v → ∀ n, v.calls host.atom ≤ n →
      v.toValue.toJson (Value.displayRules host.atom) n = .ok v := by
  intro run ended
  have hunread : ∀ stdout stderr mark, ended = .exited 0 stdout stderr →
      Json.load host.reading stdout ≠ .error (.tooDeep mark) :=
    fun stdout stderr mark hended hload => hdeep stdout stderr _ hended (.toRead hload)
  have hiff : ∀ {k}, Reports (interpret host.reading (commandFor o path) ended) (k.elim .data .error) ↔
      ended.Means k := reports_iff_means (commandFor o path) hunread
  -- Data that was read is printed, so that the run fails exactly if reading does.
  have hprinted : ∀ members, interpret host.reading (commandFor o path) ended = .ok members →
      run.value = .ok (Scss.declarations members) := fun _ => loadSource_printed host outcome o path hdeep
  have hfailed : ∀ f, interpret host.reading (commandFor o path) ended = .error f → run.value = .error f :=
    fun _ => loadSource_failed host outcome o path
  have hfails : ∀ k, FailsWith run.value k ↔ ended.Means (some k) := by
    intro k
    rw [← hiff]
    cases hr : interpret host.reading (commandFor o path) ended with
    | ok members => simp [hprinted members hr, FailsWith, Reports]
    | error f => simp [hfailed f hr, FailsWith, Reports]
  have hgives : ∀ text, run.value = .ok text ↔ ∃ stdout stderr members, ended = .exited 0 stdout stderr ∧
      Json.Denotes stdout.toList (.obj members) ∧ Scss.declarations members = text := by
    intro text
    constructor
    · intro h
      cases hr : interpret host.reading (commandFor o path) ended with
      | error f =>
        rw [hfailed f hr] at h
        cases h
      | ok members =>
        obtain ⟨stdout, stderr, hended, hload⟩ := interpret_eq_ok hr
        rw [hprinted members hr] at h
        exact ⟨stdout, stderr, members, hended, load_ok_denotes hload, Except.ok.inj h⟩
    · rintro ⟨stdout, stderr, members, hended, hdenotes, rfl⟩
      apply hprinted
      rw [hended, interpret, if_pos rfl, readData,
        load_denotes hdenotes fun mark => hunread stdout stderr mark hended]
  obtain ⟨k, hk⟩ := means_exists ended
  refine ⟨spawnedOf_loadSource _ o path, ⟨k, hk, ?_⟩, ?_, hfails, hgives, ?_⟩
  · intro l hl
    have hkl := reports_unique (hiff.mpr hl) (hiff.mpr hk)
    cases k <;> cases l <;> cases hkl
    all_goals rfl
  · cases k with
    | some k => exact .inr ⟨k, (hfails k).mpr hk⟩
    | none =>
      obtain ⟨members, hmembers⟩ := hiff.mpr hk
      exact .inl ⟨_, hprinted members hmembers⟩
  · intro stdout v hv n hcalls
    rw [Json.printable hv.inLimits, if_pos hcalls]

def repeatingOutput : String :=
  "\x7b\"a\":0,\"a\":NaN\x7d\n"

theorem loadSource_outcome_repeating :
    (∀ stdout stderr f, ChildOutcome.exited 0 repeatingOutput "" = .exited 0 stdout stderr →
      ¬ TooDeep usualHost stdout f) ∧
    ∃ members, Json.Denotes repeatingOutput.toList (.obj members) ∧ Scss.declarations members = "$a: NaN;" := by
  have hrun : (loadSource (usualHost.ending fun _ => .exited 0 repeatingOutput "") {} "/d.py").value =
      .ok "$a: NaN;" := by decide +kernel
  have hdeep : ∀ stdout stderr f, ChildOutcome.exited 0 repeatingOutput "" = .exited 0 stdout stderr →
      ¬ TooDeep usualHost stdout f := by
    rintro stdout stderr f ⟨⟩ h
    have herror := loadSource_tooDeep usualHost (fun _ => .exited 0 repeatingOutput "") {} "/d.py" rfl h
    cases hrun.symm.trans herror
  refine ⟨hdeep, ?_⟩
  have houtcome := loadSource_outcome usualHost (fun _ => .exited 0 repeatingOutput "") {} "/d.py" hdeep
  obtain ⟨stdout, stderr, members, hended, hdenotes, htext⟩ := (houtcome.2.2.2.2.1 _).mp hrun
  cases hended
  exact ⟨members, hdenotes, htext⟩

end SassData.Import
