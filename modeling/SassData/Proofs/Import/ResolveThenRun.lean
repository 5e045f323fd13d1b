import SassData.Import.Compile
import SassData.Proofs.Import.CanonicalUrl
import SassData.Proofs.Import.RunOutcome

/-!
A synchronous import by file URLs does what resolving the specifier and loading the path that was found do, with the
same events.
-/

namespace SassData.Import

def resolved (t : FileTree) (includePaths : List String) (specifier previous : String) :
    Traced (Except Failure (Option String)) :=
  if isDataModule specifier then resolveFiles t includePaths specifier (t.absolute previous) else pure (.ok none)

def resolveThenRun (t : FileTree) (host : Host) (o : Options) (includePaths : List String)
    (specifier previous : String) : Traced (Except Failure (Option Imported)) :=
  (resolved t includePaths specifier previous).andThen fun
    | none => pure (.ok none)
    | some path => do
      let source ← loadSource host o path
      pure (source.map fun contents => some ⟨path, contents⟩)

def Outcome.ofResult : Except Failure (Option Imported) → Except Failure Outcome
  | .error f => Outcome.ofFailure f
  | .ok none => .ok .nothing
  | .ok (some r) => .ok (.imported r)

theorem ofFailure_eq_error {f g : Failure} :
    Outcome.ofFailure f = .error g ↔ f = g ∧ ∀ e, g ≠ .importError e := by
  cases f with
  | importError e =>
    constructor
    · intro h
      cases h
    · rintro ⟨rfl, h⟩
      exact (h e rfl).elim
  | _ =>
    constructor
    · rintro ⟨⟩
      exact ⟨rfl, nofun⟩
    · rintro ⟨rfl, -⟩
      rfl

theorem ofResult_eq_error {r : Except Failure (Option Imported)} {f : Failure} :
    Outcome.ofResult r = .error f ↔ r = .error f ∧ ∀ e, f ≠ .importError e := by
  rcases r with g | _ | r
  · rw [Outcome.ofResult, ofFailure_eq_error, Except.error.injEq]
  · simp [Outcome.ofResult]
  · simp [Outcome.ofResult]

theorem resolved_ok {t : FileTree} {includePaths : List String} {specifier previous path : String}
    (h : (resolved t includePaths specifier previous).value = .ok (some path)) : ∃ p, path = t.absolute p := by
  unfold resolved at h
  split_ifs at h
  · exact resolveFiles_absolute h
  · cases h

theorem resolved_error {t : FileTree} {includePaths : List String} {specifier previous : String} {f : Failure}
    (h : (resolved t includePaths specifier previous).value = .error f) : f = notFound specifier includePaths := by
  unfold resolved at h
  split_ifs at h
  exact resolveFiles_error h

theorem spawnedOf_resolveFiles (t : FileTree) (includePaths : List String) (specifier previous : String) :
    spawnedOf (resolveFiles t includePaths specifier previous).events = [] := by
  unfold resolveFiles
  cases beside? t specifier previous with
  | some path => rfl
  | none => rfl

theorem spawnedOf_resolved (t : FileTree) (includePaths : List String) (specifier previous : String) :
    spawnedOf (resolved t includePaths specifier previous).events = [] := by
  by_cases hs : isDataModule specifier
  · rw [resolved, if_pos hs, spawnedOf_resolveFiles]
  · rw [resolved, if_neg hs]
    rfl

def canonicalOf (t : FileTree) (found : Except Failure (Option String)) : Except Failure (Option String) :=
  found.bind fun path? => urlOfResult t ((path?.map Json.str).getD .null)

theorem canonicalOf_some (t : FileTree) (path : String) :
    canonicalOf t (.ok (some path)) = (urlOfName t.byteOf path).map some := rfl

theorem canonicalOf_path {t : FileTree} {path url : String} (h : urlOfName t.byteOf path = .ok url) :
    canonicalOf t (.ok (some path)) = .ok (some url) := by
  rw [canonicalOf_some, h]
  rfl

theorem canonicalOf_eq_some {t : FileTree} {found : Except Failure (Option String)} {url : String}
    (h : canonicalOf t found = .ok (some url)) :
    ∃ path, found = .ok (some path) ∧ urlOfName t.byteOf path = .ok url := by
  cases found with
  | error f => cases h
  | ok path? =>
    cases path? with
    | none => cases h
    | some path =>
      rw [canonicalOf_some] at h
      cases hpath : urlOfName t.byteOf path with
      | error e =>
        rw [hpath] at h
        cases h
      | ok url' =>
        rw [hpath] at h
        cases h
        exact ⟨path, rfl, hpath⟩

def Importer.goOn (i : Importer) (host : Host) : Except Failure (Option String) → Traced (Except Failure Call)
  | .error f => pure ((Outcome.ofFailure f).map fun o => ⟨o, []⟩)
  | .ok url? => do
    let outcome ← i.loadCanonical host url?
    pure (outcome.map fun o => ⟨o, []⟩)

theorem load_url {i : Importer} {host : Host} {url path : String} (hurl : pathOfUrl url = .ok path) :
    i.load host url = (do
      let source ← loadSource host i.options path
      pure (source.map fun contents => ⟨contents, scss⟩)) := by
  rw [Importer.load, hurl]
  rfl

theorem loadCanonical_url {i : Importer} {host : Host} {url path : String} (hurl : pathOfUrl url = .ok path) :
    i.loadCanonical host (some url) = (do
      let source ← loadSource host i.options path
      pure (Outcome.ofResult (source.map fun contents => some ⟨path, contents⟩))) := by
  rw [Importer.loadCanonical, load_url hurl, bind_assoc]
  apply Traced.bind_congr_value
  rw [pure_bind]
  cases (loadSource host i.options path).value with
  | error f => rfl
  | ok contents =>
    change pure ((pathOfUrl url).map fun file => Outcome.imported ⟨file, contents⟩) = _
    rw [hurl]
    rfl

section

variable {t : FileTree} (host : Host) (w : Waiting) (o : Options) (includePaths : List String)
  (specifier previous : String)

theorem canonicalize_files {url : String} (hurl : pathOfUrl url = .ok (t.absolute previous)) :
    Importer.canonicalize ⟨.files includePaths, o⟩ t specifier (some url) = (do
      let found ← resolved t includePaths specifier previous
      pure (.now (canonicalOf t found))) := by
  cases hs : isDataModule specifier with
  | true =>
    rw [canonicalize_resolve hs hurl, resolved, if_pos hs, Strategy.resolve, bind_assoc]
    apply Traced.bind_congr_value
    rw [pure_bind]
    cases (resolveFiles t includePaths specifier (t.absolute previous)).value with
    | error f => rfl
    | ok path? => rfl
  | false =>
    rw [canonicalize_other hs, resolved, hs]
    rfl

theorem resolveThenRun_path {path : String}
    (h : (resolved t includePaths specifier previous).value = .ok (some path)) :
    (resolveThenRun t host o includePaths specifier previous).value =
      (loadSource host o path).value.map fun contents => some ⟨path, contents⟩ := by
  rw [resolveThenRun, Traced.andThen, Traced.bind_value, h]
  rfl

theorem resolveThenRun_error {f : Failure}
    (h : (resolveThenRun t host o includePaths specifier previous).value = .error f) :
    f = notFound specifier includePaths ∨ ∃ path,
      (resolved t includePaths specifier previous).value = .ok (some path) ∧
      (loadSource host o path).value = .error f := by
  cases hr : (resolved t includePaths specifier previous).value with
  | error g =>
    rw [resolveThenRun, Traced.andThen, Traced.bind_value, hr] at h
    cases h
    exact .inl (resolved_error hr)
  | ok path? =>
    cases path? with
    | none =>
      rw [resolveThenRun, Traced.andThen, Traced.bind_value, hr] at h
      cases h
    | some path =>
      rw [resolveThenRun_path host o includePaths specifier previous hr] at h
      cases hs : (loadSource host o path).value with
      | error g =>
        rw [hs] at h
        cases h
        exact .inr ⟨path, rfl, hs⟩
      | ok contents =>
        rw [hs] at h
        cases h

theorem spawnedOf_resolveThenRun :
    spawnedOf (resolveThenRun t host o includePaths specifier previous).events =
      match (resolved t includePaths specifier previous).value with
      | .ok (some path) => [commandFor o path]
      | _ => [] := by
  rw [resolveThenRun, Traced.andThen, Traced.bind_events, spawnedOf_append, spawnedOf_resolved, List.nil_append]
  cases (resolved t includePaths specifier previous).value with
  | error f => rfl
  | ok path? =>
    cases path? with
    | none => rfl
    | some path =>
      rw [Traced.proceed, Traced.bind_events, Traced.pure_events, List.append_nil]
      exact spawnedOf_loadSource host o path

variable (hcwd : Path.isAbsolute t.cwd) (hprevious : IsText t (t.absolute previous))

include hcwd hprevious

theorem url_previous :
    ∃ url, urlOfName t.byteOf (t.absolute previous) = .ok url ∧ pathOfUrl url = .ok (t.absolute previous) := by
  rw [urlOfName_absolute hcwd hprevious]
  exact url_absolute hcwd previous

theorem call_goOn :
    Importer.call ⟨.files includePaths, o⟩ t host w specifier previous = (do
      let found ← resolved t includePaths specifier previous
      Importer.goOn ⟨.files includePaths, o⟩ host (canonicalOf t found)) := by
  obtain ⟨url, hurl, hpath⟩ := url_previous previous hcwd hprevious
  rw [Importer.call, hurl, Traced.proceed, canonicalize_files o includePaths specifier previous hpath, bind_assoc]
  apply Traced.bind_congr_value
  rw [pure_bind]
  cases canonicalOf t (resolved t includePaths specifier previous).value with
  | error f => rfl
  | ok url? => rfl

variable (hfound : ∀ path, (resolved t includePaths specifier previous).value = .ok (some path) → IsText t path)

include hfound

theorem call_files :
    Importer.call ⟨.files includePaths, o⟩ t host w specifier previous = (do
      let r ← resolveThenRun t host o includePaths specifier previous
      pure ((Outcome.ofResult r).map fun o => ⟨o, []⟩)) := by
  rw [call_goOn host w o includePaths specifier previous hcwd hprevious, resolveThenRun, Traced.andThen, bind_assoc]
  apply Traced.bind_congr_value
  cases hr : (resolved t includePaths specifier previous).value with
  | error f =>
    rw [resolved_error hr]
    rfl
  | ok path? =>
    cases path? with
    | none => rfl
    | some path =>
      have htext := hfound path hr
      obtain ⟨p, rfl⟩ := resolved_ok hr
      obtain ⟨canonical, hcanonical, hback⟩ := url_absolute hcwd p
      rw [← urlOfName_absolute hcwd htext] at hcanonical
      rw [canonicalOf_path hcanonical, Importer.goOn, loadCanonical_url hback, bind_assoc, Traced.proceed, bind_assoc]
      apply Traced.bind_congr_value
      rfl

theorem call_files_value :
    (Importer.call ⟨.files includePaths, o⟩ t host w specifier previous).value =
      (Outcome.ofResult (resolveThenRun t host o includePaths specifier previous).value).map fun o => ⟨o, []⟩ := by
  rw [call_files host w o includePaths specifier previous hcwd hprevious hfound]
  rfl

theorem call_eq_error_iff {f : Failure} :
    (Importer.call ⟨.files includePaths, o⟩ t host w specifier previous).value = .error f ↔
      (∀ e, f ≠ .importError e) ∧ ∃ path, (resolved t includePaths specifier previous).value = .ok (some path) ∧
        (loadSource host o path).value = .error f := by
  have hmap : ∀ r : Except Failure Outcome, r.map (fun o => Call.mk o []) = .error f ↔ r = .error f := by
    intro r
    cases r with
    | error g => simp [Except.map]
    | ok outcome => simp [Except.map]
  rw [call_files_value host w o includePaths specifier previous hcwd hprevious hfound, hmap, ofResult_eq_error, and_comm]
  apply and_congr_right
  intro hother
  constructor
  · intro herror
    obtain rfl | hload := resolveThenRun_error host o includePaths specifier previous herror
    · exact (hother _ rfl).elim
    · exact hload
  · rintro ⟨path, hpath, hload⟩
    have hpath := resolveThenRun_path host o includePaths specifier previous hpath
    rw [hload] at hpath
    exact hpath

theorem call_eq_error_iff_tooDeep {outcome : Command → ChildOutcome} (hstart : host.start = fun c => .ok (outcome c))
    {f : Failure} :
    (Importer.call ⟨.files includePaths, o⟩ t host w specifier previous).value = .error f ↔
      ∃ path stdout stderr, (resolved t includePaths specifier previous).value = .ok (some path) ∧
        outcome (commandFor o path) = .exited 0 stdout stderr ∧ TooDeep host stdout f := by
  have hending : host.ending outcome = host := by rw [Host.ending, ← hstart]
  rw [call_eq_error_iff host w o includePaths specifier previous hcwd hprevious hfound]
  constructor
  · rintro ⟨hother, path, hpath, hload⟩
    rw [← hending] at hload
    obtain ⟨e, rfl⟩ | ⟨stdout, stderr, hended, hdeep⟩ := loadSource_error host outcome o path hload
    · exact (hother e rfl).elim
    · exact ⟨path, stdout, stderr, hpath, hended, hdeep⟩
  · rintro ⟨path, stdout, stderr, hpath, hended, hdeep⟩
    have hload := loadSource_tooDeep host outcome o path hended hdeep
    rw [hending] at hload
    exact ⟨by cases hdeep <;> nofun, path, hpath, hload⟩

theorem forCompiler_files :
    (Importer.forCompiler ⟨.files includePaths, o⟩ t host specifier previous).value =
      (resolveThenRun t host o includePaths specifier previous).value := by
  rw [Importer.forCompiler, call_files host _ o includePaths specifier previous hcwd hprevious hfound, Traced.andThen,
    Traced.bind_value, Traced.bind_value, Traced.pure_value]
  cases (resolveThenRun t host o includePaths specifier previous).value with
  | error f => cases f <;> rfl
  | ok imported? =>
    cases imported? with
    | none => rfl
    | some r => rfl

/-- By way of URLs, a synchronous import does what resolving and loading do directly: its result, its errors as
values, the processes that it starts, and what the compiler is given. All of it holds for paths that are text. What it
raises is raised by loading, and if its processes end somehow, only because of data that is too deep. -/
theorem synchronous_import :
    let call := Importer.call ⟨.files includePaths, o⟩ t host w specifier previous
    let run := resolveThenRun t host o includePaths specifier previous
    call = (do
      let r ← run
      pure ((Outcome.ofResult r).map fun o => ⟨o, []⟩)) ∧
    (∀ f, (resolved t includePaths specifier previous).value = .error f → f = notFound specifier includePaths) ∧
    (∀ f, call.value = .error f ↔ (∀ e, f ≠ .importError e) ∧ ∃ path,
      (resolved t includePaths specifier previous).value = .ok (some path) ∧
      (loadSource host o path).value = .error f) ∧
    (∀ outcome : Command → ChildOutcome, host.start = (fun c => .ok (outcome c)) → ∀ f, call.value = .error f ↔
      ∃ path stdout stderr, (resolved t includePaths specifier previous).value = .ok (some path) ∧
        outcome (commandFor o path) = .exited 0 stdout stderr ∧ TooDeep host stdout f) ∧
    (match (resolved t includePaths specifier previous).value with
      | .ok (some path) =>
        spawnedOf run.events = [commandFor o path] ∧ (commandFor o path).arguments.getLast? = some path
      | _ => spawnedOf run.events = []) ∧
    (Importer.forCompiler ⟨.files includePaths, o⟩ t host specifier previous).value = run.value := by
  intro call run
  refine ⟨call_files host w o includePaths specifier previous hcwd hprevious hfound, fun f => resolved_error,
    fun f => call_eq_error_iff host w o includePaths specifier previous hcwd hprevious hfound,
    fun outcome hstart f =>
      call_eq_error_iff_tooDeep host w o includePaths specifier previous hcwd hprevious hfound hstart, ?_,
    forCompiler_files host o includePaths specifier previous hcwd hprevious hfound⟩
  have hspawned := spawnedOf_resolveThenRun (t := t) host o includePaths specifier previous
  rw [show run.events = _ from rfl, hspawned]
  cases (resolved t includePaths specifier previous).value with
  | error f => rfl
  | ok path? =>
    cases path? with
    | none => rfl
    | some path => exact ⟨rfl, rfl⟩

end

def crowdedName : List Char := ['a', '%', '3', 'F', '#', 'é', '?', '\t', ';']

def crowdedTree : FileTree :=
  { files := [([crowdedName, ['d', '.', 'p', 'y']], {})] }

def inCrowded (name : String) : String :=
  String.ofList ('/' :: '/' :: crowdedName ++ '/' :: name.toList)

def crowdedHost : Host :=
  usualHost.ending fun _ => .exited 0 "\x7b\"a\": 1\x7d" ""

theorem synchronous_import_crowded :
    (Path.isAbsolute crowdedTree.cwd ∧ IsText crowdedTree (crowdedTree.absolute (inCrowded "t.scss")) ∧
      ∀ path, (resolved crowdedTree [] "d.py" (inCrowded "t.scss")).value = .ok (some path) → IsText crowdedTree path) ∧
      (Importer.call ⟨.files [], {}⟩ crowdedTree crowdedHost ⟨false, false⟩ "d.py" (inCrowded "t.scss")).value =
        .ok ⟨.imported ⟨inCrowded "d.py", "$a: 1;"⟩, []⟩ := by
  have htext : ∀ path, IsText crowdedTree path := fun _ _ _ => rfl
  refine ⟨⟨rfl, htext _, fun _ _ => htext _⟩, ?_⟩
  rw [(synchronous_import crowdedHost ⟨false, false⟩ {} [] "d.py" (inCrowded "t.scss") (t := crowdedTree) rfl (htext _)
    fun _ _ => htext _).1]
  decide +kernel

/-- The file stands in a directory whose name is no text: its first character stands for a byte. -/
def garbledTree : FileTree :=
  { files := [([['~', 'l', 'i', 'b'], ['d', '.', 'p', 'y']], {})],
    byteOf := fun c => if c = '~' then some 0x80 else none }

def bracketHost : Host :=
  usualHost.ending fun _ => .exited 0 (String.ofList (List.replicate 20000 '[')) ""

/-- A style sheet whose path is no text does not find the module next to it, and a call raises what comes of an output
that is too deep. -/
theorem synchronous_import_departs :
    ((resolved garbledTree [] "d.py" "/~lib/s.scss").value = .ok (some "/~lib/d.py") ∧
      (Importer.call ⟨.files [], {}⟩ garbledTree crowdedHost ⟨false, false⟩ "d.py" "/~lib/s.scss").value =
        .ok ⟨.nothing, []⟩) ∧
    (resolved crowdedTree [] "d.py" (inCrowded "t.scss")).value = .ok (some (inCrowded "d.py")) ∧
      (Importer.call ⟨.files [], {}⟩ crowdedTree bracketHost ⟨false, false⟩ "d.py" (inCrowded "t.scss")).value =
        .error (.thrown (tooDeepToRead '[')) := by
  have htext : ∀ path, IsText crowdedTree path := fun _ _ _ => rfl
  have hfound : (resolved crowdedTree [] "d.py" (inCrowded "t.scss")).value = .ok (some (inCrowded "d.py")) := by
    decide +kernel
  refine ⟨⟨by decide +kernel, by decide +kernel⟩, hfound, ?_⟩
  apply (call_eq_error_iff_tooDeep bracketHost _ _ [] "d.py" _ rfl (htext _) (fun _ _ => htext _) rfl).mpr
  exact ⟨_, _, _, hfound, rfl, .toRead (Json.load_brackets (by decide))⟩

end SassData.Import
