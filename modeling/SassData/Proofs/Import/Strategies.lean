import SassData.Proofs.Import.HandOver
import SassData.Proofs.Import.ResolvedModule

/-!
An external resolver that finds what the include paths hold makes the asynchronous importer hand over what the
synchronous one returns.
-/

namespace SassData.Import

namespace Act

def IsCall : Act → Prop
  | .throws _ => False
  | .calls .. => True

def isLater : Act → Bool
  | .throws _ => false
  | .calls _ _ later => later

def arrivals (acts : List Act) : List Act :=
  acts.filter (·.isLater = false) ++ acts.filter (·.isLater = true)

def settled? : Act → Option (Except Failure Json)
  | .throws _ => none
  | .calls error result _ => settlement? error result

section

variable {acts : List Act} (hcalls : ∀ act ∈ acts, act.IsCall)

include hcalls

theorem thrown?_calls : thrown? acts = none := by
  induction acts with
  | nil => rfl
  | cons act acts ih =>
    obtain ⟨hact, hacts⟩ := List.forall_mem_cons.mp hcalls
    cases act with
    | throws e => cases hact
    | calls error result later => exact ih hacts

theorem firstCall?_calls (later : Bool) :
    firstCall? later acts = (acts.filter (·.isLater = later)).findSome? settled? := by
  induction acts with
  | nil => rfl
  | cons act acts ih =>
    obtain ⟨hact, hacts⟩ := List.forall_mem_cons.mp hcalls
    cases act with
    | throws e => cases hact
    | calls error result l =>
      rw [firstCall?, ih hacts]
      by_cases hl : l = later
      · rw [if_pos hl, List.filter_cons_of_pos (by simp [isLater, hl]), List.findSome?_cons]
        cases hsettled : settlement? error result with
        | none => simp [settled?, hsettled]
        | some s => simp [settled?, hsettled]
      · rw [if_neg hl, List.filter_cons_of_neg (by simp [isLater, hl])]

theorem outcome_calls : outcome acts = (arrivals acts).findSome? settled? := by
  rw [outcome, thrown?_calls hcalls, arrivals, List.findSome?_append]
  simp only [firstCall?_calls hcalls]
  cases (acts.filter (·.isLater = false)).findSome? settled? <;> rfl

theorem outcome_arrivals {first : Act} {rest : List Act} (hfirst : arrivals acts = first :: rest)
    {s : Except Failure Json} (hs : first.settled? = some s) : outcome acts = some s := by
  rw [outcome_calls hcalls, hfirst, List.findSome?_cons, hs]

end

/-- A call tells what was found: the path, nothing, or the error. Any value that counts as false is no error. -/
inductive Tells : Except Failure (Option String) → Act → Prop
  | found {error : Json} (herror : error.isFalsy) (path : String) (later : Bool) :
      Tells (.ok (some path)) (.calls (.value error) (.str path) later)
  | nothing {error result : Json} (herror : error.isFalsy) (hresult : result.isFalsy) (later : Bool) :
      Tells (.ok none) (.calls (.value error) result later)
  | failed (e : Thrown) (result : Json) (later : Bool) :
      Tells (.error (.ofThrown e)) (.calls (.exception e) result later)

end Act

def resultOf (path? : Option String) : Json :=
  (path?.map Json.str).getD .null

theorem bind_resultOf (t : FileTree) (found : Except Failure (Option String)) :
    (found.map resultOf).bind (urlOfResult t) = canonicalOf t found := by
  cases found with
  | error f => rfl
  | ok path? => rfl

inductive IsFound : Except Failure (Option String) → Prop
  | failed (e : ImportError) : IsFound (.error (.importError e))
  | nothing : IsFound (.ok none)
  | path {path : String} (hpath : Path.isAbsolute path.toList) : IsFound (.ok (some path))

theorem Act.settled?_tells {found : Except Failure (Option String)} (hfound : IsFound found) {act : Act}
    (h : act.Tells found) : act.settled? = some (found.map resultOf) := by
  cases h with
  | found herror path later =>
    have hfalsy : (Json.str path).isFalsy = false := by
      cases hfound with
      | path hpath =>
        apply decide_eq_false
        rintro rfl
        cases hpath
    rw [settled?, settlement?, if_pos herror, hfalsy]
    rfl
  | nothing herror hresult later =>
    rw [settled?, settlement?, if_pos herror, if_pos hresult]
    rfl
  | failed e result later =>
    have hends : e.endsIteration = false := by
      apply decide_eq_false
      intro hends
      rw [Failure.ofThrown, hends] at hfound
      cases hfound
    rw [settled?, settlement?_exception hends]
    rfl

theorem isFound_resolveFiles {t : FileTree} (hcwd : Path.isAbsolute t.cwd) (includePaths : List String)
    (specifier previous : String) : IsFound (resolveFiles t includePaths specifier previous).value := by
  cases hr : (resolveFiles t includePaths specifier previous).value with
  | error f =>
    rw [resolveFiles_error hr]
    exact .failed _
  | ok path? =>
    cases path? with
    | none => exact .nothing
    | some path =>
      obtain ⟨p, rfl⟩ := resolveFiles_absolute hr
      exact .path (isAbsolute_absolute hcwd p)

inductive IsCanonical : Except Failure (Option String) → Prop
  | failed (e : ImportError) : IsCanonical (.error (.importError e))
  | given (url? : Option String) : IsCanonical (.ok url?)

theorem urlOfName_isAbsolute (byteOf : Char → Option UInt8) {path : String} (hpath : Path.isAbsolute path.toList) :
    ∃ url, urlOfName byteOf path = .ok url := by
  rw [urlOfName, Path.Url.ofName, if_pos hpath]
  exact ⟨_, rfl⟩

theorem IsFound.isCanonical {found : Except Failure (Option String)} (h : IsFound found) (t : FileTree) :
    IsCanonical (canonicalOf t found) := by
  cases h with
  | failed e => exact .failed e
  | nothing => exact .given none
  | path hpath =>
    obtain ⟨url, hurl⟩ := urlOfName_isAbsolute t.byteOf hpath
    rw [canonicalOf_path hurl]
    exact .given (some url)

def Waiting.handed (w : Waiting) : Except Failure Call → Except Failure Call
  | .ok call => .ok ⟨.nothing, [call.returned]⟩
  | .error f => (w.stopped f).map fun os => ⟨.nothing, os⟩

theorem loadCanonical_congr {i j : Importer} (hcommand : commandFor i.options = commandFor j.options) (host : Host)
    (url? : Option String) : i.loadCanonical host url? = j.loadCanonical host url? := by
  have hsource : loadSource host i.options = loadSource host j.options := by
    funext path
    simp only [loadSource, loadData, hcommand]
  have hload : i.load host = j.load host := by
    funext url
    simp only [Importer.load, hsource]
  cases url? with
  | none => rfl
  | some url => simp only [Importer.loadCanonical, hload]

section

variable {i j : Importer} (hcommand : commandFor i.options = commandFor j.options) (host : Host) {w : Waiting}
  {canonical : Except Failure (Option String)} (hcanonical : IsCanonical canonical)

include hcommand hcanonical

theorem complete_handed (hw : w.handOver) :
    (j.complete host w (some canonical)).value.map (fun os => ⟨.nothing, os⟩) =
      w.handed (i.goOn host canonical).value := by
  cases hcanonical with
  | failed e =>
    rw [complete_failed host hw j rfl]
    rfl
  | given url? =>
    have hgoOn : (i.goOn host (.ok url?)).value = (j.loadCanonical host url?).value.map fun o => ⟨o, []⟩ := by
      rw [Importer.goOn, loadCanonical_congr hcommand]
      rfl
    rw [hgoOn]
    cases houtcome : (j.loadCanonical host url?).value with
    | ok r =>
      rw [complete_outcome host hw j houtcome]
      rfl
    | error f =>
      rw [complete_loaded host j houtcome]
      rfl

theorem events_complete :
    (j.complete host w (some canonical)).events = (i.goOn host canonical).events := by
  cases hcanonical with
  | failed e => rfl
  | given url? =>
    rw [Importer.goOn, Importer.complete, Traced.bind_events, Traced.bind_events, Traced.pure_events,
      ← loadCanonical_congr hcommand]
    cases (i.loadCanonical host url?).value with
    | ok r => rfl
    | error f => rfl

end

theorem askedOf_append (es fs : List Event) : askedOf (es ++ fs) = askedOf es ++ askedOf fs :=
  List.filterMap_append

theorem askedOf_debug (messages : List String) : askedOf (messages.map .debug) = [] := by
  induction messages with
  | nil => rfl
  | cons message messages ih => exact ih

theorem askedOf_loadSource (host : Host) (o : Options) (path : String) :
    askedOf (loadSource host o path).events = [] := by
  obtain ⟨messages, hmessages⟩ := loadSource_events host o path
  rw [hmessages]
  exact askedOf_debug messages

theorem askedOf_loadCanonical (i : Importer) (host : Host) (url? : Option String) :
    askedOf (i.loadCanonical host url?).events = [] := by
  cases url? with
  | none => rfl
  | some url =>
    cases hurl : pathOfUrl url with
    | error e =>
      rw [Importer.loadCanonical, Importer.load, hurl]
      rfl
    | ok path =>
      rw [Importer.loadCanonical, load_url hurl, Traced.bind_events, Traced.bind_events, Traced.pure_events,
        List.append_nil, askedOf_append, askedOf_loadSource, List.nil_append]
      split <;> rfl

theorem askedOf_complete (i : Importer) (host : Host) (w : Waiting) (c : Completion (Option String)) :
    askedOf (i.complete host w c).events = [] := by
  rcases c with _ | f | url?
  · rfl
  · rw [Importer.complete]
    split_ifs <;> rfl
  · rw [Importer.complete, Traced.bind_events, askedOf_append, askedOf_loadCanonical, List.nil_append]
    split <;> rfl

section

variable {t : FileTree} {specifier previous : String}

theorem resolveExternal_beside {path : String} (h : beside? t specifier previous = some path)
    (external : ExternalResolver) : resolveExternal t external specifier previous = pure (some (.ok (.str path))) := by
  unfold resolveExternal
  rw [h]

theorem resolveExternal_asked (h : beside? t specifier previous = none) (external : ExternalResolver) :
    ∃ message, resolveExternal t external specifier previous =
      ⟨Act.outcome (external previous specifier), [.debug message, .asked previous specifier]⟩ := by
  unfold resolveExternal
  rw [h]
  exact ⟨_, rfl⟩

theorem resolveFiles_beside {path : String} (h : beside? t specifier previous = some path)
    (includePaths : List String) : resolveFiles t includePaths specifier previous = pure (.ok (some path)) := by
  unfold resolveFiles
  rw [h]

theorem resolveFiles_included (h : beside? t specifier previous = none) (includePaths : List String) :
    (resolveFiles t includePaths specifier previous).value = included t specifier includePaths := by
  unfold resolveFiles
  rw [h]
  rfl

end

theorem spawnedOf_resolveExternal (t : FileTree) (external : ExternalResolver) (specifier previous : String) :
    spawnedOf (resolveExternal t external specifier previous).events = [] := by
  unfold resolveExternal
  cases beside? t specifier previous with
  | some path => rfl
  | none => rfl

section

variable {t : FileTree} (hcwd : Path.isAbsolute t.cwd) (host : Host) (w : Waiting) (o : Options)
  (external : ExternalResolver) {specifier previous : String} (hprevious : IsText t (t.absolute previous))
  (hs : isDataModule specifier)

include hcwd hprevious hs

theorem askedOf_call :
    askedOf (Importer.call ⟨.external external, o⟩ t host w specifier previous).events =
      askedOf (resolveExternal t external specifier (t.absolute previous)).events := by
  rw [call_external hcwd host w o external hprevious hs, Traced.bind_events, Traced.bind_events, Traced.pure_events,
    List.append_nil, askedOf_append, askedOf_complete, List.append_nil]

variable (w' : Waiting) (o' : Options) (hcommand : commandFor o' = commandFor o) (includePaths : List String)
  (hfound : (resolveExternal t external specifier (t.absolute previous)).value =
    some ((resolveFiles t includePaths specifier (t.absolute previous)).value.map resultOf))

include hcommand hfound

theorem call_handed (hw : w.handOver) :
    (Importer.call ⟨.external external, o⟩ t host w specifier previous).value =
      w.handed (Importer.call ⟨.files includePaths, o'⟩ t host w' specifier previous).value := by
  have hcanonical := (isFound_resolveFiles hcwd includePaths specifier (t.absolute previous)).isCanonical t
  rw [call_goOn host w' o' includePaths specifier previous hcwd hprevious,
    call_external_value hcwd host w o external hprevious hs, Traced.bind_value, resolved, if_pos hs, hfound,
    Option.map_some, bind_resultOf]
  exact complete_handed (i := ⟨.files includePaths, o'⟩) hcommand host hcanonical hw

theorem spawnedOf_call :
    spawnedOf (Importer.call ⟨.external external, o⟩ t host w specifier previous).events =
      spawnedOf (Importer.call ⟨.files includePaths, o'⟩ t host w' specifier previous).events := by
  have hcanonical := (isFound_resolveFiles hcwd includePaths specifier (t.absolute previous)).isCanonical t
  have hevents := events_complete (i := ⟨.files includePaths, o'⟩) (j := ⟨.external external, o⟩) hcommand host
    (w := w) hcanonical
  rw [call_goOn host w' o' includePaths specifier previous hcwd hprevious,
    call_external hcwd host w o external hprevious hs, Traced.bind_events, Traced.bind_events, Traced.bind_events,
    Traced.pure_events, List.append_nil, resolved, if_pos hs, hfound, Option.map_some, bind_resultOf, hevents,
    spawnedOf_append, spawnedOf_append, spawnedOf_resolveExternal, spawnedOf_resolveFiles]

end

/-- The asynchronous importer agrees with the synchronous one, for a style sheet whose path is text. A module next to it
is imported without asking anyone. Any other is asked for once, and if the first call tells what the include paths hold,
what the synchronous importer returns is handed over, whatever calls follow. It returns something unless what the
process of a found path writes is too deep. -/
theorem strategies_agree {t : FileTree} (hcwd : Path.isAbsolute t.cwd) {w : Waiting} (hw : w.handOver) (w' : Waiting)
    (host : Host) (o : Options) (others : List String) (external : ExternalResolver) {specifier : String}
    (hs : isDataModule specifier) (previous : String) (hprevious : IsText t (t.absolute previous)) :
    let files := Importer.call (.ofOptions { o with external := none }) t host w' specifier previous
    let callback :=
      Importer.call (.ofOptions { o with external := some external, includePaths := others }) t host w specifier previous
    let agrees := callback.value = w.handed files.value ∧ spawnedOf callback.events = spawnedOf files.events
    (∀ path, beside? t specifier (t.absolute previous) = some path → agrees ∧ askedOf callback.events = []) ∧
    (beside? t specifier (t.absolute previous) = none →
      askedOf callback.events = [(t.absolute previous, specifier)] ∧
      ((∀ act ∈ external (t.absolute previous) specifier, act.IsCall) →
        ∀ first rest, Act.arrivals (external (t.absolute previous) specifier) = first :: rest →
          first.Tells (included t specifier o.includePaths) → agrees)) ∧
    ∀ outcome : Command → ChildOutcome, host.start = (fun c => .ok (outcome c)) →
      (∀ path, (resolved t o.includePaths specifier previous).value = .ok (some path) → IsText t path ∧
        ∀ stdout stderr f, outcome (commandFor o path) = .exited 0 stdout stderr → ¬ TooDeep host stdout f) →
      ∃ r, files.value = .ok r := by
  -- Either importer is spelled out first, so that what both calls do is never compared.
  have hfiles : Importer.ofOptions { o with external := none } =
      ⟨.files o.includePaths, { o with external := none }⟩ := rfl
  have hcallback : Importer.ofOptions { o with external := some external, includePaths := others } =
      ⟨.external external, { o with external := some external, includePaths := others }⟩ := rfl
  rw [hfiles, hcallback]
  intro files callback agrees
  have hagrees : (resolveExternal t external specifier (t.absolute previous)).value =
      some ((resolveFiles t o.includePaths specifier (t.absolute previous)).value.map resultOf) → agrees := by
    intro hfound
    have hhanded := call_handed hcwd host w { o with external := some external, includePaths := others } external
      hprevious hs w' { o with external := none } rfl o.includePaths hfound hw
    have hspawned := spawnedOf_call hcwd host w { o with external := some external, includePaths := others } external
      hprevious hs w' { o with external := none } rfl o.includePaths hfound
    exact ⟨hhanded, hspawned⟩
  have hasked : askedOf callback.events = askedOf (resolveExternal t external specifier (t.absolute previous)).events :=
    askedOf_call hcwd host w _ external hprevious hs
  refine ⟨?_, ?_, ?_⟩
  · intro path hbeside
    rw [hasked]
    rw [resolveExternal_beside hbeside, resolveFiles_beside hbeside] at hagrees
    rw [resolveExternal_beside hbeside]
    exact ⟨hagrees rfl, rfl⟩
  · intro hbeside
    obtain ⟨message, hexternal⟩ := resolveExternal_asked hbeside external
    rw [hasked]
    rw [hexternal, resolveFiles_included hbeside] at hagrees
    rw [hexternal]
    refine ⟨rfl, ?_⟩
    intro hcalls first rest hfirst htells
    apply hagrees
    have hfound := isFound_resolveFiles hcwd o.includePaths specifier (t.absolute previous)
    rw [resolveFiles_included hbeside] at hfound
    apply Act.outcome_arrivals hcalls hfirst
    exact Act.settled?_tells hfound htells
  · intro outcome hstart hdeep
    cases hvalue : files.value with
    | ok r => exact ⟨r, rfl⟩
    | error f =>
      obtain ⟨path, stdout, stderr, hpath, hended, htooDeep⟩ := (call_eq_error_iff_tooDeep host w'
        { o with external := none } o.includePaths specifier previous hcwd hprevious (fun path hpath => (hdeep path hpath).1)
        hstart).mp hvalue
      exact absurd htooDeep ((hdeep path hpath).2 stdout stderr f hended)

def sharedTree : FileTree :=
  { files := [([['p'], ['l', 'i', 'b'], ['d', '.', 'p', 'y']], {})], cwd := ['/', 'p'] }

def overtakingResolver : ExternalResolver := fun _ _ =>
  [.calls (.value (.str "too late")) .null true, .calls (.value (.int 0)) (.str "/p/lib/d.py") false]

def sharedHost : Host :=
  usualHost.ending fun _ => .exited 0 "\x7b\"a\": 1\x7d" ""

def sharedOptions : Options := { includePaths := ["other", "lib"] }

def overtakingCall : Traced (Except Failure Call) :=
  Importer.call (.ofOptions { sharedOptions with external := some overtakingResolver, includePaths := [] }) sharedTree
    sharedHost ⟨true, true⟩ "d.py" "styles/s.scss"

theorem strategies_agree_overtaking :
    (Path.isAbsolute sharedTree.cwd ∧ isDataModule "d.py" ∧ IsText sharedTree (sharedTree.absolute "styles/s.scss") ∧
      beside? sharedTree "d.py" "/p/styles/s.scss" = none) ∧
      askedOf overtakingCall.events = [("/p/styles/s.scss", "d.py")] ∧
      overtakingCall.value = .ok ⟨.nothing, [.imported ⟨"/p/lib/d.py", "$a: 1;"⟩]⟩ := by
  have hprevious : sharedTree.absolute "styles/s.scss" = "/p/styles/s.scss" := by decide +kernel
  have htext : IsText sharedTree (sharedTree.absolute "styles/s.scss") := fun _ _ => rfl
  have hbeside : beside? sharedTree "d.py" "/p/styles/s.scss" = none := by decide +kernel
  have hincluded : included sharedTree "d.py" sharedOptions.includePaths = .ok (some "/p/lib/d.py") := by decide +kernel
  have hfiles : (Importer.call (.ofOptions { sharedOptions with external := none }) sharedTree sharedHost ⟨false, false⟩
      "d.py" "styles/s.scss").value = .ok ⟨.imported ⟨"/p/lib/d.py", "$a: 1;"⟩, []⟩ := by decide +kernel
  have hagree := (strategies_agree (t := sharedTree) (w := ⟨true, true⟩) rfl rfl ⟨false, false⟩ sharedHost sharedOptions []
    overtakingResolver (show isDataModule "d.py" from rfl) "styles/s.scss" htext).2.1
  rw [hprevious] at hagree
  obtain ⟨hasked, hcalls⟩ := hagree hbeside
  refine ⟨⟨rfl, rfl, htext, hbeside⟩, hasked, ?_⟩
  have hall : ∀ act ∈ overtakingResolver "/p/styles/s.scss" "d.py", act.IsCall := by
    rintro act (⟨⟩ | ⟨_, ⟨⟩ | ⟨_, ⟨⟩⟩⟩)
    · trivial
    · trivial
  obtain ⟨hhanded, -⟩ := hcalls hall _ _ rfl (by
    rw [hincluded]
    exact .found rfl _ _)
  rw [hfiles] at hhanded
  exact hhanded

def silentResolver : ExternalResolver := fun _ _ =>
  [.calls (.value .null) .null false]

/-- Next to a style sheet whose path is no text a module is not found, so that it is asked for. -/
theorem strategies_agree_garbled :
    beside? garbledTree "d.py" (garbledTree.absolute "/~lib/s.scss") = some "/~lib/d.py" ∧
      askedOf (Importer.call ⟨.external silentResolver, {}⟩ garbledTree usualHost ⟨false, true⟩ "d.py"
        "/~lib/s.scss").events = [("/�lib/s.scss", "d.py")] := by
  decide +kernel

end SassData.Import
