import SassData.Import.Load
import SassData.Proofs.Import.Payload
import SassData.Proofs.Json.Decoded

/-!
Loading a data module through the exporting process. Plain data arrives in normal form, and each way that the process
can end is reported as the one kind of error that it stands for.
-/

namespace SassData.Import

def Host.over (host : Host) (x : Runtime) (t : FileTree) : Host :=
  { host with start := .ofTree x t }

theorem ofStatus_code (c : ExitCode) (diagnostic : Option String) :
    ImportError.ofStatus (some c.code) diagnostic = .make c.errorClass diagnostic := by
  cases c <;> rfl

theorem loadSource_value (host : Host) (o : Options) (path : String) :
    (loadSource host o path).value = (loadData host o path).value.bind host.print := rfl

section

variable (host : Host) {x : Runtime} {t : FileTree} {o : Options} {path : String}

theorem loadData_refused {e : Thrown} (hs : (commandFor o path).refusal? = some e) :
    (loadData (host.over x t) o path).value = .error (.thrown e) := by
  have hstart : (host.over x t).start (commandFor o path) = .error e := by
    simp only [Host.over, Child.ofTree, hs]
  simp only [loadData, Traced.bind_value, hstart]
  rfl

theorem loadData_of_run (hs : (commandFor o path).refusal? = none) {r : Report}
    (hr : Export.exportPath x t path = .ok r) :
    (loadData (host.over x t) o path).value =
      if r.exit = .ok then readData host.reading r.stdout
      else .error (.importError (.make r.exit.errorClass (some (r.stderr ++ Export.remarks x t path)))) := by
  have hprocess : Export.process x t [path] = ⟨r.exit.code, r.stdout, r.stderr ++ Export.remarks x t path⟩ := by
    have hrun : Export.run x t [path] = .ok r := hr
    rw [Export.process, hrun]
    rfl
  have hstart : (host.over x t).start (commandFor o path) =
      .ok (.exited r.exit.code r.stdout (r.stderr ++ Export.remarks x t path)) := by
    have hpath : (commandFor o path).path = path := rfl
    simp only [Host.over, Child.ofTree, hs, hpath, hprocess, ChildOutcome.ofEnded]
  simp only [loadData, Traced.bind_value, hstart, Traced.pure_value, interpret]
  rw [ofStatus_code]
  cases r.exit <;> rfl

end

theorem readData_render {j : Json} (hj : j.InLimits) {reading : Nat} (hd : j.depth ≤ reading) :
    readData reading (j.render .ascii) =
      match j.settled with
      | .obj members => .ok members
      | _ => .error (failWith .invalidData "Data is not an object") := by
  have hload := Json.load_render .ascii hj reading
  rw [if_pos hd] at hload
  rw [readData, hload]
  cases j.settled <;> rfl

theorem readData_deep {j : Json} (hj : j.InLimits) {reading : Nat} (hd : reading < j.depth) :
    ∃ mark, readData reading (j.render .ascii) = .error (.thrown (tooDeepToRead mark)) := by
  have hload := Json.load_render .ascii hj reading
  rw [if_neg (Nat.not_le.mpr hd)] at hload
  obtain ⟨mark, hmark⟩ := hload
  exact ⟨mark, by rw [readData, hmark]⟩

inductive Ending
  | data
  | error (k : ErrorKind)
  | raised (name : String)
deriving DecidableEq

def Reports (r : Except Failure Members) : Ending → Prop
  | .data => ∃ members, r = .ok members
  | .error k => ∃ e : ImportError, r = .error (.importError e) ∧ e.errorClass = .of k
  | .raised name => ∃ e : Thrown, r = .error (.thrown e) ∧ e.name = name

theorem reports_unique {r : Except Failure Members} {k l : Ending} (hk : Reports r k) (hl : Reports r l) : k = l := by
  cases k with
  | data =>
    obtain ⟨members, rfl⟩ := hk
    cases l with
    | data => rfl
    | error l => simp [Reports] at hl
    | raised name => simp [Reports] at hl
  | error k =>
    obtain ⟨e, rfl, hc⟩ := hk
    cases l with
    | data => simp [Reports] at hl
    | raised name => simp [Reports] at hl
    | error l =>
      obtain ⟨_, he, hd⟩ := hl
      cases he
      cases hc.symm.trans hd
      rfl
  | raised name =>
    obtain ⟨e, rfl, hc⟩ := hk
    cases l with
    | data => simp [Reports] at hl
    | error l => simp [Reports] at hl
    | raised name' =>
      obtain ⟨_, he, hd⟩ := hl
      cases he
      rw [← hc, hd]

section

variable (x : Runtime) (reading : Nat) (t : FileTree)

/-- How loading ends if the process is started, by what stands at the path. A value is written as deep as the runtime
of the process allows, and read as deep as that of the host does. -/
inductive Ends (path : String) : Ending → Prop
  | relative (ha : path.toList.head? ≠ some '/') : Ends path (.error .invalidPath)
  | missing (ha : path.toList.head? = some '/') (he : t.pathExists path = false) : Ends path (.error .fileNotFound)
  | directory (ha : path.toList.head? = some '/') (hf : t.isFile path = false) (hd : t.isDirectory path) :
      Ends path (.error .importFailed)
  | failed {m : DataModule} {e : Thrown} (ha : path.toList.head? = some '/') (hm : t.module? path = some m)
      (he : m.Fails e) : Ends path (.error .importFailed)
  | noDefault {m : DataModule} (ha : path.toList.head? = some '/') (hm : t.module? path = some m)
      (ht : m.thrown = none) (hn : m.exported = none) : Ends path (.error .noDefaultExport)
  | unwritten {m : DataModule} {v : Value} (ha : path.toList.head? = some '/') (hm : t.module? path = some m)
      (hg : m.Gives v) (hv : v.Faulty ∨ x.nesting < v.depth) : Ends path (.error .dataSerializationFailed)
  | unread {m : DataModule} {v : Value} (ha : path.toList.head? = some '/') (hm : t.module? path = some m)
      (hg : m.Gives v) (hv : ¬ v.Faulty) (hw : v.depth ≤ x.nesting) (hr : reading < v.depth) :
      Ends path (.raised "RecursionError")
  | noDictionary {m : DataModule} {v : Value} (ha : path.toList.head? = some '/') (hm : t.module? path = some m)
      (hg : m.Gives v) (hv : ¬ v.Faulty) (hw : v.depth ≤ x.nesting) (hr : v.depth ≤ reading)
      (hd : ∀ entries, v ≠ .dict entries) : Ends path (.error .invalidData)
  | data {m : DataModule} {entries : List (Value × Value)} (ha : path.toList.head? = some '/')
      (hm : t.module? path = some m) (hg : m.Gives (.dict entries)) (hv : ¬ (Value.dict entries).Faulty)
      (hw : (Value.dict entries).depth ≤ x.nesting) (hr : (Value.dict entries).depth ≤ reading) : Ends path .data

inductive LoadEnds (c : Command) : Ending → Prop
  | refused {e : Thrown} (hs : c.refusal? = some e) : LoadEnds c (.raised e.name)
  | started {k : Ending} (hs : c.refusal? = none) (hk : Ends x reading t c.path k) : LoadEnds c k

theorem ends_exists (path : String) : ∃ k, Ends x reading t path k := by
  by_cases ha : path.toList.head? = some '/'
  · cases hm : t.module? path with
    | none =>
      have hf : t.isFile path = false := by simp [FileTree.isFile, hm]
      cases hd : t.isDirectory path with
      | false => exact ⟨_, .missing ha (by simp [FileTree.pathExists, hf, hd])⟩
      | true => exact ⟨_, .directory ha hf hd⟩
    | some m =>
      obtain ⟨v, hg⟩ | ⟨e, he⟩ | ⟨ht, hn⟩ := m.ends
      · by_cases hv : v.Faulty ∨ x.nesting < v.depth
        · exact ⟨_, .unwritten ha hm hg hv⟩
        · obtain ⟨hv, hw⟩ := not_or.mp hv
          rw [Nat.not_lt] at hw
          by_cases hr : reading < v.depth
          · exact ⟨_, .unread ha hm hg hv hw hr⟩
          · rw [Nat.not_lt] at hr
            by_cases hd : ∃ entries, v = .dict entries
            · obtain ⟨entries, rfl⟩ := hd
              exact ⟨_, .data ha hm hg hv hw hr⟩
            · exact ⟨_, .noDictionary ha hm hg hv hw hr fun entries h => hd ⟨entries, h⟩⟩
      · exact ⟨_, .failed ha hm he⟩
      · exact ⟨_, .noDefault ha hm ht hn⟩
  · exact ⟨_, .relative ha⟩

theorem loadEnds_exists (c : Command) : ∃ k, LoadEnds x reading t c k := by
  cases hs : c.refusal? with
  | some e => exact ⟨_, .refused hs⟩
  | none =>
    obtain ⟨k, hk⟩ := ends_exists x reading t c.path
    exact ⟨k, .started hs hk⟩

end

section

variable (host : Host) {x : Runtime} {t : FileTree} {o : Options} {path : String}

theorem reports_failed (hs : (commandFor o path).refusal? = none) (c : ExitCode) {r : Report} {k : ErrorKind}
    (hr : Export.exportPath x t path = .ok r) (hexit : r.exit = c) (hc : c ≠ .ok) (hk : c.errorClass = .of k) :
    Reports (loadData (host.over x t) o path).value (.error k) := by
  subst hexit
  rw [loadData_of_run host hs hr, if_neg hc]
  exact ⟨_, rfl, hk⟩

theorem loadData_gives (hs : (commandFor o path).refusal? = none) {m : DataModule} {v : Value}
    (ha : path.toList.head? = some '/') (hm : t.module? path = some m) (hg : m.Gives v) :
    (∃ j, v.Stands j ∧ v.depth ≤ x.nesting ∧
      (loadData (host.over x t) o path).value = readData host.reading (j.render .ascii)) ∨
    ((v.Faulty ∨ x.nesting < v.depth) ∧
      Reports (loadData (host.over x t) o path).value (.error .dataSerializationFailed)) := by
  have hr := (Export.exportPath_module x (Path.isAbsolute_iff.mpr ha) hm).trans (Export.runModule_gives x hg path)
  have hload := loadData_of_run host hs hr
  have h := v.encodes x.nesting
  cases hj : v.toJson Value.exportRules x.nesting with
  | ok j =>
    rw [hj] at h
    rw [Export.writeOut, hj] at hload
    exact .inl ⟨j, h.1, h.2, hload⟩
  | error f =>
    rw [hj] at h
    rw [Export.writeOut, hj] at hload
    exact .inr ⟨h, _, hload, rfl⟩

theorem loadData_stands (hs : (commandFor o path).refusal? = none) {m : DataModule} {v : Value}
    (ha : path.toList.head? = some '/') (hm : t.module? path = some m) (hg : m.Gives v) (hv : ¬ v.Faulty)
    (hw : v.depth ≤ x.nesting) :
    ∃ j, v.Stands j ∧ (loadData (host.over x t) o path).value = readData host.reading (j.render .ascii) := by
  obtain ⟨j, hj, -, hload⟩ | ⟨h, -⟩ := loadData_gives host hs ha hm hg
  · exact ⟨j, hj, hload⟩
  · exact (h.elim hv (Nat.not_lt.mpr hw)).elim

theorem reports_of_ends (hs : (commandFor o path).refusal? = none)
    (hfail : ∀ m e, t.module? path = some m → m.Fails e → e.failsModule) {k : Ending}
    (hk : Ends x host.reading t path k) : Reports (loadData (host.over x t) o path).value k := by
  cases hk with
  | relative ha =>
    have hr : Path.isAbsolute path.toList = false := by
      rw [Bool.eq_false_iff]
      exact fun h => ha (Path.isAbsolute_iff.mp h)
    exact reports_failed host hs .invalidPath (Export.exportPath_relative x hr) rfl (by decide) rfl
  | missing ha he =>
    have hr := Export.exportPath_missing x (Path.isAbsolute_iff.mpr ha) he
    exact reports_failed host hs .fileNotFound hr rfl (by decide) rfl
  | directory ha hf hd =>
    have hr := Export.exportPath_directory x (Path.isAbsolute_iff.mpr ha) hf hd
    exact reports_failed host hs .importFailed hr rfl (by decide) rfl
  | failed ha hm he =>
    obtain ⟨r, hr, hleaves⟩ := Export.runModule_leaves x (fun e he => hfail _ e hm he) path
    have hrun := (Export.exportPath_module x (Path.isAbsolute_iff.mpr ha) hm).trans hr
    exact reports_failed host hs _ hrun (hleaves.exit_of_fails he) (by decide) rfl
  | noDefault ha hm ht hn =>
    obtain ⟨r, hr, hleaves⟩ := Export.runModule_leaves x (fun e he => hfail _ e hm he) path
    have hrun := (Export.exportPath_module x (Path.isAbsolute_iff.mpr ha) hm).trans hr
    exact reports_failed host hs _ hrun (hleaves.exit_of_nothing ht hn) (by decide) rfl
  | unwritten ha hm hg hv =>
    obtain ⟨j, hj, hd, -⟩ | ⟨-, hreports⟩ := loadData_gives host hs ha hm hg
    · exact (hv.elim hj.not_faulty (Nat.not_lt.mpr hd)).elim
    · exact hreports
  | unread ha hm hg hv hw hr =>
    obtain ⟨j, hj, hload⟩ := loadData_stands host hs ha hm hg hv hw
    obtain ⟨mark, hmark⟩ := readData_deep hj.inLimits (hj.depth_eq ▸ hr)
    exact ⟨_, hload.trans hmark, rfl⟩
  | noDictionary ha hm hg hv hw hr hd =>
    obtain ⟨j, hj, hload⟩ := loadData_stands host hs ha hm hg hv hw
    rw [hload, readData_render hj.inLimits (hj.depth_eq.trans_le hr)]
    have hshape : ¬ ∃ members, j.settled = .obj members := by
      rw [hj.isObject_iff]
      exact fun ⟨entries, he⟩ => hd entries he
    cases h : j.settled with
    | obj members => exact absurd ⟨members, h⟩ hshape
    | _ => exact ⟨_, rfl, rfl⟩
  | data ha hm hg hv hw hr =>
    obtain ⟨j, hj, hload⟩ := loadData_stands host hs ha hm hg hv hw
    obtain ⟨members, h⟩ := hj.isObject_iff.mpr ⟨_, rfl⟩
    rw [hload, readData_render hj.inLimits (hj.depth_eq.trans_le hr), h]
    exact ⟨members, rfl⟩

theorem reports_iff_loadEnds (hfail : ∀ m e, t.module? path = some m → m.Fails e → e.failsModule) {k : Ending} :
    Reports (loadData (host.over x t) o path).value k ↔ LoadEnds x host.reading t (commandFor o path) k := by
  have hreports : ∀ {k}, LoadEnds x host.reading t (commandFor o path) k →
      Reports (loadData (host.over x t) o path).value k := by
    intro k hk
    cases hk with
    | refused hs => exact ⟨_, loadData_refused host hs, rfl⟩
    | started hs hk => exact reports_of_ends host hs hfail hk
  refine ⟨fun hk => ?_, hreports⟩
  obtain ⟨l, hl⟩ := loadEnds_exists x host.reading t (commandFor o path)
  rwa [reports_unique hk (hreports hl)]

end

def usualRuntime : Runtime :=
  ⟨985, Thrown.headline, fun _ => "RuntimeWarning: coroutine was never awaited\n"⟩

def usualHost : Host :=
  { start := .always .timedOut, reading := 985, calls := 970, atom := fun _ => 8 }

theorem print_eq (host : Host) {members : Members} (hl : (Json.obj members).InLimits) :
    host.print members = if Json.callsOfMembers host.atom members ≤ host.calls then .ok (Scss.declarations members)
      else .error (.encoding Json.tooManyCalls) := by
  rw [Host.print, Json.entriesToJson_membersToValue fun m hm => Json.printable (Json.membersInLimits_iff.mp hl m hm)]
  split_ifs
  · rfl
  · rfl

theorem Host.print_ne_importError (host : Host) (members : Members) (e : ImportError) :
    host.print members ≠ .error (.importError e) := by
  unfold print
  cases (Value.entriesToJson (Value.displayRules host.atom) host.calls (Json.membersToValue members)).map
      Scss.declarations with
  | ok text => exact nofun
  | error fault => exact nofun

end SassData.Import
