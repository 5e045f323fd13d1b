import SassData.Proofs.Import.ResolveThenRun

namespace SassData

theorem FileTree.follow_cwd (t : FileTree) (cwd : List Char) (place cs : List (List Char)) :
    ({ t with cwd }).follow place cs = t.follow place cs := by
  induction cs generalizing place with
  | nil => rfl
  | cons c cs ih =>
    have hhas : ({ t with cwd }).hasDirectory place = t.hasDirectory place := rfl
    simp only [follow, hhas, ih]

theorem FileTree.module?_cwd {path : String} (hpath : Path.isAbsolute path.toList) (t : FileTree) (cwd : List Char) :
    ({ t with cwd }).module? path = t.module? path := by
  have hjoin : ∀ directory, Path.join directory path.toList = path.toList := fun _ => if_pos hpath
  simp only [module?, place?, place, Path.absolute, hjoin, follow_cwd]

theorem FileTree.failsModule_of_files {t : FileTree} (hfail : ∀ f ∈ t.files, ∀ e, f.2.Fails e → e.failsModule)
    {path : String} : ∀ m e, t.module? path = some m → m.Fails e → e.failsModule := by
  intro m e hm he
  unfold module? at hm
  split_ifs at hm
  obtain ⟨place, -, hm⟩ := Option.bind_eq_some_iff.mp hm
  obtain ⟨before, after, hfiles, -⟩ := List.lookup_eq_some_iff.mp hm
  refine hfail (place, m) ?_ e he
  rw [hfiles]
  apply List.mem_append_right
  exact List.mem_cons_self

namespace Import

structure Names (t : FileTree) (path : String) (m : DataModule) : Prop where
  absolute : Path.isAbsolute path.toList
  extension : isDataModule path
  anywhere : ∀ cwd, ({ t with cwd }).module? path = some m

theorem names_resolved {t : FileTree} (hcwd : Path.isAbsolute t.cwd) {includePaths : List String}
    {specifier previous path : String}
    (h : (resolveFiles t includePaths specifier previous).value = .ok (some path)) : ∃ m, Names t path m := by
  obtain ⟨p, rfl⟩ := resolveFiles_absolute h
  obtain ⟨hextension, hfile⟩ := Bool.and_eq_true_iff.mp (FileTree.isModule_iff.mpr (resolveFiles_module h))
  have habsolute := isAbsolute_absolute hcwd p
  obtain ⟨m, hm⟩ := Option.isSome_iff_exists.mp hfile
  refine ⟨m, habsolute, hextension, ?_⟩
  intro cwd
  rw [FileTree.module?_cwd habsolute, hm]

theorem canonicalize_url {t : FileTree} {o : Options} {includePaths : List String} {specifier url : String}
    {containing : Option String}
    (h : (Importer.canonicalize ⟨.files includePaths, o⟩ t specifier containing).value = .now (.ok (some url))) :
    ∃ location previous path, containing = some location ∧ pathOfUrl location = .ok previous ∧
      (resolveFiles t includePaths specifier previous).value = .ok (some path) ∧
      urlOfName t.byteOf path = .ok url := by
  unfold Importer.canonicalize at h
  split_ifs at h
  · cases h
  · cases containing with
    | none => cases h
    | some location =>
      cases hlocation : pathOfUrl location with
      | error e =>
        simp only [hlocation] at h
        cases h
      | ok previous =>
        simp only [hlocation] at h
        have hanswer : Answer.now (canonicalOf t (resolveFiles t includePaths specifier previous).value) =
            .now (.ok (some url)) := by
          rw [← h]
          cases hfound : (resolveFiles t includePaths specifier previous).value with
          | error f => simp only [Strategy.resolve, Traced.bind_value, hfound]; rfl
          | ok path? => simp only [Strategy.resolve, Traced.bind_value, hfound]; rfl
        obtain ⟨path, hfound, hurl⟩ := canonicalOf_eq_some (Answer.now.inj hanswer)
        exact ⟨location, previous, path, rfl, hlocation, hfound, hurl⟩

def moduleFaults : List ErrorKind :=
  [.importFailed, .noDefaultExport, .dataSerializationFailed, .invalidData]

section

variable {x : Runtime} {t : FileTree} {path url : String} {m : DataModule} (hm : Names t path m) (cwd : List Char)

include hm

theorem Names.mem_moduleFaults {reading : Nat} {k : ErrorKind} (h : Ends x reading { t with cwd } path (.error k)) :
    k ∈ moduleFaults := by
  have hthere := hm.anywhere cwd
  have hfile : ({ t with cwd } : FileTree).isFile path := by
    rw [FileTree.isFile, hthere]
    rfl
  cases h with
  | relative ha => exact absurd (Path.isAbsolute_iff.mp hm.absolute) ha
  | missing ha he =>
    rw [FileTree.pathExists, hfile] at he
    cases he
  | directory ha hf hd =>
    rw [hfile] at hf
    cases hf
  | _ => decide

variable (hfail : ∀ f ∈ t.files, ∀ e, f.2.Fails e → e.failsModule) (host : Host) (o : Options)

include hfail

theorem Names.fault_of_loadData {k : ErrorKind}
    (hk : FailsWith (loadData (host.over x { t with cwd }) o path).value k) : k ∈ moduleFaults := by
  have hreports : Reports (loadData (host.over x { t with cwd }) o path).value (.error k) := hk
  rw [reports_iff_loadEnds host (FileTree.failsModule_of_files (t := { t with cwd }) hfail)] at hreports
  cases hreports with
  | started hs hk => exact hm.mem_moduleFaults cwd hk

theorem Names.run_leaves : ∃ report, Export.run x { t with cwd } [path] = .ok report ∧ Export.Leaves x path m report := by
  have hthere := hm.anywhere cwd
  have hfails : ∀ e, m.Fails e → e.failsModule := fun e =>
    FileTree.failsModule_of_files (t := { t with cwd }) hfail m e hthere
  obtain ⟨r, hr, hleaves⟩ := Export.runModule_leaves x hfails path
  exact ⟨r, (Export.exportPath_module x hm.absolute hthere).trans hr, hleaves⟩

end

theorem failsWith_map_iff {α β : Type} {f : α → β} {r : Except Failure α} {k : ErrorKind} :
    FailsWith (r.map f) k ↔ FailsWith r k := by
  cases r with
  | error failure => simp [FailsWith, Except.map]
  | ok a => simp [FailsWith, Except.map]

theorem failsWith_print {host : Host} {members : Members} {k : ErrorKind} : ¬ FailsWith (host.print members) k := by
  rintro ⟨e, he, -⟩
  exact host.print_ne_importError members e he

theorem failsWith_loadSource {host : Host} {o : Options} {path : String} {k : ErrorKind} :
    FailsWith (loadSource host o path).value k ↔ FailsWith (loadData host o path).value k := by
  rw [loadSource_value]
  cases (loadData host o path).value with
  | error f => simp [FailsWith, Except.bind]
  | ok members =>
    apply iff_of_false failsWith_print
    rintro ⟨e, ⟨⟩, -⟩

theorem load_value {i : Importer} {host : Host} {url path : String} (hurl : pathOfUrl url = .ok path) :
    (i.load host url).value = (loadSource host i.options path).value.map fun contents => ⟨contents, scss⟩ := by
  rw [load_url hurl, Traced.bind_value, Traced.pure_value]

/-- Where a canonical URL is given for a specifier, and the path that was found is text, loading it runs the very module
that was resolved, in whatever directory the exporting process works, and what that process leaves behind is what the
module says. If loading fails with an error of an import, only that module can be at fault. -/
theorem resolved_module {t : FileTree} (hcwd : Path.isAbsolute t.cwd)
    (hfail : ∀ f ∈ t.files, ∀ e, f.2.Fails e → e.failsModule) {o : Options} {includePaths : List String}
    {specifier url : String} {containing : Option String}
    (h : (Importer.canonicalize ⟨.files includePaths, o⟩ t specifier containing).value = .now (.ok (some url)))
    (htext : ∀ location previous path, containing = some location → pathOfUrl location = .ok previous →
      (resolveFiles t includePaths specifier previous).value = .ok (some path) → IsText t path) :
    ∃ location previous path m, containing = some location ∧ pathOfUrl location = .ok previous ∧
      (resolveFiles t includePaths specifier previous).value = .ok (some path) ∧ pathOfUrl url = .ok path ∧
      Names t path m ∧
      ∀ (cwd : List Char) (x : Runtime) (host : Host), let there : FileTree := { t with cwd }
        let load := Importer.load ⟨.files includePaths, o⟩ (host.over x there) url
        spawnedOf load.events = [commandFor o path] ∧
        (∃ report, Export.run x there [path] = .ok report ∧ Export.Leaves x path m report) ∧
        (∀ k, FailsWith load.value k → k ∈ moduleFaults) ∧
        ∀ k ∈ [ErrorKind.invalidPath, .fileNotFound, .dataParsingFailed, .unknown], ¬ FailsWith load.value k := by
  obtain ⟨location, previous, path, hlocation, hprevious, hfound, hurl⟩ := canonicalize_url h
  obtain ⟨m, hm⟩ := names_resolved hcwd hfound
  have hspelled := spelled_resolved (.found hcwd hfound)
  have hback : pathOfUrl url = .ok path := by
    have hpath : IsText t (spelled path) := hspelled.symm ▸ htext location previous path hlocation hprevious hfound
    rw [urlOfName_text hm.absolute hpath] at hurl
    rw [pathOfUrl_urlOfPath hurl, hspelled]
  refine ⟨location, previous, path, m, hlocation, hprevious, hfound, hback, hm, ?_⟩
  intro cwd x host there load
  have hfault : ∀ k, FailsWith load.value k → k ∈ moduleFaults := by
    intro k hk
    rw [show load.value = _ from load_value hback, failsWith_map_iff, failsWith_loadSource] at hk
    exact hm.fault_of_loadData cwd hfail host o hk
  refine ⟨?_, hm.run_leaves cwd hfail, hfault, ?_⟩
  · have hload : load = _ := load_url hback
    rw [hload, Traced.bind_events, Traced.pure_events, List.append_nil, spawnedOf_loadSource]
  · intro k hk hfails
    have hother : ∀ k ∈ [ErrorKind.invalidPath, .fileNotFound, .dataParsingFailed, .unknown], k ∉ moduleFaults := by
      decide
    exact hother k hk (hfault k hfails)

def relocatedModule : DataModule :=
  ⟨[.whereabouts], some { name := "SystemExit", origin := .leaving, message := some "3" }, none⟩

def relocatedTree : FileTree :=
  { files := [([['l', 'i', 'b', ' ', 'é'], ['d', '.', 'p', 'y']], relocatedModule)], cwd := ['/', '/', 'w'],
    directories := [[['w']], [['s']]] }

def relocatedUrl : String := "file:////lib%20%C3%A9/d.py"

theorem resolved_module_relocated :
    (Path.isAbsolute relocatedTree.cwd ∧ (∀ f ∈ relocatedTree.files, ∀ e, f.2.Fails e → e.failsModule) ∧
      ∀ path, IsText relocatedTree path) ∧
    (Importer.canonicalize ⟨.files ["", "..//../lib é/./x"], {}⟩ relocatedTree "../d.py" (some "file:///s/a.scss")).value =
      .now (.ok (some relocatedUrl)) ∧
    ∃ m, Names relocatedTree "//lib é/d.py" m := by
  have hfail : ∀ f ∈ relocatedTree.files, ∀ e, f.2.Fails e → e.failsModule := by
    rintro f hf e he
    cases List.mem_singleton.mp hf
    cases he
    rfl
  have htext : ∀ path, IsText relocatedTree path := fun _ _ _ => rfl
  have hurl : (Importer.canonicalize ⟨.files ["", "..//../lib é/./x"], {}⟩ relocatedTree "../d.py"
      (some "file:///s/a.scss")).value = .now (.ok (some relocatedUrl)) := by
    have hcontaining : pathOfUrl "file:///s/a.scss" = .ok (relocatedTree.absolute "/s/a.scss") := by decide +kernel
    rw [canonicalize_files _ _ _ _ hcontaining]
    apply congrArg Answer.now
    decide +kernel
  obtain ⟨location, previous, path, m, -, -, -, hback, hm, -⟩ :=
    resolved_module rfl hfail hurl fun _ _ path _ _ _ => htext path
  have hpath : pathOfUrl relocatedUrl = .ok "//lib é/d.py" := by decide +kernel
  rw [hback] at hpath
  cases hpath
  exact ⟨⟨rfl, hfail, htext⟩, hurl, m, hm⟩

/-- The URL of a path that is no text does not lead back to it, so that a module that was found is not loaded. -/
theorem resolved_module_garbled :
    (Importer.canonicalize ⟨.files ["/~lib"], {}⟩ garbledTree "d.py" (some "file:///a.scss")).value =
        .now (.ok (some "file:///%80lib/d.py")) ∧
      (resolveFiles garbledTree ["/~lib"] "d.py" "/a.scss").value = .ok (some "/~lib/d.py") ∧
      pathOfUrl "file:///%80lib/d.py" = .ok "/�lib/d.py" ∧
      FailsWith (Importer.load ⟨.files ["/~lib"], {}⟩ (usualHost.over usualRuntime garbledTree)
        "file:///%80lib/d.py").value .fileNotFound := by
  have hcontaining : pathOfUrl "file:///a.scss" = .ok (garbledTree.absolute "/a.scss") := by decide +kernel
  have hfound : (resolveFiles garbledTree ["/~lib"] "d.py" "/a.scss").value = .ok (some "/~lib/d.py") := by
    decide +kernel
  have hback : pathOfUrl "file:///%80lib/d.py" = .ok "/�lib/d.py" := by decide +kernel
  refine ⟨?_, hfound, hback, ?_⟩
  · rw [canonicalize_files _ _ _ _ hcontaining]
    apply congrArg Answer.now
    decide +kernel
  · rw [load_value hback, failsWith_map_iff, failsWith_loadSource]
    have hmissing : garbledTree.module? "/�lib/d.py" = none ∧ garbledTree.pathExists "/�lib/d.py" = false := by
      decide +kernel
    have hfail : ∀ m e, garbledTree.module? "/�lib/d.py" = some m → m.Fails e → e.failsModule := by
      intro m e hm
      rw [hmissing.1] at hm
      cases hm
    have hstarts : (commandFor {} "/�lib/d.py").refusal? = none := by decide +kernel
    have habsolute : "/�lib/d.py".toList.head? = some '/' := by decide +kernel
    exact reports_of_ends usualHost hstarts hfail (.missing habsolute hmissing.2)

end Import

end SassData
