import SassData.DataModule.Export
import SassData.Proofs.DataModule.Encoding
import SassData.Proofs.Path.Normal

namespace SassData

/-- The module runs, and the value of `default`, waited for if it is a coroutine, is the given one. -/
inductive DataModule.Gives : DataModule → Value → Prop
  | directly (prints : List Print) {v : Value} (hv : ∀ ps e w, v ≠ .coroutine ps e w) :
      Gives ⟨prints, none, some v⟩ v
  | awaited (prints ps : List Print) (v : Value) : Gives ⟨prints, none, some (.coroutine ps none v)⟩ v

inductive DataModule.Fails : DataModule → Thrown → Prop
  | running (prints : List Print) (e : Thrown) (exported : Option Value) : Fails ⟨prints, some e, exported⟩ e
  | awaiting (prints ps : List Print) (e : Thrown) (v : Value) :
      Fails ⟨prints, none, some (.coroutine ps (some e) v)⟩ e

theorem DataModule.ends (m : DataModule) :
    (∃ v, m.Gives v) ∨ (∃ e, m.Fails e) ∨ (m.thrown = none ∧ m.exported = none) := by
  obtain ⟨prints, thrown, exported⟩ := m
  cases thrown with
  | some e => exact .inr (.inl ⟨e, .running prints e exported⟩)
  | none =>
    cases exported with
    | none => exact .inr (.inr ⟨rfl, rfl⟩)
    | some v =>
      by_cases hc : ∃ ps e w, v = .coroutine ps e w
      · obtain ⟨ps, e, w, rfl⟩ := hc
        cases e with
        | none => exact .inl ⟨w, .awaited prints ps w⟩
        | some e => exact .inr (.inl ⟨e, .awaiting prints ps e w⟩)
      · exact .inl ⟨v, .directly prints fun ps e w h => hc ⟨ps, e, w, h⟩⟩

theorem DataModule.Gives.not_fails {m : DataModule} {v : Value} {e : Thrown} (hg : m.Gives v) : ¬ m.Fails e := by
  intro he
  cases hg with
  | awaited prints ps v => cases he
  | directly prints hv =>
    cases he with
    | awaiting _ ps _ w => exact hv _ _ _ rfl

theorem Thrown.failsModule_leavingCoroutine {e : Thrown} (he : e.failsModule) : e.leavingCoroutine.failsModule := by
  unfold leavingCoroutine
  split_ifs
  · decide
  · exact he

namespace Export

variable (x : Runtime)

inductive Leaves (path : String) : DataModule → Report → Prop
  | data {m : DataModule} {v : Value} {j : Json} (hg : m.Gives v) (hj : v.Stands j) (hd : v.depth ≤ x.nesting) :
      Leaves path m ⟨.ok, j.render .ascii, Print.all path m.performed⟩
  | unwritten {m : DataModule} {v : Value} (hg : m.Gives v) (hv : v.Faulty ∨ x.nesting < v.depth) (e : Thrown) :
      Leaves path m ⟨.dataSerializationFailed, "", Print.all path m.performed ++
        ("Imported module data could not be serialized: " ++ path ++ " (" ++ e.summary ++ ")") ++ "\n"⟩
  | running (prints : List Print) (e : Thrown) (exported : Option Value) :
      Leaves path ⟨prints, some e, exported⟩ ⟨.importFailed, "", Print.all path prints ++
        ("Could not import module: " ++ path ++ " (" ++ e.summary ++ ")") ++ "\n"⟩
  | awaiting (prints ps : List Print) (e : Thrown) (v : Value) :
      Leaves path ⟨prints, none, some (.coroutine ps (some e) v)⟩ ⟨.importFailed, "", Print.all path (prints ++ ps) ++
        ("Could not import module: " ++ path ++ " (" ++ e.leavingCoroutine.summary ++ ")") ++ "\n"⟩
  | nothing {m : DataModule} (ht : m.thrown = none) (hn : m.exported = none) :
      Leaves path m ⟨.noDefaultExport, "", Print.all path m.prints ++
        ("Imported module has no default export: " ++ path) ++ "\n"⟩

theorem printAll_append (path : String) (ps qs : List Print) :
    Print.all path (ps ++ qs) = Print.all path ps ++ Print.all path qs := by
  simp [Print.all, String.join_append]

theorem runModule_gives {m : DataModule} {v : Value} (hg : m.Gives v) (path : String) :
    runModule x path m = .ok (writeOut x path (Print.all path m.performed) v) := by
  cases hg with
  | directly prints hv =>
    have hprints : v.prints = [] := by
      cases v with
      | coroutine ps e w => exact absurd rfl (hv ps e w)
      | _ => rfl
    have hperformed : (⟨prints, none, some v⟩ : DataModule).performed = prints := by
      change prints ++ v.prints = prints
      rw [hprints, List.append_nil]
    rw [hperformed]
    cases v with
    | coroutine ps e w => exact absurd rfl (hv ps e w)
    | _ => rfl
  | awaited prints ps v =>
    have hperformed : (⟨prints, none, some (.coroutine ps none v)⟩ : DataModule).performed = prints ++ ps := rfl
    rw [hperformed, printAll_append]
    rfl

theorem leaves_writeOut {m : DataModule} {v : Value} (hg : m.Gives v) (path : String) :
    Leaves x path m (writeOut x path (Print.all path m.performed) v) := by
  have h := v.encodes x.nesting
  rw [writeOut]
  cases hj : v.toJson Value.exportRules x.nesting with
  | ok j =>
    rw [hj] at h
    exact .data hg h.1 h.2
  | error fault =>
    rw [hj] at h
    exact .unwritten hg h fault.thrown

theorem importFailed_eq {e : Thrown} (he : e.failsModule) (path printed : String) :
    importFailed path printed e = .ok ⟨.importFailed, "", printed ++
      ("Could not import module: " ++ path ++ " (" ++ e.summary ++ ")") ++ "\n"⟩ :=
  if_pos he

theorem failsModule_of_importFailed {e : Thrown} {path printed : String} {r : Report}
    (h : importFailed path printed e = .ok r) : e.failsModule := by
  unfold importFailed at h
  split_ifs at h with he
  exact he

theorem leaves_of_runModule {m : DataModule} {path : String} {r : Report} (h : runModule x path m = .ok r) :
    Leaves x path m r := by
  obtain ⟨v, hg⟩ | ⟨e, he⟩ | ⟨ht, hn⟩ := m.ends
  · rw [runModule_gives x hg path] at h
    cases h
    exact leaves_writeOut x hg path
  · cases he with
    | running prints _ exported =>
      have hfails : importFailed path (Print.all path prints) e = .ok r := h
      rw [importFailed_eq (failsModule_of_importFailed hfails)] at hfails
      cases hfails
      exact .running prints e exported
    | awaiting prints ps _ v =>
      have hfails : importFailed path (Print.all path prints ++ Print.all path ps) e.leavingCoroutine = .ok r := h
      rw [importFailed_eq (failsModule_of_importFailed hfails), ← printAll_append] at hfails
      cases hfails
      exact .awaiting prints ps e v
  · rw [runModule, ht, hn] at h
    cases h
    exact .nothing ht hn

theorem runModule_leaves {m : DataModule} (hfail : ∀ e, m.Fails e → e.failsModule) (path : String) :
    ∃ r, runModule x path m = .ok r ∧ Leaves x path m r := by
  obtain ⟨r, hr⟩ : ∃ r, runModule x path m = .ok r := by
    obtain ⟨v, hg⟩ | ⟨e, he⟩ | ⟨ht, hn⟩ := m.ends
    · exact ⟨_, runModule_gives x hg path⟩
    · have hfails := hfail e he
      cases he with
      | running prints _ exported => exact ⟨_, importFailed_eq hfails path _⟩
      | awaiting prints ps _ v => exact ⟨_, importFailed_eq (Thrown.failsModule_leavingCoroutine hfails) path _⟩
    · rw [runModule, ht, hn]
      exact ⟨_, rfl⟩
  exact ⟨r, hr, leaves_of_runModule x hr⟩

section

variable {x : Runtime} {path : String} {m : DataModule} {r : Report}

theorem Leaves.exit_of_fails (h : Leaves x path m r) {e : Thrown} (he : m.Fails e) : r.exit = .importFailed := by
  cases h with
  | running prints e exported => rfl
  | awaiting prints ps e v => rfl
  | data hg hj hd => exact (hg.not_fails he).elim
  | unwritten hg hv e' => exact (hg.not_fails he).elim
  | nothing ht hn =>
    cases he with
    | running prints _ exported => cases ht
    | awaiting prints ps _ v => cases hn

theorem Leaves.exit_of_nothing (h : Leaves x path m r) (ht : m.thrown = none) (hn : m.exported = none) :
    r.exit = .noDefaultExport := by
  cases h with
  | nothing _ _ => rfl
  | running prints e exported => cases ht
  | awaiting prints ps e v => cases hn
  | data hg hj hd => cases hg <;> cases hn
  | unwritten hg hv e => cases hg <;> cases hn

theorem Leaves.success (h : Leaves x path m r) (hexit : r.exit = .ok) :
    ∃ v j, m.Gives v ∧ v.Stands j ∧ v.depth ≤ x.nesting ∧ r.stdout = j.render .ascii := by
  cases h with
  | data hg hj hd => exact ⟨_, _, hg, hj, hd, rfl⟩
  | _ => cases hexit

end

theorem exportPath_module {t : FileTree} {path : String} {m : DataModule} (ha : Path.isAbsolute path.toList)
    (hm : t.module? path = some m) : exportPath x t path = runModule x path m := by
  simp [exportPath, ha, hm]

theorem exportPath_relative {t : FileTree} {path : String} (ha : Path.isAbsolute path.toList = false) :
    exportPath x t path = .ok (failed .invalidPath "" ("File path must be absolute: " ++ path)) :=
  if_pos (by simp [ha])

theorem exportPath_missing {t : FileTree} {path : String} (ha : Path.isAbsolute path.toList)
    (he : t.pathExists path = false) :
    exportPath x t path = .ok (failed .fileNotFound "" ("File does not exist: " ++ path)) := by
  have hm : t.module? path = none := by
    simp only [FileTree.pathExists, FileTree.isFile, Bool.or_eq_false_iff] at he
    simpa using he.1
  simp only [exportPath, ha, hm, he]
  rfl

theorem exportPath_directory {t : FileTree} {path : String} (ha : Path.isAbsolute path.toList)
    (hf : t.isFile path = false) (hd : t.isDirectory path) :
    exportPath x t path = .ok (failed .importFailed ""
      ("Could not import module: " ++ path ++ " (" ++ (openedDirectory path).summary ++ ")")) := by
  have hm : t.module? path = none := by simpa [FileTree.isFile] using hf
  have he : t.pathExists path := by simp [FileTree.pathExists, hd]
  simp only [exportPath, ha, hm, he]
  exact importFailed_eq (e := openedDirectory path) rfl path ""

end Export

end SassData
