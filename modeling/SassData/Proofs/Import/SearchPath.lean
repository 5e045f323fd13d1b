import Mathlib.Tactic.Common
import SassData.Import.Resolve

namespace SassData

theorem Text.glue_eq_intercalate (sep : List Char) (ps : List (List Char)) : glue sep ps = sep.intercalate ps := by
  induction ps with
  | nil => rfl
  | cons p ps ih =>
    cases ps with
    | nil => exact (List.intercalate_singleton ..).symm
    | cons q qs => rw [glue, ih, List.intercalate_cons_cons]

namespace Import.Options

structure IsCut (s : String) (es : List String) : Prop where
  ne_nil : es ≠ []
  colon : ∀ e ∈ es, ':' ∉ e.toList
  join : String.intercalate ":" es = s

theorem isCut_pieces (s : String) : IsCut s ((Text.pieces ':' s.toList).map String.ofList) where
  ne_nil := by
    rw [ne_eq, List.map_eq_nil_iff]
    exact Text.pieces_ne_nil ':' s.toList
  colon := by
    intro e he
    obtain ⟨p, hp, rfl⟩ := List.mem_map.mp he
    rw [String.toList_ofList]
    exact Text.notMem_pieces hp
  join := by
    have htexts : ((Text.pieces ':' s.toList).map String.ofList).map String.toList = Text.pieces ':' s.toList := by
      simp [Function.comp_def]
    rw [← String.toList_inj, String.toList_intercalate, htexts, ← Text.glue_eq_intercalate]
    exact Text.glue_pieces ':' s.toList

theorem IsCut.pieces_eq {s : String} {es : List String} (h : IsCut s es) :
    (Text.pieces ':' s.toList).map String.ofList = es := by
  have hpieces : Text.pieces ':' s.toList = es.map String.toList := by
    rw [← h.join, String.toList_intercalate, ← Text.glue_eq_intercalate]
    apply Text.pieces_glue
    · rw [ne_eq, List.map_eq_nil_iff]
      exact h.ne_nil
    · intro p hp
      obtain ⟨e, he, rfl⟩ := List.mem_map.mp hp
      exact h.colon e he
  rw [hpieces, List.map_map]
  simp [Function.comp_def]

inductive Entries : Json → List String → Prop
  | null : Entries .null []
  | text {s : String} {es : List String} (h : IsCut s es) : Entries (.str s) es
  | list (es : List String) : Entries (.arr (es.map .str)) es
  | keys (members : Members) : Entries (.obj members) (members.map (·.1))

theorem pathList_texts (es : List String) : pathList (es.map .str) = .ok (es.filter (· ≠ "")) := by
  induction es with
  | nil => rfl
  | cons e es ih =>
    rw [List.map_cons, pathList, ih, Except.map]
    by_cases he : e = ""
    · rw [if_pos he, List.filter_cons_of_neg (by simpa using he)]
    · rw [if_neg he, List.filter_cons_of_pos (by simpa using he)]

theorem texts_of_pathList {vs : List Json} {ps : List String} (h : pathList vs = .ok ps) :
    ∃ es : List String, vs = es.map .str := by
  fun_induction pathList vs generalizing ps with
  | case1 => exact ⟨[], rfl⟩
  | case2 s vs ih =>
    cases hrest : pathList vs with
    | error e =>
      rw [hrest] at h
      cases h
    | ok qs =>
      obtain ⟨es, rfl⟩ := ih hrest
      exact ⟨s :: es, rfl⟩
  | case3 v vs hv => cases h

theorem Entries.read {v : Json} {es : List String} (h : Entries v es) :
    readIncludePaths v = .ok (es.filter (· ≠ "")) := by
  cases h with
  | null => rfl
  | text h => rw [readIncludePaths, searchPath, separator, h.pieces_eq]
  | list => exact pathList_texts es
  | keys members => rfl

theorem entries_of_read {v : Json} {ps : List String} (h : readIncludePaths v = .ok ps) :
    ∃ es, Entries v es ∧ ps = es.filter (· ≠ "") := by
  have hentries : ∃ es, Entries v es := by
    cases v with
    | null => exact ⟨_, .null⟩
    | str s => exact ⟨_, .text (isCut_pieces s)⟩
    | arr items =>
      obtain ⟨es, rfl⟩ := texts_of_pathList h
      exact ⟨es, .list es⟩
    | obj members => exact ⟨_, .keys members⟩
    | bool b => cases h
    | int n => cases h
    | float x => cases h
  obtain ⟨es, hes⟩ := hentries
  refine ⟨es, hes, ?_⟩
  rw [hes.read] at h
  exact (Except.ok.inj h).symm

def Fields.withPaths (f : Fields) (v : Json) : Fields :=
  { f with includePaths := some v }

structure Reads (v : Json) (ps : List String) : Prop where
  alone : ofFields { includePaths := some v } = .ok { includePaths := ps }
  along : ∀ f : Fields, ofFields (f.withPaths v) =
    (ofFields (f.withPaths .null)).map fun o => { o with includePaths := ps }

theorem ofFields_withPaths {v : Json} {ps : List String} (h : readIncludePaths v = .ok ps) (f : Fields) :
    ofFields (f.withPaths v) = (ofFields (f.withPaths .null)).map fun o => { o with includePaths := ps } := by
  have hv : readIncludePaths ((f.withPaths v).includePaths.getD .null) = .ok ps := h
  have hnull : readIncludePaths ((f.withPaths .null).includePaths.getD .null) = .ok [] := rfl
  unfold ofFields
  rw [hv, hnull]
  simp only [Fields.withPaths, bind, Except.bind]
  split <;> rfl

theorem reads_of_read {v : Json} {ps : List String} (h : readIncludePaths v = .ok ps) : Reads v ps :=
  ⟨ofFields_withPaths h {}, ofFields_withPaths h⟩

theorem includePaths_of_ofFields {f : Fields} {o : Options} (h : ofFields f = .ok o) :
    readIncludePaths (f.includePaths.getD .null) = .ok o.includePaths := by
  unfold ofFields at h
  cases hread : readIncludePaths (f.includePaths.getD .null) with
  | error e =>
    rw [hread] at h
    cases h
  | ok ps =>
    rw [hread] at h
    simp only [bind, Except.bind] at h
    split at h
    · cases h
      rfl
    · cases h

theorem ofFields_withPaths_self {f : Fields} {o : Options} (h : ofFields f = .ok o) :
    ofFields (f.withPaths (.arr (o.includePaths.map .str))) = .ok o := by
  have hread := includePaths_of_ofFields h
  obtain ⟨es, -, hes⟩ := entries_of_read hread
  have hagain : readIncludePaths (.arr (o.includePaths.map .str)) = .ok o.includePaths := by
    rw [readIncludePaths, pathList_texts, hes, List.filter_filter]
    simp
  have hself : ofFields (f.withPaths (f.includePaths.getD .null)) = .ok o := h
  rw [ofFields_withPaths hread] at hself
  rw [ofFields_withPaths hagain, hself]

theorem notMem_includePaths {f : Fields} {o : Options} (h : ofFields f = .ok o) :
    "" ∉ o.includePaths ∧ ∀ roots, o.strategy = .files roots → "" ∉ roots := by
  have hpaths : "" ∉ o.includePaths := by
    obtain ⟨es, -, hes⟩ := entries_of_read (includePaths_of_ofFields h)
    rw [hes, List.mem_filter, not_and]
    intro _
    decide
  refine ⟨hpaths, ?_⟩
  intro roots hroots
  unfold strategy at hroots
  split at hroots
  · cases hroots
  · cases hroots
    exact hpaths

theorem ofEnvironment_eq {names : List String} (hnames : ∀ name ∈ names, name ∉ reserved) (environment : Members)
    (f : Fields) :
    ofEnvironment environment names f =
      ofFields (f.withPaths
        (f.includePaths.getD ((environment.get? searchPathVariable).getD (.str "")))) := by
  have hnone : names.find? reserved.contains = none := by
    apply List.find?_eq_none.mpr
    intro name hname
    rw [List.contains_iff_mem]
    exact hnames name hname
  rw [ofEnvironment, hnone]
  rfl

theorem ofFields_of_ofEnvironment {environment : Members} {names : List String} {f : Fields} {o : Options}
    (h : ofEnvironment environment names f = .ok o) : ∃ g, ofFields g = .ok o := by
  unfold ofEnvironment at h
  split at h
  · cases h
  · exact ⟨_, h⟩

/-- The spellings of the include paths agree. A search path means what the list of its parts means, and the environment
means the search path it holds unless include paths are given. What remains are the entries that are not empty; they
remain the same when they are given again. -/
theorem include_paths_spellings :
    (∀ s, ∃ es, IsCut s es) ∧
    (∀ s es, IsCut s es →
      Reads (.str s) (es.filter (· ≠ "")) ∧ Reads (.arr (es.map .str)) (es.filter (· ≠ "")) ∧
      ∀ (environment : Members) (names : List String) (f : Fields), environment.get? "SASS_PATH" = some (.str s) →
        (∀ name ∈ names, name ∉ reserved) → f.includePaths = none →
        ofEnvironment environment names f = ofFields (f.withPaths (.str s))) ∧
    (∀ es : List String, (∀ e ∈ es, e ≠ "" ∧ ':' ∉ e.toList) →
      Reads (.arr (es.map .str)) es ∧ Reads (.str (String.intercalate ":" es)) es) ∧
    (∀ v es, Entries v es → Reads v (es.filter (· ≠ ""))) ∧
    (∀ (f : Fields) (o : Options), ofFields f = .ok o →
      (∃ es, Entries (f.includePaths.getD .null) es ∧ o.includePaths = es.filter (· ≠ "")) ∧
      ofFields (f.withPaths (.arr (o.includePaths.map .str))) = .ok o) ∧
    (∀ (environment : Members) (names : List String) (f : Fields) (v : Json), (∀ name ∈ names, name ∉ reserved) →
      ofEnvironment environment names (f.withPaths v) = ofFields (f.withPaths v)) ∧
    ∀ (f : Fields) (o : Options),
      (ofFields f = .ok o ∨ ∃ environment names, ofEnvironment environment names f = .ok o) →
      "" ∉ o.includePaths ∧ ∀ roots, o.strategy = .files roots → "" ∉ roots := by
  have hreads : ∀ v es, Entries v es → Reads v (es.filter (· ≠ "")) := fun v es h => reads_of_read h.read
  refine ⟨fun s => ⟨_, isCut_pieces s⟩, ?_, ?_, hreads, ?_, ?_, ?_⟩
  · intro s es h
    refine ⟨hreads _ _ (.text h), hreads _ _ (.list es), ?_⟩
    intro environment names f hs hnames hf
    rw [ofEnvironment_eq hnames, hf, searchPathVariable, hs]
    rfl
  · intro es hes
    have hfilter : es.filter (· ≠ "") = es := by
      apply List.filter_eq_self.mpr
      intro e he
      exact decide_eq_true (hes e he).1
    have hlist := hreads _ _ (.list es)
    rw [hfilter] at hlist
    refine ⟨hlist, ?_⟩
    by_cases hnil : es = []
    · rw [hnil]
      exact reads_of_read rfl
    · have htext := hreads _ _ (.text ⟨hnil, fun e he => (hes e he).2, rfl⟩)
      rwa [hfilter] at htext
  · intro f o h
    exact ⟨entries_of_read (includePaths_of_ofFields h), ofFields_withPaths_self h⟩
  · intro environment names f v hnames
    exact ofEnvironment_eq hnames environment (f.withPaths v)
  · rintro f o (h | ⟨environment, names, h⟩)
    · exact notMem_includePaths h
    · obtain ⟨g, hg⟩ := ofFields_of_ofEnvironment h
      exact notMem_includePaths hg

theorem include_paths_spellings_padded :
    IsCut ":a::b a:a:" ["", "a", "", "b a", "a", ""] ∧
    ofFields { includePaths := some (.str ":a::b a:a:") } = .ok { includePaths := ["a", "b a", "a"] } ∧
    ofEnvironment [("HOME", .str "/r"), ("SASS_PATH", .str ":a::b a:a:")] [] {} =
      .ok { includePaths := ["a", "b a", "a"] } ∧
    ofEnvironment [("SASS_PATH", .str ":a::b a:a:")] ["include_paths"] { includePaths := some .null } = .ok {} := by
  obtain ⟨-, hcut, -, hentries, -, hgiven, -⟩ := include_paths_spellings
  have hs : IsCut ":a::b a:a:" ["", "a", "", "b a", "a", ""] := ⟨by decide, by decide, by decide⟩
  obtain ⟨htext, -, henvironment⟩ := hcut _ _ hs
  refine ⟨hs, htext.alone, ?_, ?_⟩
  · rw [henvironment _ [] {} rfl nofun rfl]
    exact htext.alone
  · have hnull := hgiven [("SASS_PATH", .str ":a::b a:a:")] ["include_paths"] {} .null (by decide)
    exact hnull.trans (hentries _ _ .null).alone

end Import.Options

end SassData
