import SassData.Proofs.Json.Ascii
import SassData.Proofs.Scss.Atoms

namespace SassData

inductive Json.Within : Json → Json → Prop
  | self (v : Json) : Within v v
  | item {w v : Json} {vs : List Json} (hv : v ∈ vs) (h : Within w v) : Within w (.arr vs)
  | member {w : Json} {m : String × Json} {ms : List (String × Json)} (hm : m ∈ ms) (h : Within w m.2) :
      Within w (.obj ms)

namespace Scss

open Json (Within)

def OneLineKeys (v : Json) : Prop :=
  ∀ ms, Within (.obj ms) v → ∀ m ∈ ms, '\n' ∉ m.1.toList

def OneLineLiterals (v : Json) : Prop :=
  ∀ s, Within (.str s) v → isBareLiteral s → '\n' ∉ s.toList

theorem oneLineKeys_list {vs : List Json} : OneLineKeys (.arr vs) ↔ ∀ v ∈ vs, OneLineKeys v := by
  constructor
  · intro h v hv ms hms
    exact h ms (.item hv hms)
  · intro h ms hms
    cases hms with
    | item hv hms => exact h _ hv ms hms

theorem oneLineKeys_map {ms : Members} :
    OneLineKeys (.obj ms) ↔ (∀ m ∈ ms, '\n' ∉ m.1.toList) ∧ ∀ m ∈ ms, OneLineKeys m.2 := by
  constructor
  · intro h
    exact ⟨h ms (.self _), fun m hm ns hns => h ns (.member hm hns)⟩
  · rintro ⟨hkeys, hvalues⟩ ns hns
    cases hns with
    | self => exact hkeys
    | member hm hns => exact hvalues _ hm ns hns

theorem oneLineLiterals_list {vs : List Json} : OneLineLiterals (.arr vs) ↔ ∀ v ∈ vs, OneLineLiterals v := by
  constructor
  · intro h v hv s hs
    exact h s (.item hv hs)
  · intro h s hs
    cases hs with
    | item hv hs => exact h _ hv s hs

theorem oneLineLiterals_map {ms : Members} : OneLineLiterals (.obj ms) ↔ ∀ m ∈ ms, OneLineLiterals m.2 := by
  constructor
  · intro h m hm s hs
    exact h s (.member hm hs)
  · intro h s hs
    cases hs with
    | member hm hs => exact h _ hm s hs

theorem notMem_escape (c : Char) : '\n' ∉ Json.escape .unicode c := by
  simp only [Json.escape, reduceCtorEq, false_and, if_false]
  split_ifs with hq hb hn
  any_goals decide
  · intro h
    exact absurd (Json.plainText_units c '\n' h) (by decide)
  · rw [List.mem_singleton]
    exact Ne.symm hn

theorem oneLineLiterals_str {s : String} : OneLineLiterals (.str s) ↔ (isBareLiteral s → '\n' ∉ s.toList) := by
  constructor
  · intro h
    exact h s (.self _)
  · rintro h _ ⟨⟩
    exact h

theorem notMem_printString (s : String) : '\n' ∉ printString s.toList ↔ OneLineLiterals (.str s) := by
  rw [oneLineLiterals_str, isBareLiteral, printString]
  split_ifs with hs
  · exact ⟨fun h _ => h, fun h => h hs⟩
  · refine iff_of_true ?_ fun h => absurd h hs
    simp [Json.writeString, notMem_escape]

theorem notMem_printKey {k : List Char} (hk : '\n' ∉ k) : '\n' ∉ printKey k := by
  rw [printKey_eq, List.mem_cons, List.mem_append, List.mem_flatMap]
  rintro (h | ⟨c, hc, h⟩ | h)
  · exact absurd h (by decide)
  · rw [keyChar] at h
    split_ifs at h
    · exact absurd h (by decide)
    · rw [List.mem_singleton.mp h] at hk
      exact hk hc
  · exact absurd h (by decide)

theorem notMem_printItems {vs : List Json} : '\n' ∉ printItems vs ↔ ∀ v ∈ vs, '\n' ∉ print v := by
  induction vs with
  | nil => simp [printItems]
  | cons v vs ih =>
    rw [printItems, List.forall_mem_cons, ← ih, List.mem_append, List.mem_cons]
    simp

theorem notMem_printEntries {ms : Members} (hk : ∀ m ∈ ms, '\n' ∉ m.1.toList) :
    '\n' ∉ printEntries ms ↔ ∀ m ∈ ms, '\n' ∉ print m.2 := by
  induction ms with
  | nil => simp [printEntries]
  | cons m ms ih =>
    obtain ⟨hm, hms⟩ := List.forall_mem_cons.mp hk
    rw [printEntries, List.forall_mem_cons, ← ih hms]
    simp [notMem_printKey hm]

theorem notMem_number {s : List Char} (hs : ∀ c ∈ s, Json.IsNumberChar c) : '\n' ∉ s :=
  fun h => absurd (hs '\n' h).plain (by decide)

theorem notMem_print {v : Json} (hk : OneLineKeys v) : '\n' ∉ print v ↔ OneLineLiterals v := by
  have hscalar {v : Json} (hv : ∀ s, ¬ Within (.str s) v) : OneLineLiterals v := fun s hs => absurd hs (hv s)
  induction v with
  | str s => exact notMem_printString s
  | null => exact iff_of_true (by decide) (hscalar nofun)
  | bool b => exact iff_of_true (by cases b <;> decide) (hscalar nofun)
  | int n => exact iff_of_true (notMem_number (Json.numberChar_writeInt n)) (hscalar nofun)
  | float x => exact iff_of_true (notMem_number (Json.numberChar_text x)) (hscalar nofun)
  | arr vs ih =>
    have hitems := oneLineKeys_list.mp hk
    rw [oneLineLiterals_list, ← forall₂_congr fun v hv => ih v hv (hitems v hv), ← notMem_printItems, print]
    simp
  | obj ms ih =>
    obtain ⟨hkeys, hmembers⟩ := oneLineKeys_map.mp hk
    rw [oneLineLiterals_map, ← forall₂_congr fun m hm => ih m hm (hmembers m hm), ← notMem_printEntries hkeys, print]
    simp

theorem toList_line (m : String × Json) :
    ("$" ++ m.1 ++ ": " ++ literal m.2 ++ ";").toList = declaration m := by
  simp [declaration, literal]

theorem notMem_declaration {m : String × Json} (hm : '\n' ∉ m.1.toList) (hk : OneLineKeys m.2) :
    '\n' ∉ declaration m ↔ OneLineLiterals m.2 := by
  rw [← notMem_print hk]
  simp [declaration, hm]

/-- Declarations are lines, one for each variable, if and only if no string that is printed as it stands holds a line
feed; and there are no more of them than variables only if so. -/
theorem declarations_lines_iff {d : Members} (hne : d ≠ []) (hk : OneLineKeys (.obj d)) :
    ((Text.pieces '\n' (declarations d).toList).length = d.length ↔ OneLineLiterals (.obj d)) ∧
      ((Text.pieces '\n' (declarations d).toList).map String.ofList =
        d.map (fun m => "$" ++ m.1 ++ ": " ++ literal m.2 ++ ";") ↔ OneLineLiterals (.obj d)) := by
  obtain ⟨hkeys, hvalues⟩ := oneLineKeys_map.mp hk
  have htext : (declarations d).toList = Text.glue ['\n'] (d.map declaration) := String.toList_ofList
  have hlines : (∀ p ∈ d.map declaration, '\n' ∉ p) ↔ OneLineLiterals (.obj d) := by
    rw [oneLineLiterals_map, List.forall_mem_map]
    exact forall₂_congr fun m hm => notMem_declaration (hkeys m hm) (hvalues m hm)
  have hmap : d.map declaration ≠ [] := by simpa using hne
  have hlength : (Text.pieces '\n' (declarations d).toList).length = d.length ↔ OneLineLiterals (.obj d) := by
    rw [htext, ← hlines, ← Text.length_pieces_glue hmap, List.length_map]
  refine ⟨hlength, ?_⟩
  constructor
  · intro h
    apply hlength.mp
    simpa using congrArg List.length h
  · intro h
    rw [htext, Text.pieces_glue hmap (hlines.mpr h), List.map_map]
    apply List.map_congr_left
    intro m _
    rw [Function.comp_apply, ← toList_line, String.ofList_toList]

def unbroken : Members :=
  [("a", .arr [.str "x\ty", .str "two\nlines of words"]), ("b", .obj [("it's", .str "\"\n")])]

def broken : Members :=
  [("a", .arr [.str "x\ny"])]

theorem declarations_lines_broken :
    OneLineKeys (.obj unbroken) ∧ (Text.pieces '\n' (declarations unbroken).toList).map String.ofList =
        ["$a: (x\ty,\"two\\nlines of words\",);", "$b: ('it\\'s': \"\\\"\\n\",);"] ∧
      OneLineKeys (.obj broken) ∧ (Text.pieces '\n' (declarations broken).toList).length ≠ 1 := by
  have hstr (s : String) : OneLineKeys (.str s) := nofun
  have hunbroken : OneLineKeys (.obj unbroken) := by
    simp [unbroken, oneLineKeys_map, oneLineKeys_list, hstr]
  have hbroken : OneLineKeys (.obj broken) := by
    simp [broken, oneLineKeys_map, oneLineKeys_list, hstr]
  have hlines : OneLineLiterals (.obj unbroken) := by
    simp only [unbroken, oneLineLiterals_map, oneLineLiterals_list, oneLineLiterals_str, List.forall_mem_cons,
      List.not_mem_nil, false_implies, implies_true, and_true]
    decide
  have hbreak : ¬ OneLineLiterals (.obj broken) := by
    simp only [broken, oneLineLiterals_map, oneLineLiterals_list, oneLineLiterals_str, List.forall_mem_cons,
      List.not_mem_nil, false_implies, implies_true, and_true]
    decide
  refine ⟨hunbroken, ?_, hbroken, ?_⟩
  · have hne : unbroken ≠ [] := List.cons_ne_nil _ _
    exact ((declarations_lines_iff hne hunbroken).2.mpr hlines).trans (by decide)
  · have hne : broken ≠ [] := List.cons_ne_nil _ _
    exact fun h => hbreak ((declarations_lines_iff hne hbroken).1.mp h)

end Scss

end SassData
