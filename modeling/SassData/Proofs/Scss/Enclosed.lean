import SassData.Proofs.Scss.Unambiguous

namespace SassData.Scss

inductive Place
  | outside
  | quoted (mark : Char)
  | escaped (mark : Char)
deriving DecidableEq

def Place.next : Place → Char → Place
  | .outside, c => if c = '"' ∨ c = '\x27' then .quoted c else .outside
  | .quoted mark, c => if c = '\\' then .escaped mark else if c = mark then .outside else .quoted mark
  | .escaped mark, _ => .quoted mark

def turn (c : Char) : Int :=
  if c = '(' then 1 else if c = ')' then -1 else 0

structure Reading where
  place : Place
  depth : Int
deriving DecidableEq

namespace Reading

def outsideAt (depth : Int) : Reading :=
  ⟨.outside, depth⟩

def next (r : Reading) (c : Char) : Reading :=
  ⟨r.place.next c, if r.place = .outside then r.depth + turn c else r.depth⟩

def after (r : Reading) (cs : List Char) : Reading :=
  cs.foldl next r

def states (r : Reading) (cs : List Char) : List Reading :=
  cs.scanl next r

abbrev Stop := List Char × Int

def behind (s : List Char) (p : Stop) : Stop :=
  (s ++ p.1, p.2)

def stops (r : Reading) : List Char → List Stop
  | [] => []
  | c :: cs =>
    if c = ';' ∧ r.place = .outside then ([c], r.depth) :: (stops (r.next c) cs).map (behind [c])
    else (stops (r.next c) cs).map (behind [c])

theorem after_append (r : Reading) (s t : List Char) : r.after (s ++ t) = (r.after s).after t :=
  List.foldl_append

theorem mem_states_append {r q : Reading} {s t : List Char} (h : q ∈ r.states (s ++ t)) :
    q ∈ r.states s ∨ q ∈ (r.after s).states t := by
  rw [states, List.scanl_append, List.mem_append] at h
  obtain h | h := h
  · exact .inl h
  · exact .inr (List.mem_of_mem_tail h)

theorem map_behind_behind (c : Char) (s : List Char) (ps : List Stop) :
    (ps.map (behind s)).map (behind [c]) = ps.map (behind (c :: s)) :=
  List.map_map

theorem stops_append (r : Reading) (s t : List Char) :
    r.stops (s ++ t) = r.stops s ++ ((r.after s).stops t).map (behind s) := by
  induction s generalizing r with
  | nil => exact (List.map_id _).symm
  | cons c cs ih =>
    have hafter : r.after (c :: cs) = (r.next c).after cs := rfl
    rw [List.cons_append, stops, stops, hafter, ih, List.map_append, map_behind_behind]
    split_ifs
    · rfl
    · rfl

end Reading

open Reading

/-- What a text does to a reader: it leads from one state to another, nowhere below a depth, and past the given
semicolons. -/
structure Leads (low : Int) (r : Reading) (s : List Char) (r' : Reading) (found : List Stop) : Prop where
  after_eq : r.after s = r'
  le_depth : ∀ q ∈ r.states s, low ≤ q.depth
  stops_eq : r.stops s = found

namespace Leads

variable {low : Int} {r q r' : Reading} {s t : List Char} {found found' : List Stop}

theorem nil (hlow : low ≤ r.depth) : Leads low r [] r [] := by
  refine ⟨rfl, ?_, rfl⟩
  rw [states, List.scanl_nil]
  exact List.forall_mem_singleton.mpr hlow

theorem cons {c : Char} (hlow : low ≤ r.depth) (hc : c ≠ ';' ∨ r.place ≠ .outside)
    (h : Leads low (r.next c) s r' []) : Leads low r (c :: s) r' [] := by
  refine ⟨h.after_eq, ?_, ?_⟩
  · rw [states, List.scanl_cons]
    exact List.forall_mem_cons.mpr ⟨hlow, h.le_depth⟩
  · rw [stops, if_neg fun hstop => hc.elim (absurd hstop.1) (absurd hstop.2), h.stops_eq]
    rfl

theorem semicolon {d : Int} (hlow : low ≤ d) : Leads low (outsideAt d) [';'] (outsideAt d) [([';'], d)] := by
  have hstep : (outsideAt d).next ';' = outsideAt d := congrArg outsideAt (Int.add_zero d)
  refine ⟨hstep, ?_, rfl⟩
  rw [states, List.scanl_cons, List.scanl_nil, hstep]
  exact List.forall_mem_cons.mpr ⟨hlow, List.forall_mem_singleton.mpr hlow⟩

theorem append (hs : Leads low r s q found) (ht : Leads low q t r' found') :
    Leads low r (s ++ t) r' (found ++ found'.map (behind s)) := by
  obtain ⟨rfl, hsdepth, rfl⟩ := hs
  obtain ⟨rfl, htdepth, rfl⟩ := ht
  refine ⟨after_append r s t, ?_, stops_append r s t⟩
  intro p hp
  exact (mem_states_append hp).elim (hsdepth p) (htdepth p)

theorem mono {low' : Int} (h : Leads low r s r' found) (hle : low' ≤ low) : Leads low' r s r' found :=
  ⟨h.after_eq, fun q hq => Int.le_trans hle (h.le_depth q hq), h.stops_eq⟩

end Leads

def Enclosed (s : List Char) : Prop :=
  ∀ d, Leads d (outsideAt d) s (outsideAt d) []

theorem Enclosed.append {s t : List Char} (hs : Enclosed s) (ht : Enclosed t) : Enclosed (s ++ t) :=
  fun d => (hs d).append (ht d)

theorem Enclosed.parentheses {s : List Char} (hs : Enclosed s) : Enclosed ('(' :: (s ++ [')'])) := by
  intro d
  have hopen : (outsideAt d).next '(' = outsideAt (d + 1) := rfl
  have hclose : (outsideAt (d + 1)).next ')' = outsideAt d := congrArg outsideAt (Int.add_neg_cancel_right d 1)
  have hlow : d ≤ d + 1 := by omega
  have hend : Leads d (outsideAt (d + 1)) [')'] (outsideAt d) [] := by
    apply Leads.cons hlow (.inl (by decide))
    rw [hclose]
    exact .nil (Int.le_refl d)
  apply Leads.cons (Int.le_refl d) (.inl (by decide))
  rw [hopen]
  exact ((hs (d + 1)).mono hlow).append hend

def IsPassed (c : Char) : Prop :=
  c ∉ ['"', '\x27', '(', ')', ';']

theorem enclosed_passed {s : List Char} (hs : ∀ c ∈ s, IsPassed c) : Enclosed s := by
  intro d
  induction s with
  | nil => exact .nil (Int.le_refl d)
  | cons c cs ih =>
    obtain ⟨hc, hcs⟩ := List.forall_mem_cons.mp hs
    simp only [IsPassed, List.mem_cons, List.not_mem_nil, or_false, not_or] at hc
    have hstep : (outsideAt d).next c = outsideAt d := by simp [outsideAt, next, Place.next, turn, hc]
    apply Leads.cons (Int.le_refl d) (.inl hc.2.2.2.2)
    rw [hstep]
    exact ih hcs

theorem isPassed_of_not_isDelimiter {c : Char} (hc : !isDelimiter c) : IsPassed c := by
  intro hmem
  simp only [List.mem_cons, List.not_mem_nil, or_false] at hmem
  rcases hmem with rfl | rfl | rfl | rfl | rfl <;> revert hc <;> decide

theorem leads_closing {mark : Char} (hm : mark ≠ '\\') {s : List Char} (h : afterClosing mark s = some []) (d : Int) :
    Leads d ⟨.quoted mark, d⟩ s (outsideAt d) [] := by
  have hd : d ≤ d := Int.le_refl d
  have hquoted : Place.quoted mark ≠ .outside := nofun
  have hescaped : Place.escaped mark ≠ .outside := nofun
  fun_induction afterClosing mark s with
  | case1 => cases h
  | case2 c cs ih => exact .cons hd (.inr hquoted) (.cons hd (.inr hescaped) (ih h))
  | case3 cs =>
    cases h
    have hstep : next ⟨.quoted mark, d⟩ mark = outsideAt d := by simp [outsideAt, next, Place.next, hm]
    apply Leads.cons hd (.inr hquoted)
    rw [hstep]
    exact .nil hd
  | case4 => cases h
  | case5 c cs _ hc hb ih =>
    have hstep : next ⟨.quoted mark, d⟩ c = ⟨.quoted mark, d⟩ := by simp [next, Place.next, hb, hc]
    apply Leads.cons hd (.inr hquoted)
    rw [hstep]
    exact ih h

theorem enclosed_mark {mark : Char} (hm : mark = '"' ∨ mark = '\x27') {s : List Char}
    (h : afterClosing mark s = some []) : Enclosed (mark :: s) := by
  intro d
  have hne : mark ≠ '\\' ∧ mark ≠ ';' ∧ turn mark = 0 := by obtain rfl | rfl := hm <;> decide
  have hopen : (outsideAt d).next mark = ⟨.quoted mark, d⟩ := by simp [outsideAt, next, Place.next, hm, hne.2.2]
  apply Leads.cons (Int.le_refl d) (.inl hne.2.1)
  rw [hopen]
  exact leads_closing hne.1 h d

theorem enclosed_quoted {s : List Char} (h : afterQuoted s = some []) : Enclosed s := by
  unfold afterQuoted at h
  split at h
  · exact enclosed_mark (.inl rfl) h
  · exact enclosed_mark (.inr rfl) h
  · cases h

theorem Atom.enclosed {s : List Char} (hs : Atom s) : Enclosed s := by
  have hafter := hs.afterAtom_append [] (by simp [Ends])
  rw [List.append_nil, afterAtom] at hafter
  cases hq : afterQuoted s with
  | some t =>
    rw [hq] at hafter
    exact enclosed_quoted (hq.trans (congrArg some hafter))
  | none =>
    rw [hq] at hafter
    apply enclosed_passed
    intro c hc
    exact isPassed_of_not_isDelimiter (List.dropWhile_eq_nil_iff.mp hafter c hc)

theorem enclosed_printKey {k : List Char} (hk : '\\' ∉ k) : Enclosed (printKey k) := by
  apply enclosed_quoted
  have hafter := afterQuoted_printKey hk []
  rwa [List.append_nil] at hafter

theorem enclosed_printItems {vs : List Json} (hvs : ∀ v ∈ vs, Enclosed (print v)) : Enclosed (printItems vs) := by
  induction vs with
  | nil => exact enclosed_passed nofun
  | cons v vs ih =>
    obtain ⟨hv, hvs⟩ := List.forall_mem_cons.mp hvs
    have hcomma : Enclosed [','] := enclosed_passed (by simp [IsPassed])
    exact hv.append (hcomma.append (ih hvs))

theorem enclosed_printEntries {ms : List (String × Json)} (hk : ∀ m ∈ ms, '\\' ∉ m.1.toList)
    (hv : ∀ m ∈ ms, Enclosed (print m.2)) : Enclosed (printEntries ms) := by
  induction ms with
  | nil => exact enclosed_passed nofun
  | cons m ms ih =>
    obtain ⟨hkm, hkms⟩ := List.forall_mem_cons.mp hk
    obtain ⟨hvm, hvms⟩ := List.forall_mem_cons.mp hv
    have hcolon : Enclosed [':', ' '] := enclosed_passed (by simp [IsPassed])
    have hcomma : Enclosed [','] := enclosed_passed (by simp [IsPassed])
    have heq := printEntries_cons m ms []
    rw [List.append_nil, List.append_nil] at heq
    rw [heq]
    exact (enclosed_printKey hkm).append (hcolon.append (hvm.append (hcomma.append (ih hkms hvms))))

theorem enclosed_print {v : Json} (hv : CleanKeys v) : Enclosed (print v) := by
  induction v with
  | arr vs ih =>
    rw [print]
    exact (enclosed_printItems fun v hm => ih v hm (hv.items v hm)).parentheses
  | obj ms ih =>
    rw [print]
    exact (enclosed_printEntries hv.members.1 fun m hm => ih m hm (hv.members.2 m hm)).parentheses
  | null | bool b | int n | float x | str s => exact Atom.enclosed (atom_print trivial)

theorem declaration_eq (m : String × Json) :
    declaration m = ['$'] ++ (m.1.toList ++ ([':', ' '] ++ print m.2)) ++ [';'] := by
  simp [declaration]

theorem leads_declaration {m : String × Json} (hm : Declarable m) :
    Leads 0 (outsideAt 0) (declaration m) (outsideAt 0) [(declaration m, 0)] := by
  have hdollar : Enclosed ['$'] := enclosed_passed (by simp [IsPassed])
  have hcolon : Enclosed [':', ' '] := enclosed_passed (by simp [IsPassed])
  have hvalue := hdollar.append ((atom_identifier hm.1).enclosed.append (hcolon.append (enclosed_print hm.2)))
  rw [declaration_eq]
  exact (hvalue 0).append (.semicolon (Int.le_refl 0))

def upTo (text : Members → List Char) (ms : Members) : List Stop :=
  (List.range ms.length).map fun k => (text (ms.take (k + 1)), 0)

theorem upTo_cons (text : Members → List Char) (m : String × Json) (ms : Members) :
    upTo text (m :: ms) = (text [m], 0) :: upTo (fun ns => text (m :: ns)) ms := by
  rw [upTo, List.length_cons, List.range_succ_eq_map, List.map_cons, List.map_map]
  rfl

theorem upTo_behind (s : List Char) (text : Members → List Char) (ms : Members) :
    (upTo text ms).map (behind s) = upTo (fun ns => s ++ text ns) ms := by
  rw [upTo, List.map_map]
  rfl

theorem leads_lines {ms : Members} (hms : ∀ m ∈ ms, Declarable m) :
    Leads 0 (outsideAt 0) (lines ms) (outsideAt 0) (upTo lines ms) := by
  induction ms with
  | nil => exact .nil (Int.le_refl 0)
  | cons m ms ih =>
    obtain ⟨hm, hms⟩ := List.forall_mem_cons.mp hms
    have hbreak : Enclosed ['\n'] := enclosed_passed (by simp [IsPassed])
    have hlines : (fun ns => lines (m :: ns)) = fun ns => ['\n'] ++ (declaration m ++ lines ns) :=
      funext fun ns => lines_cons m ns
    have hfirst : lines [m] = ['\n'] ++ declaration m := by simp [lines]
    rw [lines_cons, upTo_cons, hlines, hfirst, ← upTo_behind, ← upTo_behind]
    exact (hbreak 0).append ((leads_declaration hm).append (ih hms))

theorem printDeclarations_cons (m : String × Json) (ms : Members) :
    printDeclarations (m :: ms) = declaration m ++ lines ms := by
  have h := cons_printDeclarations m ms
  rw [lines_cons] at h
  exact (List.cons.inj h).2

theorem leads_printDeclarations {d : Members} (hd : ∀ m ∈ d, Declarable m) :
    Leads 0 (outsideAt 0) (printDeclarations d) (outsideAt 0) (upTo printDeclarations d) := by
  cases d with
  | nil => exact .nil (Int.le_refl 0)
  | cons m ms =>
    obtain ⟨hm, hms⟩ := List.forall_mem_cons.mp hd
    have hrest : (fun ns => printDeclarations (m :: ns)) = fun ns => declaration m ++ lines ns :=
      funext fun ns => printDeclarations_cons m ns
    rw [printDeclarations_cons, upTo_cons, hrest, ← upTo_behind]
    exact (leads_declaration hm).append (leads_lines hms)

theorem declaration_suffix (m : String × Json) (ms : Members) : declaration m <:+ printDeclarations (ms ++ [m]) := by
  cases ms with
  | nil => exact List.suffix_rfl
  | cons n ns =>
    have hlines : lines (ns ++ [m]) = lines ns ++ '\n' :: declaration m := by simp [lines]
    rw [List.cons_append, printDeclarations_cons, hlines]
    exact ((List.suffix_cons _ _).trans (List.suffix_append _ _)).trans (List.suffix_append _ _)

/-- Reading declarations never leaves more parentheses than were entered, and ends outside of quotation marks with
all of them left. The only semicolons met outside of quotation marks are those at the ends of the declarations, one for
each variable, and no parenthesis is open there. -/
theorem declarations_enclosed {d : Members} (hd : ∀ m ∈ d, Declarable m) :
    (∀ q ∈ (outsideAt 0).states (declarations d).toList, 0 ≤ q.depth) ∧
      (outsideAt 0).after (declarations d).toList = outsideAt 0 ∧
      (outsideAt 0).stops (declarations d).toList =
        (List.range d.length).map (fun k => ((declarations (d.take (k + 1))).toList, 0)) ∧
      ∀ k (hk : k < d.length), declaration d[k] <:+ (declarations (d.take (k + 1))).toList := by
  have htext : ∀ ms, (declarations ms).toList = printDeclarations ms := fun ms => String.toList_ofList
  simp only [htext]
  have hread := leads_printDeclarations hd
  refine ⟨hread.le_depth, hread.after_eq, hread.stops_eq, ?_⟩
  intro k hk
  rw [List.take_succ_eq_append_getElem hk]
  exact declaration_suffix _ _

def hostile : Members :=
  [("a", .obj [("it's (", .str "');\"(\\")]), ("b-c", .arr [.str "'\\');('", .str "\";)", .obj []])]

theorem declarations_enclosed_hostile :
    (∀ m ∈ hostile, Declarable m) ∧
      (outsideAt 0).stops (declarations hostile).toList =
        [((declarations (hostile.take 1)).toList, 0), ((declarations hostile).toList, 0)] := by
  have hmap : CleanKeys (.obj [("it's (", .str "');\"(\\")]) :=
    .map (List.forall_mem_singleton.mpr (by decide)) (List.forall_mem_singleton.mpr (.scalar trivial))
  have hlist : CleanKeys (.arr [.str "'\\');('", .str "\";)", .obj []]) :=
    .list (List.forall_mem_cons.mpr ⟨.scalar trivial, List.forall_mem_cons.mpr ⟨.scalar trivial,
      List.forall_mem_singleton.mpr (.map nofun nofun)⟩⟩)
  have hdeclarable : ∀ m ∈ hostile, Declarable m :=
    List.forall_mem_cons.mpr ⟨⟨by decide, hmap⟩, List.forall_mem_singleton.mpr ⟨by decide, hlist⟩⟩
  exact ⟨hdeclarable, (declarations_enclosed hdeclarable).2.2.1⟩

end SassData.Scss
