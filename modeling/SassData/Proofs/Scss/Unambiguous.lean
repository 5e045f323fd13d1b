import SassData.Proofs.Scss.Atoms

/-!
Style sheet source is unambiguous: the text of a value tells the value, up to what cannot be seen in it.
-/

namespace SassData.Scss

def IsEmpty (v : Json) : Prop :=
  v = .arr [] ∨ v = .obj []

inductive Same : Json → Json → Prop
  | scalar {v w : Json} (hv : IsScalar v) (hw : IsScalar w) (h : print v = print w) : Same v w
  | list {vs ws : List Json} (hne : vs ≠ []) (h : List.Forall₂ Same vs ws) : Same (.arr vs) (.arr ws)
  | map {ms ns : List (String × Json)} (hne : ms ≠ []) (hk : ms.map Prod.fst = ns.map Prod.fst)
      (hv : List.Forall₂ (fun m n => Same m.2 n.2) ms ns) : Same (.obj ms) (.obj ns)
  | empty {v w : Json} (hv : IsEmpty v) (hw : IsEmpty w) : Same v w

def SameMembers (ms ns : List (String × Json)) : Prop :=
  ms.map Prod.fst = ns.map Prod.fst ∧ List.Forall₂ (fun m n => Same m.2 n.2) ms ns

theorem SameMembers.cons {m n : String × Json} {ms ns : List (String × Json)} (hk : m.1 = n.1)
    (hv : Same m.2 n.2) (h : SameMembers ms ns) : SameMembers (m :: ms) (n :: ns) :=
  ⟨by rw [List.map_cons, List.map_cons, hk, h.1], .cons hv h.2⟩

inductive CleanKeys : Json → Prop
  | scalar {v : Json} (hv : IsScalar v) : CleanKeys v
  | list {vs : List Json} (h : ∀ v ∈ vs, CleanKeys v) : CleanKeys (.arr vs)
  | map {ms : List (String × Json)} (hk : ∀ m ∈ ms, '\\' ∉ m.1.toList) (hv : ∀ m ∈ ms, CleanKeys m.2) :
      CleanKeys (.obj ms)

def Tells (v : Json) : Prop :=
  ∀ w r r', CleanKeys w → Ends r → Ends r' → print v ++ r = print w ++ r' → Same v w ∧ r = r'

theorem ends_cons {c : Char} (hc : isDelimiter c) (cs : List Char) : Ends (c :: cs) := by
  intro d hd
  cases hd
  exact hc

theorem Atom.append_ne_bracket {s : List Char} (hs : Atom s) {c : Char} (hc : c = '(' ∨ c = ')') (r cs : List Char) :
    s ++ r ≠ c :: cs := by
  obtain ⟨d, ds, rfl, hopen, hclose⟩ := hs.begins
  intro h
  obtain ⟨rfl, -⟩ := List.cons.inj h
  exact hc.elim hopen hclose

theorem print_open {v : Json} (hv : ¬ IsScalar v) : ∃ cs, print v = '(' :: cs := by
  cases v with
  | arr items => exact ⟨_, by rw [print]; rfl⟩
  | obj members => exact ⟨_, by rw [print]; rfl⟩
  | _ => exact absurd trivial hv

theorem print_append_ne_close (v : Json) (r cs : List Char) : print v ++ r ≠ ')' :: cs := by
  by_cases hv : IsScalar v
  · exact (atom_print hv).append_ne_bracket (.inr rfl) r cs
  · obtain ⟨ds, hds⟩ := print_open hv
    simp [hds]

theorem print_append_ne_key (v : Json) {k : List Char} (hk : '\\' ∉ k) (r cs : List Char) :
    print v ++ ',' :: r ≠ printKey k ++ ':' :: cs := by
  intro h
  by_cases hv : IsScalar v
  · have hafter := (atom_print hv).afterAtom_append (',' :: r) (ends_cons (by decide) r)
    rw [h, afterAtom, afterQuoted_printKey hk] at hafter
    simp at hafter
  · obtain ⟨ds, hds⟩ := print_open hv
    simp [hds, printKey] at h

theorem print_list_append (vs : List Json) (r : List Char) :
    print (.arr vs) ++ r = '(' :: (printItems vs ++ ')' :: r) := by
  simp [print]

theorem print_map_append (ms : List (String × Json)) (r : List Char) :
    print (.obj ms) ++ r = '(' :: (printEntries ms ++ ')' :: r) := by
  simp [print]

theorem printItems_cons (v : Json) (vs : List Json) (r : List Char) :
    printItems (v :: vs) ++ r = print v ++ ',' :: (printItems vs ++ r) := by
  rw [printItems, List.append_assoc, List.cons_append]

theorem printEntries_cons (m : String × Json) (ms : List (String × Json)) (r : List Char) :
    printEntries (m :: ms) ++ r =
      printKey m.1.toList ++ ':' :: ' ' :: (print m.2 ++ ',' :: (printEntries ms ++ r)) := by
  rw [printEntries]
  simp only [List.append_assoc, List.cons_append]

theorem printItems_append_inj {vs ws : List Json} {r r' : List Char} (ht : ∀ v ∈ vs, Tells v)
    (hc : ∀ w ∈ ws, CleanKeys w) (h : printItems vs ++ ')' :: r = printItems ws ++ ')' :: r') :
    List.Forall₂ Same vs ws ∧ r = r' := by
  induction vs generalizing ws with
  | nil =>
    cases ws with
    | nil => exact ⟨.nil, (List.cons.inj h).2⟩
    | cons w ws =>
      rw [printItems_cons] at h
      exact absurd h.symm (print_append_ne_close w _ _)
  | cons v vs ih =>
    obtain ⟨hv, hvs⟩ := List.forall_mem_cons.mp ht
    rw [printItems_cons] at h
    cases ws with
    | nil => exact absurd h (print_append_ne_close v _ _)
    | cons w ws =>
      obtain ⟨hw, hws⟩ := List.forall_mem_cons.mp hc
      rw [printItems_cons] at h
      obtain ⟨hs, he⟩ := hv w _ _ hw (ends_cons (by decide) _) (ends_cons (by decide) _) h
      obtain ⟨hss, hr⟩ := ih hvs hws (List.cons.inj he).2
      exact ⟨.cons hs hss, hr⟩

theorem printEntries_append_inj {ms ns : List (String × Json)} {r r' : List Char} (ht : ∀ m ∈ ms, Tells m.2)
    (hk : ∀ m ∈ ms, '\\' ∉ m.1.toList) (hl : ∀ n ∈ ns, '\\' ∉ n.1.toList) (hc : ∀ n ∈ ns, CleanKeys n.2)
    (h : printEntries ms ++ ')' :: r = printEntries ns ++ ')' :: r') : SameMembers ms ns ∧ r = r' := by
  induction ms generalizing ns with
  | nil =>
    cases ns with
    | nil => exact ⟨⟨rfl, .nil⟩, (List.cons.inj h).2⟩
    | cons n ns => simp [printEntries, printKey] at h
  | cons m ms ih =>
    obtain ⟨hm, hms⟩ := List.forall_mem_cons.mp ht
    obtain ⟨hkm, hkms⟩ := List.forall_mem_cons.mp hk
    cases ns with
    | nil => simp [printEntries, printKey] at h
    | cons n ns =>
      obtain ⟨hn, hns⟩ := List.forall_mem_cons.mp hc
      obtain ⟨hln, hlns⟩ := List.forall_mem_cons.mp hl
      rw [printEntries_cons, printEntries_cons] at h
      obtain ⟨hkey, he⟩ := printKey_append_inj hkm hln h
      simp only [List.cons.injEq, true_and] at he
      obtain ⟨hs, he⟩ := hm n.2 _ _ hn (ends_cons (by decide) _) (ends_cons (by decide) _) he
      obtain ⟨hss, hr⟩ := ih hms hkms hlns hns (List.cons.inj he).2
      exact ⟨hss.cons (String.toList_inj.mp hkey) hs, hr⟩

theorem printItems_append_printEntries {vs : List Json} {ms : List (String × Json)} {r r' : List Char}
    (hk : ∀ m ∈ ms, '\\' ∉ m.1.toList) (h : printItems vs ++ ')' :: r = printEntries ms ++ ')' :: r') :
    vs = [] ∧ ms = [] ∧ r = r' := by
  cases vs with
  | nil =>
    cases ms with
    | nil => exact ⟨rfl, rfl, (List.cons.inj h).2⟩
    | cons m ms => simp [printItems, printEntries, printKey] at h
  | cons v vs =>
    rw [printItems_cons] at h
    cases ms with
    | nil => exact absurd h (print_append_ne_close v _ _)
    | cons m ms =>
      rw [printEntries_cons] at h
      exact absurd h (print_append_ne_key v (hk m (by simp)) _ _)

theorem CleanKeys.items {vs : List Json} (h : CleanKeys (.arr vs)) : ∀ v ∈ vs, CleanKeys v := by
  cases h with
  | scalar hv => exact hv.elim
  | list h => exact h

theorem CleanKeys.members {ms : List (String × Json)} (h : CleanKeys (.obj ms)) :
    (∀ m ∈ ms, '\\' ∉ m.1.toList) ∧ ∀ m ∈ ms, CleanKeys m.2 := by
  cases h with
  | scalar hv => exact hv.elim
  | map hk hv => exact ⟨hk, hv⟩

theorem tells_scalar {v : Json} (hv : IsScalar v) : Tells v := by
  intro w r r' _ hr hr' h
  by_cases hw : IsScalar w
  · obtain ⟨he, hrest⟩ := (atom_print hv).append_inj (atom_print hw) hr hr' h
    exact ⟨.scalar hv hw he, hrest⟩
  · obtain ⟨cs, hcs⟩ := print_open hw
    rw [hcs] at h
    exact absurd h ((atom_print hv).append_ne_bracket (.inl rfl) _ _)

theorem scalar_append_ne_open {w : Json} (hw : IsScalar w) (r cs : List Char) : '(' :: cs ≠ print w ++ r :=
  Ne.symm ((atom_print hw).append_ne_bracket (.inl rfl) r cs)

theorem tells_list {vs : List Json} (ht : ∀ v ∈ vs, Tells v) : Tells (.arr vs) := by
  intro w r r' hc hr hr' h
  rw [print_list_append] at h
  by_cases hw : IsScalar w
  · exact absurd h (scalar_append_ne_open hw _ _)
  · cases w with
    | arr ws =>
      rw [print_list_append] at h
      obtain ⟨hs, he⟩ := printItems_append_inj ht hc.items (List.cons.inj h).2
      refine ⟨?_, he⟩
      cases hs with
      | nil => exact .empty (.inl rfl) (.inl rfl)
      | cons hs hss => exact .list (List.cons_ne_nil _ _) (.cons hs hss)
    | obj ns =>
      rw [print_map_append] at h
      obtain ⟨rfl, rfl, he⟩ := printItems_append_printEntries hc.members.1 (List.cons.inj h).2
      exact ⟨.empty (.inl rfl) (.inr rfl), he⟩
    | _ => exact absurd trivial hw

theorem tells_map {ms : List (String × Json)} (hk : ∀ m ∈ ms, '\\' ∉ m.1.toList) (ht : ∀ m ∈ ms, Tells m.2) :
    Tells (.obj ms) := by
  intro w r r' hc hr hr' h
  rw [print_map_append] at h
  by_cases hw : IsScalar w
  · exact absurd h (scalar_append_ne_open hw _ _)
  · cases w with
    | arr ws =>
      rw [print_list_append] at h
      obtain ⟨rfl, rfl, he⟩ := printItems_append_printEntries hk (List.cons.inj h).2.symm
      exact ⟨.empty (.inr rfl) (.inl rfl), he.symm⟩
    | obj ns =>
      rw [print_map_append] at h
      obtain ⟨hs, he⟩ := printEntries_append_inj ht hk hc.members.1 hc.members.2 (List.cons.inj h).2
      refine ⟨?_, he⟩
      by_cases hne : ms = []
      · subst hne
        cases hs.2
        exact .empty (.inr rfl) (.inr rfl)
      · exact .map hne hs.1 hs.2
    | _ => exact absurd trivial hw

theorem tells (v : Json) (hv : CleanKeys v) : Tells v := by
  -- What follows is arbitrary in `Tells`, so that each entry may be followed by all the others.
  induction v with
  | arr vs ih => exact tells_list fun v hv' => ih v hv' (hv.items v hv')
  | obj ms ih => exact tells_map hv.members.1 fun m hm => ih m hm (hv.members.2 m hm)
  | _ => exact tells_scalar trivial

theorem printItems_congr {vs ws : List Json} (h : List.Forall₂ Same vs ws)
    (hp : ∀ v ∈ vs, ∀ w, Same v w → print v = print w) : printItems vs = printItems ws := by
  induction h with
  | nil => rfl
  | @cons v w vs ws hs _ ih =>
    obtain ⟨hv, hvs⟩ := List.forall_mem_cons.mp hp
    rw [printItems, printItems, hv w hs, ih hvs]

theorem printEntries_congr {ms ns : List (String × Json)} (h : SameMembers ms ns)
    (hp : ∀ m ∈ ms, ∀ w, Same m.2 w → print m.2 = print w) : printEntries ms = printEntries ns := by
  obtain ⟨hk, hv⟩ := h
  induction hv with
  | nil => rfl
  | @cons m n ms ns hs _ ih =>
    obtain ⟨hm, hms⟩ := List.forall_mem_cons.mp hp
    obtain ⟨hkey, hkeys⟩ := List.cons.inj hk
    rw [printEntries, printEntries, hm n.2 hs, hkey, ih hms hkeys]

theorem print_of_isEmpty {v : Json} (hv : IsEmpty v) : print v = ['(', ')'] := by
  obtain rfl | rfl := hv <;> rfl

theorem print_congr {v w : Json} (h : Same v w) : print v = print w := by
  induction v generalizing w with
  | arr vs ih =>
    cases h with
    | scalar hv => exact hv.elim
    | list _ hs => rw [print, print, printItems_congr hs fun v hv w => ih v hv]
    | empty hv hw => rw [print_of_isEmpty hv, print_of_isEmpty hw]
  | obj ms ih =>
    cases h with
    | scalar hv => exact hv.elim
    | map _ hk hs => rw [print, print, printEntries_congr ⟨hk, hs⟩ fun m hm w => ih m hm]
    | empty hv hw => rw [print_of_isEmpty hv, print_of_isEmpty hw]
  | _ =>
    cases h with
    | scalar _ _ hp => exact hp
    | empty hv hw => rw [print_of_isEmpty hv, print_of_isEmpty hw]

theorem print_eq_iff {v w : Json} (hv : CleanKeys v) (hw : CleanKeys w) : print v = print w ↔ Same v w := by
  constructor
  · intro h
    exact (tells v hv w [] [] hw (by simp [Ends]) (by simp [Ends]) (by rw [h])).1
  · exact print_congr

def Declarable (m : String × Json) : Prop :=
  afterIdentifier m.1.toList = some [] ∧ CleanKeys m.2

theorem declaration_append_inj {m n : String × Json} {r r' : List Char} (hm : Declarable m) (hn : Declarable n)
    (h : declaration m ++ r = declaration n ++ r') : m.1 = n.1 ∧ Same m.2 n.2 ∧ r = r' := by
  simp only [declaration, List.append_assoc, List.cons_append, List.nil_append] at h
  obtain ⟨hkey, he⟩ := (atom_identifier hm.1).append_inj (atom_identifier hn.1) (ends_cons (by decide) _)
    (ends_cons (by decide) _) (List.cons.inj h).2
  simp only [List.cons.injEq, true_and] at he
  obtain ⟨hs, he⟩ := tells m.2 hm.2 n.2 _ _ hn.2 (ends_cons (by decide) _) (ends_cons (by decide) _) he
  exact ⟨String.toList_inj.mp hkey, hs, (List.cons.inj he).2⟩

def lines (ms : Members) : List Char :=
  ms.flatMap ('\n' :: declaration ·)

theorem lines_cons (m : String × Json) (ms : Members) : lines (m :: ms) = '\n' :: (declaration m ++ lines ms) := by
  simp [lines]

theorem cons_printDeclarations (m : String × Json) (ms : Members) :
    '\n' :: printDeclarations (m :: ms) = lines (m :: ms) := by
  rw [printDeclarations, List.map_cons, Text.glue_cons, lines_cons, List.flatMap_map]
  rfl

theorem sameMembers_of_lines {d e : Members} (hd : ∀ m ∈ d, Declarable m) (he : ∀ m ∈ e, Declarable m)
    (h : lines d = lines e) : SameMembers d e := by
  induction d generalizing e with
  | nil =>
    cases e with
    | nil => exact ⟨rfl, .nil⟩
    | cons n e =>
      rw [lines_cons] at h
      cases h
  | cons m d ih =>
    cases e with
    | nil =>
      rw [lines_cons] at h
      cases h
    | cons n e =>
      obtain ⟨hm, hd⟩ := List.forall_mem_cons.mp hd
      obtain ⟨hn, he⟩ := List.forall_mem_cons.mp he
      rw [lines_cons, lines_cons] at h
      obtain ⟨hkey, hs, hrest⟩ := declaration_append_inj hm hn (List.cons.inj h).2
      exact (ih hd he hrest).cons hkey hs

theorem map_declaration_congr {d e : Members} (h : SameMembers d e) : d.map declaration = e.map declaration := by
  obtain ⟨hk, hv⟩ := h
  induction hv with
  | nil => rfl
  | @cons m n d e hs _ ih =>
    obtain ⟨hkey, hkeys⟩ := List.cons.inj hk
    rw [List.map_cons, List.map_cons, ih hkeys, declaration, declaration, hkey, print_congr hs]

theorem printDeclarations_eq_iff {d e : Members} (hd : ∀ m ∈ d, Declarable m) (he : ∀ m ∈ e, Declarable m) :
    printDeclarations d = printDeclarations e ↔ SameMembers d e := by
  constructor
  · intro h
    cases d with
    | nil =>
      cases e with
      | nil => exact ⟨rfl, .nil⟩
      | cons n e =>
        have hn := cons_printDeclarations n e
        rw [← h, lines_cons] at hn
        cases hn
    | cons m d =>
      cases e with
      | nil =>
        have hm := cons_printDeclarations m d
        rw [h, lines_cons] at hm
        cases hm
      | cons n e =>
        apply sameMembers_of_lines hd he
        rw [← cons_printDeclarations, ← cons_printDeclarations, h]
  · intro h
    rw [printDeclarations, printDeclarations, map_declaration_congr h]

/-- The text of a value tells the value, and the text of the declarations tells the variables and their values. -/
theorem source_eq_iff :
    (∀ v w : Json, CleanKeys v → CleanKeys w → (literal v = literal w ↔ Same v w)) ∧
      ∀ d e : Members, (∀ m ∈ d, Declarable m) → (∀ m ∈ e, Declarable m) →
        (declarations d = declarations e ↔ SameMembers d e) := by
  constructor
  · intro v w hv hw
    rw [literal, literal, String.ofList_inj]
    exact print_eq_iff hv hw
  · intro d e hd he
    rw [declarations, declarations, String.ofList_inj]
    exact printDeclarations_eq_iff hd he

def quotedList : Json := .arr [.str "'it'", .obj []]

def quotedMap : Json := .obj [("it", .arr [])]

theorem cleanKeys_quotedList : CleanKeys quotedList :=
  .list (List.forall_mem_cons.mpr ⟨.scalar trivial, List.forall_mem_singleton.mpr (.map nofun nofun)⟩)

theorem cleanKeys_quotedMap : CleanKeys quotedMap :=
  .map (List.forall_mem_singleton.mpr (by decide)) (List.forall_mem_singleton.mpr (.list nofun))

theorem source_eq_iff_quoted :
    (CleanKeys quotedList ∧ CleanKeys quotedMap ∧ literal quotedList ≠ literal quotedMap) ∧
      (∀ m ∈ [("a-b", quotedList)], Declarable m) ∧
        declarations [("a-b", quotedList)] = declarations [("a-b", .arr [.str "'it'", .arr []])] := by
  have hlist : ∀ m ∈ [("a-b", quotedList)], Declarable m :=
    List.forall_mem_singleton.mpr ⟨by decide, cleanKeys_quotedList⟩
  have hempty : ∀ m ∈ [("a-b", Json.arr [.str "'it'", .arr []])], Declarable m :=
    List.forall_mem_singleton.mpr ⟨by decide, .list (List.forall_mem_cons.mpr
      ⟨.scalar trivial, List.forall_mem_singleton.mpr (.list nofun)⟩)⟩
  refine ⟨⟨cleanKeys_quotedList, cleanKeys_quotedMap, fun h => ?_⟩, hlist, ?_⟩
  · have hs := (source_eq_iff.1 _ _ cleanKeys_quotedList cleanKeys_quotedMap).mp h
    cases hs with
    | scalar hv => exact hv
    | empty hv => simp [IsEmpty, quotedList] at hv
  · have hitems : List.Forall₂ Same [.str "'it'", .obj []] [.str "'it'", .arr []] :=
      .cons (.scalar trivial trivial rfl) (.cons (.empty (.inr rfl) (.inl rfl)) .nil)
    exact (source_eq_iff.2 _ _ hlist hempty).mpr ⟨rfl, .cons (.list (List.cons_ne_nil _ _) hitems) .nil⟩

end SassData.Scss
