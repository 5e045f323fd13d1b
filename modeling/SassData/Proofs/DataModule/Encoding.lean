import Mathlib.Data.List.Forall2
import Mathlib.Order.MinMax
import SassData.DataModule.Encode
import SassData.Proofs.Json.Nesting

namespace SassData.Value

def IsKey : Value → Prop
  | .null | .bool _ | .str _ => True
  | .int n => fitsDigits n
  | .float x => x.isFinite
  | _ => False

inductive Faulty : Value → Prop
  | bytes (s : String) : Faulty (.bytes s)
  | foreign (name : String) : Faulty (.foreign name)
  | coroutine (prints : List Print) (thrown : Option Thrown) (result : Value) :
      Faulty (.coroutine prints thrown result)
  | enclosing (level : Nat) : Faulty (.enclosing level)
  | digits {n : Int} (hn : fitsDigits n = false) : Faulty (.int n)
  | notFinite {x : Binary64} (hx : x.isFinite = false) : Faulty (.float x)
  | item {v : Value} {items : List Value} (hm : v ∈ items) (hv : Faulty v) : Faulty (.list items)
  | element {v : Value} {items : List Value} (hm : v ∈ items) (hv : Faulty v) : Faulty (.tuple items)
  | key {e : Value × Value} {entries : List (Value × Value)} (hm : e ∈ entries) (hk : ¬ e.1.IsKey) :
      Faulty (.dict entries)
  | value {e : Value × Value} {entries : List (Value × Value)} (hm : e ∈ entries) (hv : Faulty e.2) :
      Faulty (.dict entries)

mutual

def depth : Value → Nat
  | .list items => depthOfItems items + 1
  | .tuple items => depthOfItems items + 1
  | .dict entries => depthOfEntries entries + 1
  | _ => 0

def depthOfItems : List Value → Nat
  | [] => 0
  | v :: vs => max (depth v) (depthOfItems vs)

def depthOfEntries : List (Value × Value) → Nat
  | [] => 0
  | (_, v) :: es => max (depth v) (depthOfEntries es)

end

inductive KeyText : Value → String → Prop
  | null : KeyText .null "null"
  | true : KeyText (.bool true) "true"
  | false : KeyText (.bool false) "false"
  | int {n : Int} (hn : fitsDigits n) : KeyText (.int n) (toString n)
  | float {x : Binary64} (hx : x.isFinite) : KeyText (.float x) (String.ofList (x.text Json.words))
  | str (s : String) : KeyText (.str s) s

/-- The JSON value that stands for a value. -/
inductive Stands : Value → Json → Prop
  | null : Stands .null .null
  | bool (b : Bool) : Stands (.bool b) (.bool b)
  | int {n : Int} (hn : fitsDigits n) : Stands (.int n) (.int n)
  | float {x : Binary64} (hx : x.isFinite) : Stands (.float x) (.float x)
  | str (s : String) : Stands (.str s) (.str s)
  | list {vs : List Value} {js : List Json} (h : List.Forall₂ Stands vs js) : Stands (.list vs) (.arr js)
  | tuple {vs : List Value} {js : List Json} (h : List.Forall₂ Stands vs js) : Stands (.tuple vs) (.arr js)
  | dict {es : List (Value × Value)} {ms : Members} (hk : List.Forall₂ (fun e m => KeyText e.1 m.1) es ms)
      (h : List.Forall₂ (fun e m => Stands e.2 m.2) es ms) : Stands (.dict es) (.obj ms)

def Encodes (v : Value) : Prop :=
  ∀ n, match v.toJson exportRules n with
    | .ok j => v.Stands j ∧ v.depth ≤ n
    | .error _ => v.Faulty ∨ n < v.depth

theorem writeInt_eq (n : Int) : Json.writeInt n = (toString n).toList := by
  rw [Int.toString_eq_repr, Int.repr_eq_if, Json.writeInt]
  by_cases hn : n < 0
  · have hneg : ¬ 0 ≤ n := by omega
    have habs : n.natAbs = (-n).toNat := by omega
    simp [hn, hneg, habs, Nat.toList_repr]
  · have hpos : 0 ≤ n := by omega
    have habs : n.natAbs = n.toNat := by omega
    simp [hn, hpos, habs, Nat.toList_repr]

theorem jsonKey_text (k : Value) :
    match jsonKey k with
    | .ok s => k.KeyText (String.ofList s)
    | .error _ => ¬ k.IsKey := by
  cases k with
  | null => exact .null
  | bool b =>
    cases b with
    | true => exact .true
    | false => exact .false
  | int n =>
    cases h : fitsDigits n with
    | true =>
      simp only [jsonKey, intText, limited, h, if_true, Except.map]
      rw [writeInt_eq, String.ofList_toList]
      exact .int h
    | false => simp [jsonKey, intText, limited, h, Except.map, IsKey]
  | float x =>
    cases h : x.isFinite with
    | true =>
      simp only [jsonKey, h, if_true]
      exact .float h
    | false => simp [jsonKey, h, IsKey]
  | str s =>
    simp only [jsonKey, String.ofList_toList]
    exact .str s
  | _ => simp [jsonKey, IsKey]

theorem KeyText.isKey {k : Value} {s : String} (h : k.KeyText s) : k.IsKey := by
  cases h with
  | int hn => exact hn
  | float hx => exact hx
  | _ => trivial

theorem itemsToJson_encodes {vs : List Value} (hvs : ∀ v ∈ vs, v.Encodes) (n : Nat) :
    match itemsToJson exportRules n vs with
    | .ok js => List.Forall₂ Stands vs js ∧ depthOfItems vs ≤ n
    | .error _ => (∃ v ∈ vs, v.Faulty) ∨ n < depthOfItems vs := by
  induction vs with
  | nil => exact ⟨.nil, Nat.zero_le n⟩
  | cons v vs ih =>
    obtain ⟨hv, hvs⟩ := List.forall_mem_cons.mp hvs
    have hv := hv n
    have htail := ih hvs
    rw [itemsToJson, depthOfItems]
    cases h1 : v.toJson exportRules n with
    | error f =>
      rw [h1] at hv
      exact hv.imp (fun hf => ⟨v, by simp, hf⟩) fun hd => lt_max_of_lt_left hd
    | ok j =>
      rw [h1] at hv
      cases h2 : itemsToJson exportRules n vs with
      | error f =>
        rw [h2] at htail
        exact htail.imp (fun ⟨u, hu, hf⟩ => ⟨u, by simp [hu], hf⟩) fun hd => lt_max_of_lt_right hd
      | ok js =>
        rw [h2] at htail
        exact ⟨.cons hv.1 htail.1, max_le hv.2 htail.2⟩

theorem entriesToJson_encodes {es : List (Value × Value)} (hes : ∀ e ∈ es, e.2.Encodes) (n : Nat) :
    match entriesToJson exportRules n es with
    | .ok ms => (List.Forall₂ (fun e m => KeyText e.1 m.1) es ms ∧ List.Forall₂ (fun e m => Stands e.2 m.2) es ms) ∧
        depthOfEntries es ≤ n
    | .error _ => (∃ e ∈ es, ¬ e.1.IsKey ∨ e.2.Faulty) ∨ n < depthOfEntries es := by
  induction es with
  | nil => exact ⟨⟨.nil, .nil⟩, Nat.zero_le n⟩
  | cons e es ih =>
    obtain ⟨k, v⟩ := e
    obtain ⟨hv, hes⟩ := List.forall_mem_cons.mp hes
    have hv : match v.toJson exportRules n with
      | .ok j => v.Stands j ∧ v.depth ≤ n
      | .error _ => v.Faulty ∨ n < v.depth := hv n
    have htail := ih hes
    have hkey := jsonKey_text k
    have hrule : exportRules.key k = jsonKey k := rfl
    rw [entriesToJson, depthOfEntries, hrule]
    cases h0 : jsonKey k with
    | error f =>
      rw [h0] at hkey
      exact .inl ⟨(k, v), by simp, .inl hkey⟩
    | ok s =>
      rw [h0] at hkey
      cases h1 : v.toJson exportRules n with
      | error f =>
        rw [h1] at hv
        exact hv.imp (fun hf => ⟨(k, v), by simp, .inr hf⟩) fun hd => lt_max_of_lt_left hd
      | ok j =>
        rw [h1] at hv
        cases h2 : entriesToJson exportRules n es with
        | error f =>
          rw [h2] at htail
          exact htail.imp (fun ⟨u, hu, hf⟩ => ⟨u, by simp [hu], hf⟩) fun hd => lt_max_of_lt_right hd
        | ok ms =>
          rw [h2] at htail
          exact ⟨⟨.cons hkey htail.1.1, .cons hv.1 htail.1.2⟩, max_le hv.2 htail.2⟩

theorem faulty_list_iff {items : List Value} : Faulty (.list items) ↔ ∃ v ∈ items, v.Faulty := by
  constructor
  · intro h
    cases h with
    | item hm hv => exact ⟨_, hm, hv⟩
  · rintro ⟨v, hm, hv⟩
    exact .item hm hv

theorem faulty_tuple_iff {items : List Value} : Faulty (.tuple items) ↔ ∃ v ∈ items, v.Faulty := by
  constructor
  · intro h
    cases h with
    | element hm hv => exact ⟨_, hm, hv⟩
  · rintro ⟨v, hm, hv⟩
    exact .element hm hv

theorem faulty_dict_iff {entries : List (Value × Value)} :
    Faulty (.dict entries) ↔ ∃ e ∈ entries, ¬ e.1.IsKey ∨ e.2.Faulty := by
  constructor
  · intro h
    cases h with
    | key hm hk => exact ⟨_, hm, .inl hk⟩
    | value hm hv => exact ⟨_, hm, .inr hv⟩
  · rintro ⟨e, hm, hk | hv⟩
    · exact .key hm hk
    · exact .value hm hv

theorem enter_scalar {v : Value} (hv : exportCalls v = 0) (n : Nat) : exportRules.enter n v = .ok n := by
  have hcalls : exportRules.calls v = 0 := hv
  rw [Rules.enter, hcalls, if_pos (Nat.zero_le n), Nat.sub_zero]

theorem enter_container {v : Value} (hv : exportCalls v = 1) (n : Nat) :
    exportRules.enter n v = if n = 0 then .error (.tooDeep (exportPlace v)) else .ok (n - 1) := by
  have hcalls : exportRules.calls v = 1 := hv
  rw [Rules.enter, hcalls]
  split_ifs
  all_goals first | rfl | omega

theorem encodes_faulty {v : Value} (hv : v.Faulty) (herror : ∀ n, ∃ f, v.toJson exportRules n = .error f) :
    v.Encodes := by
  intro n
  obtain ⟨f, hf⟩ := herror n
  rw [hf]
  exact .inl hv

theorem encodes_scalar {v : Value} {j : Json} (hv : v.Stands j) (hdepth : v.depth = 0)
    (hj : ∀ n, v.toJson exportRules n = .ok j) : v.Encodes := by
  intro n
  rw [hj]
  exact ⟨hv, by omega⟩

theorem encodes_sequence {v : Value} {items : List Value} (hcalls : exportCalls v = 1)
    (hj : ∀ n, v.toJson exportRules n =
      (exportRules.enter n v).bind fun n => (itemsToJson exportRules n items).map .arr)
    (hdepth : v.depth = depthOfItems items + 1) (hf : v.Faulty ↔ ∃ u ∈ items, u.Faulty)
    (hs : ∀ js, List.Forall₂ Stands items js → v.Stands (.arr js)) (hitems : ∀ u ∈ items, u.Encodes) : v.Encodes := by
  intro n
  rw [hj, enter_container hcalls, hdepth]
  cases n with
  | zero => exact .inr (Nat.succ_pos _)
  | succ n =>
    have h := itemsToJson_encodes hitems n
    rw [if_neg (Nat.succ_ne_zero n), Nat.add_sub_cancel]
    change match (itemsToJson exportRules n items).map Json.arr with
      | .ok j => v.Stands j ∧ depthOfItems items + 1 ≤ n + 1
      | .error _ => v.Faulty ∨ n + 1 < depthOfItems items + 1
    cases hi : itemsToJson exportRules n items with
    | error f =>
      rw [hi] at h
      exact h.imp hf.mpr Nat.succ_lt_succ
    | ok js =>
      rw [hi] at h
      exact ⟨hs js h.1, Nat.succ_le_succ h.2⟩

theorem encodes_dict {entries : List (Value × Value)} (hentries : ∀ e ∈ entries, e.2.Encodes) :
    (Value.dict entries).Encodes := by
  intro n
  have hj : (Value.dict entries).toJson exportRules n =
      (exportRules.enter n (.dict entries)).bind fun n => (entriesToJson exportRules n entries).map .obj := by
    rw [toJson]
    rfl
  rw [hj, enter_container rfl, depth]
  cases n with
  | zero => exact .inr (Nat.succ_pos _)
  | succ n =>
    have h := entriesToJson_encodes hentries n
    rw [if_neg (Nat.succ_ne_zero n), Nat.add_sub_cancel]
    change match (entriesToJson exportRules n entries).map Json.obj with
      | .ok j => (Value.dict entries).Stands j ∧ depthOfEntries entries + 1 ≤ n + 1
      | .error _ => (Value.dict entries).Faulty ∨ n + 1 < depthOfEntries entries + 1
    cases hi : entriesToJson exportRules n entries with
    | error f =>
      rw [hi] at h
      exact h.imp faulty_dict_iff.mpr Nat.succ_lt_succ
    | ok ms =>
      rw [hi] at h
      exact ⟨.dict h.1.1 h.1.2, Nat.succ_le_succ h.2⟩

theorem encodes_int (n : Int) : (Value.int n).Encodes := by
  have hj : ∀ room, (Value.int n).toJson exportRules room = (limited n).map .int := by
    intro room
    rw [toJson, enter_scalar rfl]
    rfl
  cases h : fitsDigits n with
  | true =>
    apply encodes_scalar (.int h) rfl
    intro room
    rw [hj, limited, if_pos h]
    rfl
  | false =>
    apply encodes_faulty (.digits h)
    intro room
    rw [hj, limited, if_neg (by simp [h])]
    exact ⟨_, rfl⟩

theorem encodes_float (x : Binary64) : (Value.float x).Encodes := by
  have hj : ∀ room, (Value.float x).toJson exportRules room =
      if !x.isFinite then .error .outOfRange else .ok (.float x) := by
    intro room
    rw [toJson, enter_scalar rfl]
    rfl
  cases h : x.isFinite with
  | true =>
    apply encodes_scalar (.float h) rfl
    intro room
    rw [hj, h]
    rfl
  | false =>
    apply encodes_faulty (.notFinite h)
    intro room
    rw [hj, h]
    exact ⟨_, rfl⟩

theorem toJson_unsupported {v : Value} {f : Fault}
    (hj : ∀ n, v.toJson exportRules n = (exportRules.enter n v).bind fun _ => .error f) (n : Nat) :
    ∃ f, v.toJson exportRules n = .error f := by
  rw [hj]
  cases exportRules.enter n v with
  | error f => exact ⟨f, rfl⟩
  | ok n => exact ⟨f, rfl⟩

theorem encodes (v : Value) : v.Encodes := by
  induction v with
  | null => exact encodes_scalar .null rfl fun _ => rfl
  | bool b => exact encodes_scalar (.bool b) rfl fun _ => rfl
  | str s => exact encodes_scalar (.str s) rfl fun _ => rfl
  | int n => exact encodes_int n
  | float x => exact encodes_float x
  | bytes s => exact encodes_faulty (.bytes s) (toJson_unsupported fun _ => rfl)
  | foreign name => exact encodes_faulty (.foreign name) (toJson_unsupported fun _ => rfl)
  | enclosing level => exact encodes_faulty (.enclosing level) (toJson_unsupported fun _ => rfl)
  | coroutine prints thrown result _ =>
    exact encodes_faulty (.coroutine prints thrown result) (toJson_unsupported fun _ => rfl)
  | list items ih =>
    exact encodes_sequence rfl (fun _ => by rw [toJson]; rfl) (by rw [depth]) faulty_list_iff (fun _ => .list) ih
  | tuple items ih =>
    exact encodes_sequence rfl (fun _ => by rw [toJson]; rfl) (by rw [depth]) faulty_tuple_iff (fun _ => .tuple) ih
  | dict entries ih =>
    apply encodes_dict
    intro e he
    exact (ih e he).2

theorem stands_toJson {v : Value} {n : Nat} {j : Json} (hj : v.toJson exportRules n = .ok j) :
    v.Stands j ∧ v.depth ≤ n := by
  have h := v.encodes n
  rwa [hj] at h

theorem exists_of_forall₂ {α β : Type} {R : α → β → Prop} {as : List α} {bs : List β} (h : List.Forall₂ R as bs) :
    ∀ a ∈ as, ∃ b ∈ bs, R a b := by
  induction h with
  | nil => nofun
  | cons hab _ ih =>
    refine List.forall_mem_cons.mpr ⟨⟨_, by simp, hab⟩, fun a ha => ?_⟩
    obtain ⟨b, hb, hr⟩ := ih a ha
    exact ⟨b, by simp [hb], hr⟩

theorem Stands.not_faulty {v : Value} {j : Json} (h : v.Stands j) : ¬ v.Faulty := by
  induction v generalizing j with
  | list items ih =>
    cases h with | list h => ?_
    rw [faulty_list_iff]
    rintro ⟨v, hv, hf⟩
    obtain ⟨j, -, hj⟩ := exists_of_forall₂ h v hv
    exact ih v hv hj hf
  | tuple items ih =>
    cases h with | tuple h => ?_
    rw [faulty_tuple_iff]
    rintro ⟨v, hv, hf⟩
    obtain ⟨j, -, hj⟩ := exists_of_forall₂ h v hv
    exact ih v hv hj hf
  | dict entries ih =>
    cases h with | dict hk h => ?_
    rw [faulty_dict_iff]
    rintro ⟨e, he, hf | hf⟩
    · obtain ⟨m, -, hm⟩ := exists_of_forall₂ hk e he
      exact hf hm.isKey
    · obtain ⟨m, -, hm⟩ := exists_of_forall₂ h e he
      exact (ih e he).2 hm hf
  | int n =>
    cases h with | int hn => ?_
    rintro (_ | _ | _ | _ | hd)
    rw [hn] at hd
    cases hd
  | float x =>
    cases h with | float hx => ?_
    rintro (_ | _ | _ | _ | _ | hf)
    rw [hx] at hf
    cases hf
  | null | bool b | str s => nofun
  | bytes s | foreign name | enclosing level | coroutine prints thrown result => cases h

theorem toJson_ok_iff {v : Value} {n : Nat} :
    (∃ j, v.toJson exportRules n = .ok j) ↔ ¬ v.Faulty ∧ v.depth ≤ n := by
  constructor
  · rintro ⟨j, hj⟩
    obtain ⟨hs, hd⟩ := stands_toJson hj
    exact ⟨hs.not_faulty, hd⟩
  · rintro ⟨hf, hd⟩
    have h := v.encodes n
    cases hj : v.toJson exportRules n with
    | ok j => exact ⟨j, rfl⟩
    | error f =>
      rw [hj] at h
      exact (h.elim hf (Nat.not_lt.mpr hd)).elim

theorem KeyText.unique {k : Value} {s t : String} (hs : k.KeyText s) (ht : k.KeyText t) : s = t := by
  cases hs <;> cases ht <;> rfl

theorem Stands.unique {v : Value} {i j : Json} (hi : v.Stands i) (hj : v.Stands j) : i = j := by
  have hitems : ∀ {vs : List Value} {is js : List Json},
      (∀ v ∈ vs, ∀ {i j}, v.Stands i → v.Stands j → i = j) →
      List.Forall₂ Stands vs is → List.Forall₂ Stands vs js → is = js := by
    intro vs is js hvs his hjs
    induction his generalizing js with
    | nil => cases hjs with | nil => rfl
    | cons hi _ ih =>
      cases hjs with | cons hj hjs => ?_
      obtain ⟨h0, hvs⟩ := List.forall_mem_cons.mp hvs
      rw [h0 hi hj, ih hvs hjs]
  induction v generalizing i j with
  | list items ih =>
    cases hi with | list hi => ?_
    cases hj with | list hj => ?_
    rw [hitems ih hi hj]
  | tuple items ih =>
    cases hi with | tuple hi => ?_
    cases hj with | tuple hj => ?_
    rw [hitems ih hi hj]
  | dict entries ih =>
    cases hi with | @dict _ ms hik hi => ?_
    cases hj with | @dict _ ns hjk hj => ?_
    have hmembers : ms = ns := by
      induction entries generalizing ms ns with
      | nil =>
        cases hi
        cases hj
        rfl
      | cons e es ihs =>
        obtain ⟨h0, ih⟩ := List.forall_mem_cons.mp ih
        cases hik with | cons hik hiks => ?_
        cases hjk with | cons hjk hjks => ?_
        cases hi with | cons hi his => ?_
        cases hj with | cons hj hjs => ?_
        rw [ihs ih hiks his hjks hjs, Prod.ext (hik.unique hjk) (h0.2 hi hj)]
    rw [hmembers]
  | coroutine prints thrown result _ => cases hi
  | _ => cases hi <;> cases hj <;> rfl

theorem Stands.toJson_eq {v : Value} {j : Json} (h : v.Stands j) {n : Nat} (hd : v.depth ≤ n) :
    v.toJson exportRules n = .ok j := by
  obtain ⟨j', hj'⟩ := toJson_ok_iff.mpr ⟨h.not_faulty, hd⟩
  rw [hj', (stands_toJson hj').1.unique h]

theorem Stands.inLimits {v : Value} {j : Json} (h : v.Stands j) : j.InLimits := by
  have hitems : ∀ {vs : List Value} {js : List Json}, (∀ v ∈ vs, ∀ {j}, v.Stands j → j.InLimits) →
      List.Forall₂ Stands vs js → Json.ItemsInLimits js := by
    intro vs js hvs h
    refine Json.itemsInLimits_iff.mpr fun j hj => ?_
    obtain ⟨v, hv, hs⟩ := exists_of_forall₂ h.flip j hj
    exact hvs v hv hs
  induction v generalizing j with
  | list items ih =>
    cases h with | list h => ?_
    exact hitems ih h
  | tuple items ih =>
    cases h with | tuple h => ?_
    exact hitems ih h
  | dict entries ih =>
    cases h with | dict hk h => ?_
    refine Json.membersInLimits_iff.mpr fun m hm => ?_
    obtain ⟨e, he, hs⟩ := exists_of_forall₂ h.flip m hm
    exact (ih e he).2 hs
  | int n =>
    cases h with | int hn => ?_
    exact hn
  | null | bool b | str s | float x =>
    cases h
    trivial
  | bytes s | foreign name | enclosing level | coroutine prints thrown result => cases h

theorem Stands.depth_eq {v : Value} {j : Json} (h : v.Stands j) : j.depth = v.depth := by
  have hitems : ∀ {vs : List Value} {js : List Json}, (∀ v ∈ vs, ∀ {j}, v.Stands j → j.depth = v.depth) →
      List.Forall₂ Stands vs js → Json.depthOfItems js = depthOfItems vs := by
    intro vs js hvs h
    induction h with
    | nil => rfl
    | cons hv _ ih =>
      obtain ⟨h0, hvs⟩ := List.forall_mem_cons.mp hvs
      rw [Json.depthOfItems, depthOfItems, h0 hv, ih hvs]
  induction v generalizing j with
  | list items ih =>
    cases h with | list h => ?_
    rw [Json.depth, depth, hitems ih h]
  | tuple items ih =>
    cases h with | tuple h => ?_
    rw [Json.depth, depth, hitems ih h]
  | dict entries ih =>
    cases h with | dict hk h => ?_
    rw [Json.depth, depth, Nat.add_right_cancel_iff]
    clear hk
    induction h with
    | nil => rfl
    | cons hv _ ihs =>
      obtain ⟨h0, ih⟩ := List.forall_mem_cons.mp ih
      rw [Json.depthOfMembers, depthOfEntries, h0.2 hv, ihs ih]
  | coroutine prints thrown result _ => cases h
  | _ => cases h <;> rfl

theorem Stands.isObject_iff {v : Value} {j : Json} (h : v.Stands j) :
    (∃ members, j.settled = .obj members) ↔ ∃ entries, v = .dict entries := by
  cases h with
  | dict hk h => exact ⟨fun _ => ⟨_, rfl⟩, fun _ => ⟨_, by rw [Json.settled]⟩⟩
  | _ => simp [Json.settled]

inductive PlainKey : Value → Prop
  | null : PlainKey .null
  | bool (b : Bool) : PlainKey (.bool b)
  | int {n : Int} (hn : fitsDigits n) : PlainKey (.int n)
  | str (s : String) : PlainKey (.str s)

inductive Plain : Value → Prop
  | null : Plain .null
  | bool (b : Bool) : Plain (.bool b)
  | int {n : Int} (hn : fitsDigits n) : Plain (.int n)
  | str (s : String) : Plain (.str s)
  | list {items : List Value} (hv : ∀ v ∈ items, Plain v) : Plain (.list items)
  | tuple {items : List Value} (hv : ∀ v ∈ items, Plain v) : Plain (.tuple items)
  | dict {entries : List (Value × Value)} (hk : ∀ e ∈ entries, PlainKey e.1) (hv : ∀ e ∈ entries, Plain e.2) :
      Plain (.dict entries)

def keyText : Value → String
  | .str s => s
  | .int n => toString n
  | .bool true => "true"
  | .bool false => "false"
  | _ => "null"

mutual

def normal : Value → Json
  | .bool b => .bool b
  | .int n => .int n
  | .str s => .str s
  | .list items => .arr (normalItems items)
  | .tuple items => .arr (normalItems items)
  | .dict entries => .obj (Members.settled (normalEntries entries))
  | _ => .null

def normalItems : List Value → List Json
  | [] => []
  | v :: vs => normal v :: normalItems vs

def normalEntries : List (Value × Value) → List (String × Json)
  | [] => []
  | (k, v) :: es => (keyText k, normal v) :: normalEntries es

end

theorem PlainKey.isKey {k : Value} (hk : PlainKey k) : k.IsKey := by
  cases hk with
  | int hn => exact hn
  | _ => trivial

theorem Plain.not_faulty {v : Value} (hv : v.Plain) : ¬ v.Faulty := by
  induction hv with
  | null | bool b | str s => nofun
  | int hn =>
    rintro (_ | _ | _ | _ | hd)
    rw [hn] at hd
    cases hd
  | list _ ih =>
    rw [faulty_list_iff]
    rintro ⟨v, hv, hf⟩
    exact ih v hv hf
  | tuple _ ih =>
    rw [faulty_tuple_iff]
    rintro ⟨v, hv, hf⟩
    exact ih v hv hf
  | dict hk _ ih =>
    rw [faulty_dict_iff]
    rintro ⟨e, he, hf | hf⟩
    · exact hf (hk e he).isKey
    · exact ih e he hf

end SassData.Value
