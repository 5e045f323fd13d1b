import SassData.Proofs.DataModule.Encoding
import SassData.Proofs.Json.ValueTexts

namespace SassData.Json

theorem Denotes.inLimits {s : List Char} {v : Json} (h : Denotes s v) : v.InLimits := by
  obtain ⟨_, _, _, -, -, hv, -⟩ := h
  exact hv.inLimits

section

variable (atom : Value → Nat)

mutual

def calls : Json → Nat
  | .arr items => callsOfItems items + 4
  | .obj [] => 3
  | .obj (m :: ms) => callsOfMembers (m :: ms) + 2
  | v => atom v.toValue

def callsOfItems : List Json → Nat
  | [] => 0
  | v :: vs => max (calls v) (callsOfItems vs)

def callsOfMembers : List (String × Json) → Nat
  | [] => 0
  | (_, v) :: ms => max (calls v) (callsOfMembers ms)

end

def tooManyCalls : Value.Fault :=
  .tooDeep " in __instancecheck__"

def Printable (v : Json) : Prop :=
  ∀ n, v.toValue.toJson (Value.displayRules atom) n = if v.calls atom ≤ n then .ok v else .error tooManyCalls

theorem enter_display (n : Nat) (v : Value) :
    (Value.displayRules atom).enter n v =
      if Value.displayCalls atom v ≤ n then .ok (n - Value.displayCalls atom v) else .error tooManyCalls := rfl

variable {atom}

theorem itemsToJson_itemsToValue {vs : List Json} (hvs : ∀ v ∈ vs, v.Printable atom) (n : Nat) :
    Value.itemsToJson (Value.displayRules atom) n (itemsToValue vs) =
      if callsOfItems atom vs ≤ n then .ok vs else .error tooManyCalls := by
  induction vs with
  | nil => rfl
  | cons v vs ih =>
    obtain ⟨hv, hvs⟩ := List.forall_mem_cons.mp hvs
    rw [itemsToValue, Value.itemsToJson, hv n, ih hvs, callsOfItems]
    simp only [max_le_iff]
    by_cases h : v.calls atom ≤ n
    · by_cases htail : callsOfItems atom vs ≤ n
      · simp only [h, htail, and_self, if_true]
        rfl
      · simp only [h, htail, and_false, if_true, if_false]
        rfl
    · simp only [h, false_and, if_false]
      rfl

theorem entriesToJson_membersToValue {ms : Members} (hms : ∀ m ∈ ms, m.2.Printable atom) (n : Nat) :
    Value.entriesToJson (Value.displayRules atom) n (membersToValue ms) =
      if callsOfMembers atom ms ≤ n then .ok ms else .error tooManyCalls := by
  induction ms with
  | nil => rfl
  | cons m ms ih =>
    obtain ⟨k, v⟩ := m
    obtain ⟨hv, hms⟩ := List.forall_mem_cons.mp hms
    have hkey : (Value.displayRules atom).key (.str k) = .ok k.toList := rfl
    rw [membersToValue, Value.entriesToJson, hkey, ih hms, callsOfMembers]
    have hv : v.toValue.toJson (Value.displayRules atom) n =
      if v.calls atom ≤ n then .ok v else .error tooManyCalls := hv n
    rw [hv]
    simp only [max_le_iff]
    by_cases h : v.calls atom ≤ n
    · by_cases htail : callsOfMembers atom ms ≤ n
      · simp only [h, htail, and_self, if_true]
        change Except.ok ((String.ofList k.toList, v) :: ms) = _
        rw [String.ofList_toList]
      · simp only [h, htail, and_false, if_true, if_false]
        rfl
    · simp only [h, false_and, if_false]
      rfl

theorem printable_of_enter (inner : Nat) {v : Json} {print : Nat → Except Value.Fault Json}
    (hj : ∀ n, v.toValue.toJson (Value.displayRules atom) n = ((Value.displayRules atom).enter n v.toValue).bind print)
    (hcalls : v.calls atom = inner + Value.displayCalls atom v.toValue)
    (hprint : ∀ n, print n = if inner ≤ n then .ok v else .error tooManyCalls) : v.Printable atom := by
  intro n
  rw [hj, enter_display, hcalls]
  by_cases h : Value.displayCalls atom v.toValue ≤ n
  · have hiff : inner + Value.displayCalls atom v.toValue ≤ n ↔ inner ≤ n - Value.displayCalls atom v.toValue := by
      omega
    rw [if_pos h]
    simp only [hiff]
    exact hprint _
  · rw [if_neg h, if_neg (by omega)]
    rfl

theorem printable_scalar {v : Json} {print : Except Value.Fault Json}
    (hj : ∀ n, v.toValue.toJson (Value.displayRules atom) n =
      ((Value.displayRules atom).enter n v.toValue).bind fun _ => print)
    (hcalls : v.calls atom = Value.displayCalls atom v.toValue) (hprint : print = .ok v) : v.Printable atom :=
  printable_of_enter 0 hj (hcalls.trans (Nat.zero_add _).symm) fun _ => hprint

theorem printable {v : Json} (hv : v.InLimits) : v.Printable atom := by
  induction v with
  | null => exact printable_scalar (fun _ => rfl) rfl rfl
  | bool b => exact printable_scalar (fun _ => rfl) rfl rfl
  | float x => exact printable_scalar (fun _ => rfl) rfl rfl
  | str s => exact printable_scalar (fun _ => rfl) rfl rfl
  | int n =>
    have hfits : fitsDigits n := hv
    have hlimited : Value.limited n = .ok n := if_pos hfits
    exact printable_scalar (fun _ => rfl) rfl (by rw [hlimited]; rfl)
  | arr items ih =>
    have hitems := itemsToJson_itemsToValue fun v hmem => ih v hmem (itemsInLimits_iff.mp hv v hmem)
    have hprint : ∀ n, (Value.itemsToJson (Value.displayRules atom) n (itemsToValue items)).map arr =
        if callsOfItems atom items ≤ n then .ok (.arr items) else .error tooManyCalls := by
      intro n
      rw [hitems]
      split_ifs
      · rfl
      · rfl
    exact printable_of_enter _ (fun n => by rw [toValue, Value.toJson]; rfl) (by rw [calls]; rfl) hprint
  | obj members ih =>
    have hmembers := entriesToJson_membersToValue fun m hmem => ih m hmem (membersInLimits_iff.mp hv m hmem)
    have hprint : ∀ n, (Value.entriesToJson (Value.displayRules atom) n (membersToValue members)).map obj =
        if callsOfMembers atom members ≤ n then .ok (.obj members) else .error tooManyCalls := by
      intro n
      rw [hmembers]
      split_ifs
      · rfl
      · rfl
    have hcalls : (obj members).calls atom =
        callsOfMembers atom members + Value.displayCalls atom (obj members).toValue := by
      cases members with
      | nil => rfl
      | cons m ms =>
        rw [calls]
        rfl
    exact printable_of_enter _ (fun n => by rw [toValue, Value.toJson]; rfl) hcalls hprint

end

end SassData.Json
