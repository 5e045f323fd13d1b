import Mathlib.Order.MinMax
import SassData.Proofs.Json.RoundTrip

namespace SassData.Json

mutual

def depth : Json → Nat
  | .arr items => depthOfItems items + 1
  | .obj members => depthOfMembers members + 1
  | _ => 0

def depthOfItems : List Json → Nat
  | [] => 0
  | v :: vs => max (depth v) (depthOfItems vs)

def depthOfMembers : List (String × Json) → Nat
  | [] => 0
  | (_, v) :: ms => max (depth v) (depthOfMembers ms)

end

def ShowsDepth (charset : Charset) (v : Json) : Prop :=
  ∀ fuel room rest, (v.write charset).length ≤ fuel → Stops rest →
    (deepValue fuel room (v.write charset ++ rest) = none ↔ v.depth ≤ room)

theorem deepValue_scalar {t : List Char} (ht : ∃ c cs, t = c :: cs ∧ c ≠ '[' ∧ c ≠ '{') (fuel room : Nat)
    (rest : List Char) : deepValue fuel room (t ++ rest) = none := by
  obtain ⟨c, cs, rfl, hlist, hobject⟩ := ht
  cases fuel with
  | zero => rfl
  | succ fuel => simp [deepValue, hlist, hobject]

theorem showsDepth_scalar {charset : Charset} {v : Json} (hdepth : v.depth = 0)
    (ht : ∃ c cs, v.write charset = c :: cs ∧ c ≠ '[' ∧ c ≠ '{') : ShowsDepth charset v := by
  intro fuel room rest _ _
  rw [deepValue_scalar ht, hdepth]
  simp

theorem IsScalarStart.ne_mark {c : Char} (hc : IsScalarStart c) : c ≠ '[' ∧ c ≠ '{' := by
  constructor
  · rintro rfl
    exact absurd hc (by unfold IsScalarStart; decide)
  · rintro rfl
    exact absurd hc (by unfold IsScalarStart; decide)

theorem deepItems_write (charset : Charset) {vs : List Json} (hvs : ∀ v ∈ vs, ReadsBack charset v)
    (hds : ∀ v ∈ vs, ShowsDepth charset v) (hne : vs ≠ []) (fuel room : Nat) (rest : List Char)
    (hf : (writeItems charset vs).length < fuel) :
    deepItems fuel room (writeItems charset vs ++ ']' :: rest) = none ↔ depthOfItems vs ≤ room := by
  induction vs generalizing fuel with
  | nil => exact absurd rfl hne
  | cons v vs ih =>
    obtain ⟨f, rfl⟩ : ∃ f, fuel = f + 1 := ⟨fuel - 1, by omega⟩
    cases vs with
    | nil =>
      have hlen : (v.write charset).length ≤ f := by simpa [writeItems] using Nat.lt_succ_iff.mp hf
      have hstops := stops_cons (.inr (.inl rfl) : ']' = ',' ∨ ']' = ']' ∨ ']' = '}') rest
      have hv := hvs v (by simp) f (']' :: rest) hlen hstops
      have hd := hds v (by simp) f room (']' :: rest) hlen hstops
      simp only [writeItems, deepItems, Option.orElse_eq_orElse, Option.orElse_eq_or, Option.or_eq_none_iff, hd, hv]
      simp [skip, isSpace, depthOfItems]
    | cons w ws =>
      simp only [writeItems, List.length_append, List.length_cons] at hf
      have hstops := stops_cons (.inl rfl : ',' = ',' ∨ ',' = ']' ∨ ',' = '}')
        (' ' :: (writeItems charset (w :: ws) ++ ']' :: rest))
      have hv := hvs v (by simp) f _ (by omega) hstops
      have hd := hds v (by simp) f room _ (by omega) hstops
      have htail := ih (fun u hu => hvs u (by simp [hu])) (fun u hu => hds u (by simp [hu])) (by simp) f (by omega)
      have hskip := ((writeItems_begins charset w ws).append (']' :: rest)).skip_space
      have htext : writeItems charset (v :: w :: ws) ++ ']' :: rest =
          v.write charset ++ ',' :: ' ' :: (writeItems charset (w :: ws) ++ ']' :: rest) := by simp [writeItems]
      rw [htext, deepItems, hv, depthOfItems, max_le_iff, ← htail, ← hd]
      simp only [Option.orElse_eq_orElse, Option.orElse_eq_or, Option.or_eq_none_iff, Option.bind_eq_bind, Option.bind_some,
        skip_mark (show isSpace ',' = false from rfl), hskip]

theorem deepMembers_cons {charset : Charset} (k : String) {v : Json} (hv : ReadsBack charset v)
    (hd : ShowsDepth charset v) (c : Char) (hc : c = ',' ∨ c = '}') {fuel room : Nat} (text : List Char)
    (hf : (writeString charset k.toList).length + (v.write charset).length ≤ fuel) :
    deepMembers (fuel + 1) room (writeString charset k.toList ++ ':' :: ' ' :: (v.write charset ++ c :: text)) = none ↔
      v.depth ≤ room ∧ (c = ',' → deepMembers fuel room (skip text) = none) := by
  have hlen := length_writeString charset k.toList
  have hs := readString_flatMap charset k.toList (':' :: ' ' :: (v.write charset ++ c :: text)) fuel (by omega)
  have hskip := ((write_begins charset v).append (c :: text)).skip_space
  have hstops := stops_cons (hc.imp_right .inr) text
  have hr := hv fuel (c :: text) (by omega) hstops
  rw [← hd fuel room (c :: text) (by omega) hstops]
  simp only [writeString, List.cons_append, List.append_assoc, List.nil_append, deepMembers, hs, Option.bind_eq_bind,
    Option.bind_some, skip_mark (show isSpace ':' = false from rfl), hskip, Option.orElse_eq_orElse,
    Option.orElse_eq_or, Option.or_eq_none_iff, hr]
  rcases hc with rfl | rfl
  · simp only [skip_mark (show isSpace ',' = false from rfl), forall_const]
  · simp only [skip_mark (show isSpace '}' = false from rfl), Char.reduceEq, false_implies, and_true, and_iff_left_iff_imp]
    exact fun _ => rfl

theorem deepMembers_write (charset : Charset) {ms : Members} (hms : ∀ m ∈ ms, ReadsBack charset m.2)
    (hds : ∀ m ∈ ms, ShowsDepth charset m.2) (hne : ms ≠ []) (fuel room : Nat) (rest : List Char)
    (hf : (writeMembers charset ms).length < fuel) :
    deepMembers fuel room (writeMembers charset ms ++ '}' :: rest) = none ↔ depthOfMembers ms ≤ room := by
  induction ms generalizing fuel with
  | nil => exact absurd rfl hne
  | cons m ms ih =>
    obtain ⟨k, v⟩ := m
    have hv : ReadsBack charset v := hms (k, v) (by simp)
    have hd : ShowsDepth charset v := hds (k, v) (by simp)
    obtain ⟨f, rfl⟩ : ∃ f, fuel = f + 1 := ⟨fuel - 1, by omega⟩
    cases ms with
    | nil =>
      simp only [writeMembers, List.length_append, List.length_cons] at hf
      have htext : writeMembers charset [(k, v)] ++ '}' :: rest =
          writeString charset k.toList ++ ':' :: ' ' :: (v.write charset ++ '}' :: rest) := by simp [writeMembers]
      rw [htext, deepMembers_cons k hv hd '}' (.inr rfl) rest (show _ ≤ f by omega)]
      simp [depthOfMembers]
    | cons m ms =>
      obtain ⟨l, w⟩ := m
      simp only [writeMembers, List.length_append, List.length_cons] at hf
      have htail := ih (fun u hu => hms u (by simp [hu])) (fun u hu => hds u (by simp [hu])) (by simp) f (by omega)
      have hskip := ((writeMembers_begins charset (l, w) ms).append ('}' :: rest)).skip_space
      have htext : writeMembers charset ((k, v) :: (l, w) :: ms) ++ '}' :: rest = writeString charset k.toList ++
          ':' :: ' ' :: (v.write charset ++ ',' :: ' ' :: (writeMembers charset ((l, w) :: ms) ++ '}' :: rest)) := by
        simp [writeMembers]
      rw [htext, deepMembers_cons k hv hd ',' (.inl rfl) _ (show _ ≤ f by omega), hskip, htail,
        depthOfMembers.eq_def ((k, v) :: (l, w) :: ms)]
      simp

theorem deepItems_close (fuel room : Nat) (rest : List Char) : deepItems fuel room (']' :: rest) = none := by
  cases fuel with
  | zero => rfl
  | succ fuel => cases fuel <;> rfl

theorem deepMembers_close (fuel room : Nat) (rest : List Char) : deepMembers fuel room ('}' :: rest) = none := by
  cases fuel <;> rfl

theorem showsDepth (charset : Charset) (v : Json) (hl : v.InLimits) : ShowsDepth charset v := by
  induction v with
  | null => exact showsDepth_scalar rfl ⟨_, _, rfl, by decide⟩
  | bool b => cases b <;> exact showsDepth_scalar rfl ⟨_, _, rfl, by decide⟩
  | str s => exact showsDepth_scalar rfl ⟨_, _, rfl, by decide⟩
  | int n =>
    obtain ⟨c, cs, he, hc⟩ := scalarStart_writeInt n
    exact showsDepth_scalar rfl ⟨c, cs, he, hc.ne_mark⟩
  | float x =>
    obtain ⟨c, cs, he, hc⟩ := scalarStart_text x
    exact showsDepth_scalar rfl ⟨c, cs, he, hc.ne_mark⟩
  | arr items ih =>
    intro fuel room rest hf _
    obtain ⟨f, rfl⟩ := fuel_of_write hf
    simp only [write, List.length_append, List.length_cons, List.length_nil] at hf
    have htext : (Json.arr items).write charset ++ rest = '[' :: (writeItems charset items ++ ']' :: rest) := by
      simp [write]
    rw [htext, depth]
    cases room with
    | zero => simp [deepValue]
    | succ room =>
      rw [deepValue, Nat.add_le_add_iff_right]
      cases items with
      | nil =>
        have hclose := deepItems_close f room rest
        simpa [writeItems, depthOfItems, skip_mark (show isSpace ']' = false from rfl)] using hclose
      | cons v vs =>
        have hback : ∀ u ∈ v :: vs, ReadsBack charset u :=
          fun u hu => readsBack charset u (itemsInLimits_iff.mp hl u hu)
        have hdeep : ∀ u ∈ v :: vs, ShowsDepth charset u := fun u hu => ih u hu (itemsInLimits_iff.mp hl u hu)
        rw [((writeItems_begins charset v vs).append (']' :: rest)).skip]
        exact deepItems_write charset hback hdeep (by simp) f room rest (by omega)
  | obj members ih =>
    intro fuel room rest hf _
    obtain ⟨f, rfl⟩ := fuel_of_write hf
    simp only [write, List.length_append, List.length_cons, List.length_nil] at hf
    have htext : (Json.obj members).write charset ++ rest = '{' :: (writeMembers charset members ++ '}' :: rest) := by
      simp [write]
    rw [htext, depth]
    cases room with
    | zero => simp [deepValue]
    | succ room =>
      rw [deepValue, Nat.add_le_add_iff_right]
      cases members with
      | nil =>
        have hclose := deepMembers_close f room rest
        simpa [writeMembers, depthOfMembers, skip_mark (show isSpace '}' = false from rfl)] using hclose
      | cons m ms =>
        have hback : ∀ u ∈ m :: ms, ReadsBack charset u.2 :=
          fun u hu => readsBack charset u.2 (membersInLimits_iff.mp hl u hu)
        have hdeep : ∀ u ∈ m :: ms, ShowsDepth charset u.2 := fun u hu => ih u hu (membersInLimits_iff.mp hl u hu)
        rw [((writeMembers_begins charset m ms).append ('}' :: rest)).skip]
        exact deepMembers_write charset hback hdeep (by simp) f room rest (by omega)

/-- The text of a value is read back if the value is not too deep, and refused as too deep otherwise. -/
theorem load_render (charset : Charset) {v : Json} (hl : v.InLimits) (room : Nat) :
    if v.depth ≤ room then load room (v.render charset) = .ok v.settled
    else ∃ mark, load room (v.render charset) = .error (.tooDeep mark) := by
  have hparse := parse?_render charset hl
  have hskip := (write_begins charset v).skip
  have hdeep := showsDepth charset v hl (2 * (v.render charset).length + 2) room [] (by simp [render]; omega) stops_nil
  rw [List.append_nil] at hdeep
  unfold load
  rw [hparse, render, String.toList_ofList, hskip, ← render]
  split_ifs with hd
  · rw [hdeep.mpr hd]
  · cases hmark : deepValue (2 * (v.render charset).length + 2) room (v.write charset) with
    | none => exact absurd (hdeep.mp hmark) hd
    | some mark => exact ⟨mark, rfl⟩

theorem deepValue_brackets {room fuel n : Nat} (hf : 2 * room < fuel) (hn : room < n) :
    deepValue fuel room (List.replicate n '[') = some '[' := by
  induction room generalizing fuel n with
  | zero =>
    obtain ⟨f, rfl⟩ := Nat.exists_eq_add_of_lt hf
    obtain ⟨m, rfl⟩ := Nat.exists_eq_add_of_lt hn
    rw [List.replicate_succ, deepValue]
  | succ room ih =>
    obtain ⟨f, rfl⟩ : ∃ f, fuel = f + 2 := ⟨fuel - 2, by omega⟩
    obtain ⟨m, rfl⟩ : ∃ m, n = m + 2 := ⟨n - 2, by omega⟩
    have hinner := @ih f (m + 1) (by omega) (by omega)
    rw [List.replicate_succ, deepValue, List.replicate_succ, skip_mark (show isSpace '[' = false from rfl),
      ← List.replicate_succ, deepItems, hinner]
    rfl

theorem load_brackets {room n : Nat} (hn : room < n) :
    load room (String.ofList (List.replicate n '[')) = .error (.tooDeep '[') := by
  have hskip : skip (List.replicate n '[') = List.replicate n '[' := by
    obtain ⟨m, rfl⟩ := Nat.exists_eq_add_of_lt hn
    rw [List.replicate_succ, skip_mark (show isSpace '[' = false from rfl)]
  have hlength : (String.ofList (List.replicate n '[')).length = n := by
    rw [← String.length_toList, String.toList_ofList, List.length_replicate]
  unfold load
  rw [String.toList_ofList, hskip, hlength, deepValue_brackets (by omega) hn]

end SassData.Json
