import SassData.Proofs.Json.Members
import SassData.Proofs.Json.Strings
import SassData.Proofs.Number.Layout

namespace SassData.Json

def reread (x : Binary64) : Binary64 :=
  match readScalar (x.text words) with
  | some (.float y, _) => y
  | _ => x

mutual

def settled : Json → Json
  | .float x => .float (reread x)
  | .arr items => .arr (settledItems items)
  | .obj members => .obj (Members.settled (settledMembers members))
  | v => v

def settledItems : List Json → List Json
  | [] => []
  | v :: vs => settled v :: settledItems vs

def settledMembers : List (String × Json) → List (String × Json)
  | [] => []
  | (k, v) :: ms => (k, settled v) :: settledMembers ms

end

mutual

def InLimits : Json → Prop
  | .int n => fitsDigits n
  | .arr items => ItemsInLimits items
  | .obj members => MembersInLimits members
  | _ => True

def ItemsInLimits : List Json → Prop
  | [] => True
  | v :: vs => InLimits v ∧ ItemsInLimits vs

def MembersInLimits : List (String × Json) → Prop
  | [] => True
  | (_, v) :: ms => InLimits v ∧ MembersInLimits ms

end

theorem itemsInLimits_iff {items : List Json} : ItemsInLimits items ↔ ∀ v ∈ items, v.InLimits := by
  induction items with
  | nil => simp [ItemsInLimits]
  | cons v vs ih => simp [ItemsInLimits, ih]

theorem membersInLimits_iff {members : Members} : MembersInLimits members ↔ ∀ m ∈ members, m.2.InLimits := by
  induction members with
  | nil => simp [MembersInLimits]
  | cons m ms ih => simp [MembersInLimits, ih]

theorem readScalar_float (x : Binary64) {rest : List Char} (hr : Stops rest) :
    readScalar (x.text words ++ rest) = some (.float (reread x), rest) := by
  obtain ⟨y, hy⟩ := readScalar_text x
  have h := hy [] stops_nil
  rw [List.append_nil] at h
  have hx : reread x = y := by simp [reread, h]
  rw [hx]
  exact hy rest hr

def IsScalarStart (c : Char) : Prop := c.isAlphanum ∨ c = '-'

theorem scalarStart_signed {s : List Char} (hs : ∃ c ∈ s.head?, c.isDigit) (negative : Bool) :
    ∃ c cs, (if negative then '-' :: s else s) = c :: cs ∧ IsScalarStart c := by
  obtain ⟨c, hc, hd⟩ := hs
  obtain ⟨cs, rfl⟩ := List.head?_eq_some_iff.mp hc
  cases negative
  · exact ⟨c, cs, rfl, .inl (by simp [Char.isAlphanum, hd])⟩
  · exact ⟨'-', c :: cs, rfl, .inr rfl⟩

theorem scalarStart_writeInt (n : Int) : ∃ c cs, writeInt n = c :: cs ∧ IsScalarStart c := by
  have hs := (isDigits_toDigits n.natAbs).head_append []
  rw [List.append_nil] at hs
  simpa only [decide_eq_true_eq, writeInt] using scalarStart_signed hs (decide (n < 0))

theorem scalarStart_text (x : Binary64) : ∃ c cs, x.text words = c :: cs ∧ IsScalarStart c := by
  cases x with
  | nan => exact ⟨_, _, rfl, .inl rfl⟩
  | infinity negative =>
    cases negative
    · exact ⟨_, _, rfl, .inl rfl⟩
    · exact ⟨_, _, rfl, .inr rfl⟩
  | finite negative m e =>
    obtain ⟨d, hd, ht⟩ := Binary64.text_finite words negative m e
    obtain ⟨whole, fraction, exponent, hw, -, -, -, hl⟩ := Binary64.layout_parts hd
    rw [ht, hl]
    exact scalarStart_signed (hw.1.head_append _) negative

def Begins (s : List Char) : Prop := ∃ c ∈ s.head?, isSpace c = false ∧ c ≠ ']'

theorem Begins.append {s : List Char} (hs : Begins s) (rest : List Char) : Begins (s ++ rest) := by
  obtain ⟨c, hc, h⟩ := hs
  obtain ⟨cs, rfl⟩ := List.head?_eq_some_iff.mp hc
  exact ⟨c, rfl, h⟩

theorem Begins.skip_space {s : List Char} (hs : Begins s) : skip (' ' :: s) = s := by
  obtain ⟨c, hc, h, -⟩ := hs
  obtain ⟨cs, rfl⟩ := List.head?_eq_some_iff.mp hc
  have hspace : isSpace ' ' = true := rfl
  simp [skip, h, hspace]

theorem skip_mark {c : Char} (hc : isSpace c = false) (cs : List Char) : skip (c :: cs) = c :: cs := by
  simp [skip, hc]

theorem Begins.skip {s : List Char} (hs : Begins s) : skip s = s := by
  obtain ⟨c, hc, h, -⟩ := hs
  obtain ⟨cs, rfl⟩ := List.head?_eq_some_iff.mp hc
  exact skip_mark h cs

theorem IsScalarStart.begins {c : Char} (hc : IsScalarStart c) (cs : List Char) : Begins (c :: cs) := by
  refine ⟨c, rfl, ?_, ?_⟩
  · by_contra h
    simp only [isSpace, Bool.or_eq_true, decide_eq_true_eq, Bool.not_eq_false] at h
    rcases h with ((rfl | rfl) | rfl) | rfl <;> exact absurd hc (by unfold IsScalarStart; decide)
  · rintro rfl
    exact absurd hc (by unfold IsScalarStart; decide)

theorem write_begins (charset : Charset) (v : Json) : Begins (v.write charset) := by
  cases v with
  | null => exact ⟨_, rfl, rfl, by decide⟩
  | bool b => cases b <;> exact ⟨_, rfl, rfl, by decide⟩
  | int n =>
    obtain ⟨c, cs, he, hc⟩ := scalarStart_writeInt n
    rw [write, he]
    exact hc.begins cs
  | float x =>
    obtain ⟨c, cs, he, hc⟩ := scalarStart_text x
    rw [write, he]
    exact hc.begins cs
  | str s => exact ⟨_, rfl, rfl, by decide⟩
  | arr items => exact ⟨_, rfl, rfl, by decide⟩
  | obj members => exact ⟨_, rfl, rfl, by decide⟩

theorem writeItems_begins (charset : Charset) (v : Json) (vs : List Json) : Begins (writeItems charset (v :: vs)) := by
  cases vs with
  | nil => exact write_begins charset v
  | cons w ws => exact (write_begins charset v).append _

theorem writeMembers_begins (charset : Charset) (m : String × Json) (ms : Members) :
    Begins (writeMembers charset (m :: ms)) := by
  cases ms <;> exact ⟨_, rfl, rfl, by decide⟩

theorem fuel_of_write {charset : Charset} {v : Json} {fuel : Nat} (hf : (v.write charset).length ≤ fuel) :
    ∃ f, fuel = f + 1 := by
  obtain ⟨c, hc, -⟩ := write_begins charset v
  obtain ⟨cs, he⟩ := List.head?_eq_some_iff.mp hc
  rw [he, List.length_cons] at hf
  exact ⟨fuel - 1, by omega⟩

theorem stops_cons {c : Char} (hc : c = ',' ∨ c = ']' ∨ c = '}') (rest : List Char) : Stops (c :: rest) := by
  rcases hc with rfl | rfl | rfl <;> simp [Stops]

def ReadsBack (charset : Charset) (v : Json) : Prop :=
  ∀ fuel rest, (v.write charset).length ≤ fuel → Stops rest →
    readValue fuel (v.write charset ++ rest) = some (settled v, rest)

theorem readValue_string (charset : Charset) (s : String) : ReadsBack charset (.str s) := by
  intro fuel rest hf _
  have hs := length_writeString charset s.toList
  obtain ⟨f, rfl⟩ := fuel_of_write hf
  rw [write] at hf ⊢
  have hr := readString_flatMap charset s.toList rest f (by omega)
  simp [writeString, readValue, hr, settled]

theorem readValue_scalar {t rest : List Char} {v : Json} (hs : ∃ c cs, t = c :: cs ∧ IsScalarStart c)
    (hr : readScalar (t ++ rest) = some (v, rest)) (fuel : Nat) :
    readValue (fuel + 1) (t ++ rest) = some (v, rest) := by
  obtain ⟨c, cs, he, hc⟩ := hs
  have hne : c ≠ '"' ∧ c ≠ '[' ∧ c ≠ '{' := by
    refine ⟨?_, ?_, ?_⟩ <;> (rintro rfl; exact absurd hc (by unfold IsScalarStart; decide))
  rw [he, List.cons_append] at hr ⊢
  rw [← hr, readValue.eq_def]
  split
  · next h => cases h
  · next h =>
    cases h
    split <;> simp_all

theorem readItems_write (charset : Charset) {vs : List Json} (hvs : ∀ v ∈ vs, ReadsBack charset v) (hne : vs ≠ [])
    (fuel : Nat) (rest : List Char) (hf : (writeItems charset vs).length < fuel) :
    readItems fuel (writeItems charset vs ++ ']' :: rest) = some (settledItems vs, rest) := by
  induction vs generalizing fuel with
  | nil => exact absurd rfl hne
  | cons v vs ih =>
    obtain ⟨f, rfl⟩ : ∃ f, fuel = f + 1 := ⟨fuel - 1, by omega⟩
    cases vs with
    | nil =>
      have hv := hvs v (by simp) f (']' :: rest) (by simpa [writeItems] using Nat.lt_succ_iff.mp hf) (stops_cons (by simp) rest)
      simp [writeItems, readItems, hv, skip, isSpace, settledItems]
    | cons w ws =>
      simp only [writeItems, List.length_append, List.length_cons] at hf
      have hv := hvs v (by simp) f (',' :: ' ' :: (writeItems charset (w :: ws) ++ ']' :: rest)) (by omega)
        (stops_cons (by simp) _)
      have htail := ih (fun u hu => hvs u (by simp [hu])) (by simp) f (by omega)
      have hskip := ((writeItems_begins charset w ws).append (']' :: rest)).skip_space
      have htext : writeItems charset (v :: w :: ws) ++ ']' :: rest =
          v.write charset ++ ',' :: ' ' :: (writeItems charset (w :: ws) ++ ']' :: rest) := by simp [writeItems]
      rw [htext, readItems, hv]
      simp only [Option.bind_eq_bind, Option.bind_some, skip_mark (show isSpace ',' = false from rfl)]
      rw [hskip, htail]
      rfl

theorem readMembers_cons {charset : Charset} (k : String) {v : Json} (hv : ReadsBack charset v) (c : Char)
    (hc : c = ',' ∨ c = '}') {fuel : Nat} (text : List Char)
    (hf : (writeString charset k.toList).length + (v.write charset).length ≤ fuel) :
    readMembers (fuel + 1) (writeString charset k.toList ++ ':' :: ' ' :: (v.write charset ++ c :: text)) =
      if c = '}' then some ([(k, settled v)], text)
      else (readMembers fuel (skip text)).map fun r => ((k, settled v) :: r.1, r.2) := by
  have hlen := length_writeString charset k.toList
  have hs := readString_flatMap charset k.toList (':' :: ' ' :: (v.write charset ++ c :: text)) fuel (by omega)
  have hskip := ((write_begins charset v).append (c :: text)).skip_space
  have hr := hv fuel (c :: text) (by omega) (stops_cons (hc.imp_right .inr) text)
  simp only [writeString, List.cons_append, List.append_assoc, List.nil_append, readMembers]
  simp only [hs, Option.bind_eq_bind, Option.bind_some, skip_mark (show isSpace ':' = false from rfl), hskip, hr,
    String.ofList_toList]
  rcases hc with rfl | rfl
  · simp only [pure, Option.bind_some, skip_mark (show isSpace ',' = false from rfl), Char.reduceEq, ↓reduceIte]
    rw [Option.map_eq_bind]
    rfl
  · simp only [pure, Option.bind_some, skip_mark (show isSpace '}' = false from rfl), ↓reduceIte]

theorem readMembers_write (charset : Charset) {ms : List (String × Json)} (hms : ∀ m ∈ ms, ReadsBack charset m.2)
    (hne : ms ≠ []) (fuel : Nat) (rest : List Char) (hf : (writeMembers charset ms).length < fuel) :
    readMembers fuel (writeMembers charset ms ++ '}' :: rest) = some (settledMembers ms, rest) := by
  induction ms generalizing fuel with
  | nil => exact absurd rfl hne
  | cons m ms ih =>
    obtain ⟨k, v⟩ := m
    have hv : ReadsBack charset v := hms (k, v) (by simp)
    obtain ⟨f, rfl⟩ : ∃ f, fuel = f + 1 := ⟨fuel - 1, by omega⟩
    cases ms with
    | nil =>
      simp only [writeMembers, List.length_append, List.length_cons] at hf
      have hr := readMembers_cons k hv '}' (.inr rfl) rest (show _ ≤ f by omega)
      have htext : writeMembers charset [(k, v)] ++ '}' :: rest =
          writeString charset k.toList ++ ':' :: ' ' :: (v.write charset ++ '}' :: rest) := by simp [writeMembers]
      rw [htext, hr, if_pos rfl]
      rfl
    | cons m ms =>
      obtain ⟨l, w⟩ := m
      simp only [writeMembers, List.length_append, List.length_cons] at hf
      have hr := readMembers_cons k hv ',' (.inl rfl) (' ' :: (writeMembers charset ((l, w) :: ms) ++ '}' :: rest))
        (show _ ≤ f by omega)
      have htail := ih (fun u hu => hms u (by simp [hu])) (by simp) f (by omega)
      have hskip := ((writeMembers_begins charset (l, w) ms).append ('}' :: rest)).skip_space
      have htext : writeMembers charset ((k, v) :: (l, w) :: ms) ++ '}' :: rest = writeString charset k.toList ++
          ':' :: ' ' :: (v.write charset ++ ',' :: ' ' :: (writeMembers charset ((l, w) :: ms) ++ '}' :: rest)) := by
        simp [writeMembers]
      rw [htext, hr, if_neg (by decide), hskip, htail]
      rfl

theorem readValue_list {s : List Char} (hs : Begins s) (fuel : Nat) :
    readValue (fuel + 1) ('[' :: s) = (readItems fuel s).map fun r => (.arr r.1, r.2) := by
  obtain ⟨c, hc, h, hne⟩ := hs
  obtain ⟨cs, rfl⟩ := List.head?_eq_some_iff.mp hc
  simp only [readValue, skip_mark h]
  split
  · next h => cases h; exact absurd rfl hne
  · rfl

theorem readValue_object (fuel : Nat) (cs : List Char) :
    readValue (fuel + 1) ('{' :: '"' :: cs) =
      (readMembers fuel ('"' :: cs)).map fun r => (.obj (Members.distinct r.1), r.2) := by
  simp only [readValue, skip_mark (show isSpace '"' = false from rfl)]
  rfl

theorem readsBack (charset : Charset) (v : Json) (hl : v.InLimits) : ReadsBack charset v := by
  induction v with
  | str s => exact readValue_string charset s
  | null =>
    intro fuel rest hf _
    obtain ⟨f, rfl⟩ := fuel_of_write hf
    exact readValue_scalar ⟨_, _, rfl, .inl rfl⟩ rfl f
  | bool b =>
    intro fuel rest hf _
    obtain ⟨f, rfl⟩ := fuel_of_write hf
    cases b <;> exact readValue_scalar ⟨_, _, rfl, .inl rfl⟩ rfl f
  | int n =>
    intro fuel rest hf hr
    obtain ⟨f, rfl⟩ := fuel_of_write hf
    exact readValue_scalar (scalarStart_writeInt n) (readScalar_writeInt n hl hr) f
  | float x =>
    intro fuel rest hf hr
    obtain ⟨f, rfl⟩ := fuel_of_write hf
    exact readValue_scalar (scalarStart_text x) (readScalar_float x hr) f
  | arr items ih =>
    intro fuel rest hf _
    obtain ⟨f, rfl⟩ := fuel_of_write hf
    simp only [write, List.length_append, List.length_cons, List.length_nil] at hf
    cases items with
    | nil => rfl
    | cons v vs =>
      have hback : ∀ u ∈ v :: vs, ReadsBack charset u := fun u hu => ih u hu (itemsInLimits_iff.mp hl u hu)
      have hread := readItems_write charset hback (by simp) f rest (by omega)
      have hlist := readValue_list ((writeItems_begins charset v vs).append (']' :: rest)) f
      rw [hread] at hlist
      simpa [write, settled] using hlist
  | obj members ih =>
    intro fuel rest hf _
    obtain ⟨f, rfl⟩ := fuel_of_write hf
    simp only [write, List.length_append, List.length_cons, List.length_nil] at hf
    cases members with
    | nil => rfl
    | cons m ms =>
      have hback : ∀ u ∈ m :: ms, ReadsBack charset u.2 := fun u hu => ih u hu (membersInLimits_iff.mp hl u hu)
      have hread := readMembers_write charset hback (by simp) f rest (by omega)
      obtain ⟨cs, he⟩ : ∃ cs, writeMembers charset (m :: ms) ++ '}' :: rest = '"' :: cs := by
        cases ms <;> exact ⟨_, rfl⟩
      have hobject := readValue_object f cs
      rw [← he, hread] at hobject
      simpa [write, settled, Members.distinct_eq_settled] using hobject

theorem read?_write (charset : Charset) {v : Json} (hl : v.InLimits) :
    read? (v.write charset) = some (settled v) := by
  have hskip := (write_begins charset v).skip
  have hr := readsBack charset v hl (2 * (v.write charset).length + 2) [] (by omega) stops_nil
  rw [List.append_nil] at hr
  rw [read?, hskip, hr]
  rfl

theorem parse?_render (charset : Charset) {v : Json} (hl : v.InLimits) :
    parse? (v.render charset) = some (settled v) := by
  rw [parse?, render, String.toList_ofList, read?_write charset hl]

end SassData.Json
