import SassData.Proofs.Json.ScalarTexts

namespace SassData.Json

theorem blank_skip (cs : List Char) : ∃ w, cs = w ++ skip cs ∧ Blank w :=
  ⟨cs.takeWhile isSpace, List.takeWhile_append_dropWhile.symm, fun _ hc => List.mem_takeWhile_imp hc⟩

theorem skip_eq_cons {cs rest : List Char} {c : Char} (h : skip cs = c :: rest) :
    ∃ w, cs = w ++ c :: rest ∧ Blank w := by
  rw [← h]
  exact blank_skip cs

theorem Sound.skip {α : Type} {read : List Char → Option (α × List Char)} {text : List Char → α → Prop}
    (hread : Sound read text) {cs rest : List Char} {a : α} (h : read (skip cs) = some (a, rest)) :
    ∃ w t, cs = w ++ (t ++ rest) ∧ Blank w ∧ text t a := by
  obtain ⟨t, hskip, ht⟩ := hread h
  obtain ⟨w, hcs, hw⟩ := blank_skip cs
  rw [hskip] at hcs
  exact ⟨w, t, hcs, hw, ht⟩

theorem skip_append {w : List Char} (hw : Blank w) (s : List Char) : skip (w ++ s) = skip s :=
  List.dropWhile_append_of_pos hw

theorem Blank.skip {w : List Char} (hw : Blank w) : skip w = [] :=
  List.dropWhile_eq_nil_iff.mpr hw

theorem Blank.stops {w s : List Char} (hw : Blank w) (hs : Stops s) : Stops (w ++ s) := by
  cases w with
  | nil => exact hs
  | cons c w =>
    rintro _ ⟨⟩
    have hc : isSpace c = true := hw c (by simp)
    simp only [isSpace, Bool.or_eq_true, decide_eq_true_eq] at hc
    rcases hc with ((rfl | rfl) | rfl) | rfl <;> decide

def readSeries {α : Type} (close : Char) (one : Nat → List Char → Option (α × List Char)) :
    Nat → List Char → Option (List α × List Char)
  | 0, _ => none
  | fuel + 1, cs => do
    let (x, rest) ← one fuel cs
    match skip rest with
    | [] => none
    | c :: rest =>
      if c = close then pure ([x], rest)
      else if c = ',' then
        let (xs, rest) ← readSeries close one fuel (skip rest)
        pure (x :: xs, rest)
      else none

def readMember (fuel : Nat) : List Char → Option ((String × Json) × List Char)
  | '"' :: cs => do
    let (k, rest) ← readString fuel cs
    match skip rest with
    | ':' :: rest =>
      let (v, rest) ← readValue fuel (skip rest)
      pure ((String.ofList k, v), rest)
    | _ => none
  | _ => none

theorem readItems_eq : readItems = readSeries ']' readValue := by
  funext fuel
  induction fuel with
  | zero => rfl
  | succ fuel ih =>
    funext cs
    rw [readItems, readSeries]
    congr 1
    funext r
    obtain ⟨v, rest⟩ := r
    dsimp only
    rw [ih]
    cases skip rest with
    | nil => rfl
    | cons c rest =>
      by_cases hclose : c = ']'
      · subst hclose
        rfl
      · by_cases hcomma : c = ','
        · subst hcomma
          rfl
        · simp [hclose, hcomma]

theorem readMembers_eq : readMembers = readSeries '}' readMember := by
  funext fuel
  induction fuel with
  | zero => rfl
  | succ fuel ih =>
    funext cs
    rw [readMembers.eq_def, readSeries]
    dsimp only
    split
    · next cs =>
      rw [readMember]
      simp only [Option.bind_eq_bind, Option.bind_assoc]
      congr 1
      funext r
      obtain ⟨k, rest⟩ := r
      dsimp only
      cases skip rest with
      | nil => rfl
      | cons c rest =>
        by_cases hcolon : c = ':'
        · subst hcolon
          simp only [Option.bind_assoc]
          congr 1
          funext r
          obtain ⟨v, rest⟩ := r
          dsimp only [Option.pure_def, Option.bind_some]
          rw [ih]
          cases skip rest with
          | nil => rfl
          | cons c rest =>
            by_cases hclose : c = '}'
            · subst hclose
              rfl
            · by_cases hcomma : c = ','
              · subst hcomma
                rfl
              · simp [hclose, hcomma]
        · simp [hcolon]
    · next hne =>
      rw [readMember]
      · rfl
      · exact hne

theorem readSeries_sound {α : Type} {close : Char} {one : Nat → List Char → Option (α × List Char)}
    {text : List Char → α → Prop} (fuel : Nat) (hone : ∀ f < fuel, Sound (one f) text) :
    Sound (readSeries close one fuel) (SeriesText close text) := by
  induction fuel with
  | zero => nofun
  | succ fuel ih =>
    intro cs as rest h
    simp only [readSeries, Option.bind_eq_bind, Option.bind_eq_some_iff] at h
    obtain ⟨⟨a, after⟩, ha, h⟩ := h
    obtain ⟨t, rfl, ht⟩ := hone fuel fuel.lt_succ_self ha
    dsimp only at h
    split at h
    · cases h
    · next mark after' hmark =>
      obtain ⟨w, rfl, hw⟩ := skip_eq_cons hmark
      split_ifs at h with hclose hcomma
      · cases h
        subst hclose
        exact ⟨t ++ (w ++ [mark]), by simp, .last ht hw⟩
      · simp only [Option.bind_eq_some_iff] at h
        obtain ⟨⟨as', after''⟩, htail, h⟩ := h
        obtain ⟨w', ts, rfl, hw', has⟩ := (ih fun f hf => hone f (hf.trans fuel.lt_succ_self)).skip htail
        cases h
        subst hcomma
        exact ⟨t ++ (w ++ ',' :: (w' ++ ts)), by simp, .more ht hw hw' has⟩

theorem readMember_sound {fuel : Nat} (hvalue : Sound (readValue fuel) ValueText) :
    Sound (readMember fuel) (MemberText ValueText) := by
  intro cs m rest h
  unfold readMember at h
  split at h
  · simp only [Option.bind_eq_bind, Option.bind_eq_some_iff] at h
    obtain ⟨⟨s, after⟩, hs, h⟩ := h
    obtain ⟨k, rfl, hk⟩ := readString_sound fuel hs
    dsimp only at h
    split at h
    · next after' hcolon =>
      obtain ⟨w, rfl, hw⟩ := skip_eq_cons hcolon
      simp only [Option.bind_eq_some_iff] at h
      obtain ⟨⟨v, after''⟩, hv, h⟩ := h
      obtain ⟨w', t, rfl, hw', ht⟩ := hvalue.skip hv
      cases h
      exact ⟨'"' :: (k ++ (w ++ ':' :: (w' ++ t))), by simp, .member hk hw hw' ht⟩
    · cases h
  · cases h

theorem readValue_sound (fuel : Nat) : Sound (readValue fuel) ValueText := by
  induction fuel using Nat.strongRecOn with
  | ind fuel ih =>
    intro cs v rest h
    cases fuel with
    | zero => cases h
    | succ fuel =>
      have hitems : Sound (readItems fuel) (SeriesText ']' ValueText) := by
        rw [readItems_eq]
        exact readSeries_sound fuel fun f hf => ih f (hf.trans fuel.lt_succ_self)
      have hmembers : Sound (readMembers fuel) (SeriesText '}' (MemberText ValueText)) := by
        rw [readMembers_eq]
        exact readSeries_sound fuel fun f hf => readMember_sound (ih f (hf.trans fuel.lt_succ_self))
      simp only [readValue] at h
      split at h
      · obtain ⟨⟨s, after⟩, hs, he⟩ := Option.map_eq_some_iff.mp h
        obtain ⟨t, rfl, ht⟩ := readString_sound fuel hs
        cases he
        exact ⟨'"' :: t, rfl, .string ht⟩
      · split at h
        · next after hafter =>
          obtain ⟨w, rfl, hw⟩ := skip_eq_cons hafter
          cases h
          exact ⟨'[' :: (w ++ [']']), by simp, .emptyList hw⟩
        · obtain ⟨⟨vs, after⟩, hvs, he⟩ := Option.map_eq_some_iff.mp h
          obtain ⟨w, t, rfl, hw, ht⟩ := hitems.skip hvs
          cases he
          exact ⟨'[' :: (w ++ t), by simp, .list hw ht⟩
      · split at h
        · next after hafter =>
          obtain ⟨w, rfl, hw⟩ := skip_eq_cons hafter
          cases h
          exact ⟨'{' :: (w ++ ['}']), by simp, .emptyObject hw⟩
        · obtain ⟨⟨ms, after⟩, hms, he⟩ := Option.map_eq_some_iff.mp h
          obtain ⟨w, t, rfl, hw, ht⟩ := hmembers.skip hms
          cases he
          exact ⟨'{' :: (w ++ t), by simp, .object hw ht⟩
      · obtain ⟨t, hcs, ht⟩ := readScalar_sound h
        exact ⟨t, hcs, .scalar ht⟩

def Reads {α : Type} (read : Nat → List Char → Option (α × List Char)) (t : List Char) (a : α) : Prop :=
  ∀ fuel rest, t.length ≤ fuel → Stops rest → read fuel (t ++ rest) = some (a, rest)

theorem SeriesText.head {α : Type} {close : Char} {one : List Char → α → Prop} {P : Char → Prop} {t : List Char}
    {as : List α} (h : SeriesText close one t as) (hone : ∀ t' a, one t' a → ∃ c ∈ t'.head?, P c) :
    ∃ c ∈ t.head?, P c := by
  have happend : ∀ {t' s : List Char}, (∃ c ∈ t'.head?, P c) → ∃ c ∈ (t' ++ s).head?, P c := by
    rintro t' s ⟨c, hc, hP⟩
    obtain ⟨cs, rfl⟩ := List.head?_eq_some_iff.mp hc
    exact ⟨c, rfl, hP⟩
  cases h with
  | last h => exact happend (hone _ _ h)
  | more h => exact happend (hone _ _ h)

theorem ValueText.begins {t : List Char} {v : Json} (h : ValueText t v) : Begins t := by
  cases h with
  | scalar h =>
    obtain ⟨c, cs, rfl, hc⟩ := h.start
    exact hc.begins cs
  | _ => exact ⟨_, rfl, rfl, by decide⟩

theorem SeriesText.readSeries {α : Type} {close : Char} {one : Nat → List Char → Option (α × List Char)}
    {t : List Char} {as : List α} (hclose : close = ']' ∨ close = '}')
    (h : SeriesText close (fun t a => Begins t ∧ Reads one t a) t as) {fuel : Nat} (rest : List Char)
    (hfuel : t.length ≤ fuel) : readSeries close one fuel (t ++ rest) = some (as, rest) := by
  have hspace : isSpace close = false := by rcases hclose with rfl | rfl <;> rfl
  induction h generalizing fuel with
  | @last t w a h hw =>
    simp only [List.length_append, List.length_cons] at hfuel
    obtain ⟨fuel, rfl⟩ : ∃ f, fuel = f + 1 := ⟨fuel - 1, by omega⟩
    have hread := h.2 fuel (w ++ close :: rest) (by omega) (hw.stops (stops_cons (.inr hclose) rest))
    have htext : t ++ (w ++ [close]) ++ rest = t ++ (w ++ close :: rest) := by simp
    rw [htext, Json.readSeries, hread]
    simp [skip_append hw, skip_mark hspace]
  | @more t w w' ts a as h hw hw' hs ih =>
    simp only [List.length_append, List.length_cons] at hfuel
    obtain ⟨fuel, rfl⟩ : ∃ f, fuel = f + 1 := ⟨fuel - 1, by omega⟩
    have hread := h.2 fuel (w ++ ',' :: (w' ++ (ts ++ rest))) (by omega) (hw.stops (stops_cons (.inl rfl) _))
    have htail : Json.readSeries close one fuel (ts ++ rest) = some (_, rest) := ih (by omega)
    have htext : t ++ (w ++ ',' :: (w' ++ ts)) ++ rest = t ++ (w ++ ',' :: (w' ++ (ts ++ rest))) := by simp
    have hbegins : Begins ts := hs.head fun _ _ h => h.1
    have hcomma : ',' ≠ close := by rcases hclose with rfl | rfl <;> decide
    rw [htext, Json.readSeries, hread]
    simp [skip_append hw, skip_append hw', skip_mark (show isSpace ',' = false from rfl), hcomma,
      (hbegins.append rest).skip, htail]

theorem MemberText.begins {value : List Char → Json → Prop} {t : List Char} {m : String × Json}
    (h : MemberText value t m) : Begins t := by
  cases h
  exact ⟨_, rfl, rfl, by decide⟩

theorem MemberText.reads {t : List Char} {m : String × Json}
    (h : MemberText (fun t v => ValueText t v ∧ Reads readValue t v) t m) : Reads readMember t m := by
  cases h with | @member k s w w' t v hk hw hw' h => ?_
  obtain ⟨hvalue, hread⟩ := h
  intro fuel rest hfuel hr
  simp only [List.length_append, List.length_cons] at hfuel
  have hkey := hk.readString (w ++ ':' :: (w' ++ (t ++ rest))) fuel (by omega)
  have hv := hread fuel rest (by omega) hr
  have htext : '"' :: (k ++ (w ++ ':' :: (w' ++ t))) ++ rest = '"' :: (k ++ (w ++ ':' :: (w' ++ (t ++ rest)))) := by simp
  rw [htext, readMember, hkey]
  simp [skip_append hw, skip_append hw', skip_mark (show isSpace ':' = false from rfl),
    (hvalue.begins.append rest).skip, hv]

theorem readValue_mark {mark : Char} (hmark : mark = '[' ∨ mark = '{') {w : List Char} (hw : Blank w) (fuel : Nat)
    (s : List Char) : readValue fuel (mark :: (w ++ s)) = readValue fuel (mark :: s) := by
  cases fuel with
  | zero => rfl
  | succ fuel => rcases hmark with rfl | rfl <;> simp only [readValue, skip_append hw]

theorem reads_cons {α : Type} {read : Nat → List Char → Option (α × List Char)} {c : Char} {t : List Char} {a : α}
    (h : ∀ fuel rest, t.length ≤ fuel → Stops rest → read (fuel + 1) (c :: (t ++ rest)) = some (a, rest)) :
    Reads read (c :: t) a := by
  intro fuel rest hfuel hr
  obtain ⟨fuel, rfl⟩ := Nat.exists_eq_add_one.mpr (Nat.zero_lt_of_lt hfuel)
  exact h fuel rest (Nat.le_of_succ_le_succ hfuel) hr

theorem reads_scalar {t : List Char} {v : Json} (h : ScalarText t v) : Reads readValue t v := by
  obtain ⟨c, cs, rfl, hc⟩ := h.start
  apply reads_cons
  intro fuel rest _ hr
  exact readValue_scalar ⟨c, cs, rfl, hc⟩ (h.readScalar hr) fuel

theorem reads_string {t s : List Char} (h : StringText t s) : Reads readValue ('"' :: t) (.str (String.ofList s)) := by
  apply reads_cons
  intro fuel rest hfuel _
  rw [readValue, h.readString rest fuel hfuel]
  rfl

theorem reads_emptyList {w : List Char} (hw : Blank w) : Reads readValue ('[' :: (w ++ [']'])) (.arr []) := by
  apply reads_cons
  intro fuel rest _ _
  rw [List.append_assoc, readValue_mark (.inl rfl) hw]
  rfl

theorem reads_list {w t : List Char} {vs : List Json} (hw : Blank w)
    (h : SeriesText ']' (fun t v => ValueText t v ∧ Reads readValue t v) t vs) :
    Reads readValue ('[' :: (w ++ t)) (.arr vs) := by
  apply reads_cons
  intro fuel rest hfuel _
  rw [List.length_append] at hfuel
  have hbegins : Begins t := h.head fun _ _ h => h.1.begins
  have hitems := h.imp fun _ _ _ h => And.intro h.1.begins h.2
  have hread := hitems.readSeries (.inl rfl) rest (show t.length ≤ fuel by omega)
  rw [← readItems_eq] at hread
  rw [List.append_assoc, readValue_mark (.inl rfl) hw, readValue_list (hbegins.append rest), hread]
  rfl

theorem reads_emptyObject {w : List Char} (hw : Blank w) : Reads readValue ('{' :: (w ++ ['}'])) (.obj []) := by
  apply reads_cons
  intro fuel rest _ _
  rw [List.append_assoc, readValue_mark (.inr rfl) hw]
  rfl

theorem reads_object {w t : List Char} {ms : Members} (hw : Blank w)
    (h : SeriesText '}' (MemberText fun t v => ValueText t v ∧ Reads readValue t v) t ms) :
    Reads readValue ('{' :: (w ++ t)) (.obj (Members.distinct ms)) := by
  apply reads_cons
  intro fuel rest hfuel _
  rw [List.length_append] at hfuel
  have hquote : ∃ c ∈ t.head?, c = '"' := h.head fun _ _ ⟨_, _, _, _⟩ => ⟨_, rfl, rfl⟩
  obtain ⟨_, hc, rfl⟩ := hquote
  obtain ⟨cs, rfl⟩ := List.head?_eq_some_iff.mp hc
  have hmembers := h.imp fun _ _ _ h => And.intro h.begins h.reads
  have hread := hmembers.readSeries (.inr rfl) rest (show ('"' :: cs).length ≤ fuel by omega)
  rw [← readMembers_eq] at hread
  rw [List.append_assoc, readValue_mark (.inr rfl) hw, List.cons_append, readValue_object, ← List.cons_append, hread]
  rfl

theorem ValueText.reads {t : List Char} {v : Json} (h : ValueText t v) : Reads readValue t v :=
  h.induct reads_scalar reads_string reads_emptyList reads_list reads_emptyObject reads_object

theorem read?_eq_some_iff {s : List Char} {v : Json} : read? s = some v ↔ Denotes s v := by
  constructor
  · intro h
    unfold read? at h
    split at h
    · next v' rest hread =>
      split_ifs at h with hrest
      cases h
      obtain ⟨w, t, hs, hw, ht⟩ := (readValue_sound _).skip hread
      exact ⟨w, t, rest, hs, hw, ht, List.dropWhile_eq_nil_iff.mp hrest⟩
    · cases h
  · rintro ⟨w, t, w', rfl, hw, ht, hw'⟩
    have hskip : skip (w ++ (t ++ w')) = t ++ w' := by rw [skip_append hw, (ht.begins.append w').skip]
    have hstops : Stops w' := by
      rw [← List.append_nil w']
      exact hw'.stops stops_nil
    have hread := ht.reads (2 * (w ++ (t ++ w')).length + 2) w' (by simp only [List.length_append]; omega) hstops
    rw [read?, hskip, hread]
    exact if_pos hw'.skip

end SassData.Json
