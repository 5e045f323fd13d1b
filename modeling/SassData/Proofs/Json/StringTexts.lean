import SassData.Proofs.Json.Grammar

namespace SassData.Json

def Sound {α : Type} (read : List Char → Option (α × List Char)) (text : List Char → α → Prop) : Prop :=
  ∀ ⦃cs a rest⦄, read cs = some (a, rest) → ∃ t, cs = t ++ rest ∧ text t a

theorem HexText.length {u : List Char} {n : Nat} (h : HexText u n) : u.length = 4 := by
  obtain ⟨a, b, c, d, hu, -⟩ := h
  simpa using congrArg List.length hu

theorem HexText.readUnit {u : List Char} {n : Nat} (h : HexText u n) (rest : List Char) :
    readUnit (u ++ rest) = some (n, rest) := by
  obtain ⟨a, b, c, d, hu, rfl⟩ := h
  simp only [List.map_eq_cons_iff, List.map_eq_nil_iff] at hu
  obtain ⟨a', _, rfl, ha, b', _, rfl, hb, c', _, rfl, hc, d', _, rfl, hd, rfl⟩ := hu
  simp [Json.readUnit, ha, hb, hc, hd]

theorem readUnit_sound : Sound readUnit HexText := by
  intro cs n rest h
  unfold readUnit at h
  split at h
  · next a b c d rest' =>
    simp only [Option.bind_eq_bind, Option.bind_eq_some_iff, Option.pure_def, Option.some.injEq, Prod.mk.injEq] at h
    obtain ⟨a', ha, b', hb, c', hc, d', hd, rfl, rfl⟩ := h
    exact ⟨[a, b, c, d], rfl, a', b', c', d', by simp [ha, hb, hc, hd], rfl⟩
  · cases h

theorem readLow_of_isLow {u : List Char} {n : Nat} (hu : HexText u n) (hn : IsLow n) (rest : List Char) :
    readLow ('\\' :: 'u' :: (u ++ rest)) = some (n, rest) := by
  unfold IsLow at hn
  simp [readLow, hu.readUnit, hn]

theorem readLow_eq_some {cs rest : List Char} {n : Nat} (h : readLow cs = some (n, rest)) :
    ∃ u, cs = '\\' :: 'u' :: (u ++ rest) ∧ HexText u n ∧ IsLow n := by
  unfold readLow at h
  split at h
  · simp only [Option.bind_eq_bind, Option.bind_eq_some_iff] at h
    obtain ⟨⟨m, after⟩, hunit, h⟩ := h
    obtain ⟨u, rfl, hu⟩ := readUnit_sound hunit
    split_ifs at h with hlow
    cases h
    exact ⟨u, rfl, hu, hlow⟩
  · cases h

theorem readLow_eq_none {cs : List Char} : readLow cs = none ↔ ¬ StartsLow cs := by
  constructor
  · rintro h ⟨u, n, rest, rfl, hu, hn⟩
    rw [readLow_of_isLow hu hn] at h
    cases h
  · intro h
    cases hlow : readLow cs with
    | none => rfl
    | some r =>
      obtain ⟨u, he, hu, hn⟩ := readLow_eq_some hlow
      exact absurd ⟨u, r.1, r.2, he, hu, hn⟩ h

theorem StartsLow.append {t : List Char} (h : StartsLow t) (rest : List Char) : StartsLow (t ++ rest) := by
  obtain ⟨u, n, more, rfl, hu, hn⟩ := h
  exact ⟨u, n, more ++ rest, by simp, hu, hn⟩

theorem StringText.startsLow {t s rest : List Char} (h : StringText t s) (hlow : StartsLow (t ++ rest)) :
    StartsLow t := by
  obtain ⟨u, n, more, he, hu, hn⟩ := hlow
  have hunit : ∀ {u' t' : List Char} {n' : Nat}, t = '\\' :: 'u' :: (u' ++ t') → HexText u' n' → StartsLow t := by
    intro u' t' n' ht hu'
    rw [ht, List.cons_append, List.cons_append, List.append_assoc] at he
    have hus : u' = u := List.append_inj_left (List.tail_eq_of_cons_eq (List.tail_eq_of_cons_eq he)) (by
      rw [hu'.length, hu.length])
    exact ⟨u, n, t', by rw [ht, hus], hu, hn⟩
  cases h with
  | close => cases he
  | plain hc hquote hback =>
    exact absurd (List.head_eq_of_cons_eq he) hback
  | short hd =>
    have hc := List.head_eq_of_cons_eq (List.tail_eq_of_cons_eq he)
    rw [hc] at hd
    cases hd
  | unit hu' => exact hunit rfl hu'
  | pair hu' => exact hunit rfl hu'
  | half hu' => exact hunit rfl hu'

theorem StringText.cons_units {cs t s rest : List Char} {c : Char} (hunits : readUnits cs = some (c, t ++ rest))
    (h : StringText t s) : ∃ t', cs = t' ++ rest ∧ StringText ('\\' :: 'u' :: t') (c :: s) := by
  simp only [readUnits, Option.bind_eq_bind, Option.bind_eq_some_iff] at hunits
  obtain ⟨⟨n, after⟩, hunit, hunits⟩ := hunits
  obtain ⟨u, rfl, hu⟩ := readUnit_sound hunit
  dsimp only at hunits
  split_ifs at hunits with hhigh hlow
  · split at hunits
    · next low after' hpair =>
      obtain ⟨rfl, rfl⟩ := Prod.mk.inj (Option.some.inj hunits)
      obtain ⟨u', rfl, hu', hlow⟩ := readLow_eq_some hpair
      exact ⟨u ++ '\\' :: 'u' :: (u' ++ t), by simp, .pair hu hhigh hu' hlow h⟩
    · next hnone =>
      obtain ⟨rfl, rfl⟩ := Prod.mk.inj (Option.some.inj hunits)
      have hstarts : ¬ StartsLow t := fun ht => readLow_eq_none.mp hnone (ht.append rest)
      exact ⟨u ++ t, by simp, .half hu (.inl ⟨hhigh, hstarts⟩) h⟩
  · obtain ⟨rfl, rfl⟩ := Prod.mk.inj (Option.some.inj hunits)
    exact ⟨u ++ t, by simp, .half hu (.inr hlow) h⟩
  · obtain ⟨rfl, rfl⟩ := Prod.mk.inj (Option.some.inj hunits)
    exact ⟨u ++ t, by simp, .unit hu hhigh hlow h⟩

theorem StringText.cons {cs t s rest : List Char} {c : Char} (hchar : readChar cs = some (some c, t ++ rest))
    (h : StringText t s) : ∃ t', cs = t' ++ rest ∧ StringText t' (c :: s) := by
  unfold readChar at hchar
  split at hchar
  · cases hchar
  · cases hchar
  · obtain ⟨⟨d, after⟩, hunits, he⟩ := Option.map_eq_some_iff.mp hchar
    simp only [Option.some.injEq, Prod.mk.injEq] at he
    obtain ⟨rfl, rfl⟩ := he
    obtain ⟨t', rfl, ht'⟩ := h.cons_units hunits
    exact ⟨_, rfl, ht'⟩
  · obtain ⟨d, hd, he⟩ := Option.map_eq_some_iff.mp hchar
    cases he
    exact ⟨_, rfl, .short hd h⟩
  · next hquote _ _ =>
    split_ifs at hchar with hc
    cases hchar
    simp only [not_or, not_lt] at hc
    exact ⟨_, rfl, .plain hc.2 (fun he => hquote he) hc.1 h⟩

theorem readChar_eq_close {cs rest : List Char} (h : readChar cs = some (none, rest)) : cs = '"' :: rest := by
  unfold readChar at h
  split at h
  · cases h
  · cases h
    rfl
  · obtain ⟨r, -, he⟩ := Option.map_eq_some_iff.mp h
    cases he
  · obtain ⟨r, -, he⟩ := Option.map_eq_some_iff.mp h
    cases he
  · split_ifs at h
    cases h

theorem readString_sound (fuel : Nat) : Sound (readString fuel) StringText := by
  induction fuel with
  | zero => nofun
  | succ fuel ih =>
    intro cs s rest h
    simp only [readString, Option.bind_eq_bind, Option.bind_eq_some_iff] at h
    obtain ⟨⟨c?, after⟩, hchar, h⟩ := h
    cases c? with
    | none =>
      cases h
      exact ⟨['"'], readChar_eq_close hchar, .close⟩
    | some c =>
      simp only [Option.bind_eq_some_iff] at h
      obtain ⟨⟨s', after'⟩, htail, h⟩ := h
      cases h
      obtain ⟨t, rfl, ht⟩ := ih htail
      exact ht.cons hchar

theorem readChar_of_readUnits {c : Char} {cs rest : List Char} (h : readUnits cs = some (c, rest)) :
    readChar ('\\' :: 'u' :: cs) = some (some c, rest) := by
  rw [readChar, h]
  rfl

theorem readChar_short {c d : Char} (hd : shortEscape? c = some d) (rest : List Char) :
    readChar ('\\' :: c :: rest) = some (some d, rest) := by
  have hu : c ≠ 'u' := by
    rintro rfl
    cases hd
  rw [readChar]
  · rw [hd]
    rfl
  · exact hu

theorem readUnits_two {u u' : List Char} {high low : Nat} (hu : HexText u high) (hhigh : IsHigh high)
    (hu' : HexText u' low) (hlow : IsLow low) (rest : List Char) :
    readUnits (u ++ '\\' :: 'u' :: (u' ++ rest)) =
      some (Char.ofNat (0x10000 + (high - 0xD800) * 0x400 + (low - 0xDC00)), rest) := by
  unfold IsHigh at hhigh
  simp [readUnits, hu.readUnit, hhigh, readLow_of_isLow hu' hlow]

theorem readUnits_half {u rest : List Char} {n : Nat} (hu : HexText u n)
    (hn : (IsHigh n ∧ readLow rest = none) ∨ IsLow n) : readUnits (u ++ rest) = some (Text.Utf8.replacement, rest) := by
  unfold IsHigh IsLow at hn
  rcases hn with ⟨hhigh, hlow⟩ | hlow
  · simp [readUnits, hu.readUnit, hhigh, hlow]
  · have hhigh : ¬ n ≤ 0xDBFF := by omega
    simp [readUnits, hu.readUnit, hhigh, hlow]

theorem readUnits_whole {u : List Char} {n : Nat} (hu : HexText u n) (hhigh : ¬ IsHigh n) (hlow : ¬ IsLow n)
    (rest : List Char) : readUnits (u ++ rest) = some (Char.ofNat n, rest) := by
  unfold IsHigh at hhigh
  unfold IsLow at hlow
  simp only [readUnits, hu.readUnit, Option.bind_eq_bind, Option.bind_some, if_neg hhigh, if_neg hlow]
  rfl

theorem readString_cons {c : Char} {cs t s rest : List Char} (hchar : readChar cs = some (some c, t ++ rest))
    (ht : ∀ fuel, t.length ≤ fuel → readString fuel (t ++ rest) = some (s, rest)) {fuel : Nat}
    (hfuel : t.length < fuel) : readString fuel cs = some (c :: s, rest) := by
  obtain ⟨fuel, rfl⟩ := Nat.exists_eq_add_one.mpr (Nat.zero_lt_of_lt hfuel)
  simp [readString, hchar, ht fuel (Nat.le_of_lt_succ hfuel)]

theorem StringText.readString {t s : List Char} (h : StringText t s) (rest : List Char) (fuel : Nat)
    (hfuel : t.length ≤ fuel) : readString fuel (t ++ rest) = some (s, rest) := by
  induction h generalizing fuel with
  | close =>
    obtain ⟨fuel, rfl⟩ := Nat.exists_eq_add_one.mpr hfuel
    rfl
  | plain hc hquote hback h ih => exact readString_cons (readChar_plain hquote hback hc _) ih hfuel
  | short hd h ih =>
    simp only [List.length_cons] at hfuel
    exact readString_cons (readChar_short hd _) ih (by omega)
  | unit hu hhigh hlow h ih =>
    simp only [List.length_cons, List.length_append] at hfuel
    simp only [List.cons_append, List.append_assoc]
    exact readString_cons (readChar_of_readUnits (readUnits_whole hu hhigh hlow _)) ih (by omega)
  | pair hu hhigh hu' hlow h ih =>
    simp only [List.length_cons, List.length_append] at hfuel
    simp only [List.cons_append, List.append_assoc]
    exact readString_cons (readChar_of_readUnits (readUnits_two hu hhigh hu' hlow _)) ih (by omega)
  | @half _ t _ n hu hn h ih =>
    simp only [List.length_cons, List.length_append] at hfuel
    simp only [List.cons_append, List.append_assoc]
    have hnone : (IsHigh n ∧ readLow (t ++ rest) = none) ∨ IsLow n :=
      hn.imp_left (And.imp_right fun ht => readLow_eq_none.mpr (mt h.startsLow ht))
    exact readString_cons (readChar_of_readUnits (readUnits_half hu hnone)) ih (by omega)

end SassData.Json
