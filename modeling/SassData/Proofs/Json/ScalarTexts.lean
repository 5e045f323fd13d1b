import SassData.Proofs.Json.StringTexts

namespace SassData.Json

theorem readDigits_eq {cs ds rest : List Char} (h : readDigits cs = (ds, rest)) (hne : ds ≠ []) :
    cs = ds ++ rest ∧ IsDigits ds := by
  obtain ⟨rfl, rfl⟩ := Prod.mk.inj h
  exact ⟨List.takeWhile_append_dropWhile.symm, hne, fun _ hc => List.mem_takeWhile_imp hc⟩

theorem readWhole_eq_some {cs ds rest : List Char} (h : readWhole cs = some (ds, rest)) :
    cs = ds ++ rest ∧ IsWhole ds := by
  unfold readWhole at h
  split at h
  · cases h
  · cases h
  · next hne hzero hread =>
    cases h
    obtain ⟨hcs, hds⟩ := readDigits_eq hread hne
    refine ⟨hcs, hds, ?_⟩
    intro hhead
    obtain ⟨ds', rfl⟩ := List.head?_eq_some_iff.mp hhead
    cases ds' with
    | nil => rfl
    | cons d ds' => exact absurd rfl (hzero d ds')

theorem readFraction_eq_some {cs rest : List Char} {fraction : Option (List Char)}
    (h : readFraction cs = some (fraction, rest)) :
    cs = fractionText fraction ++ rest ∧ ∀ ds ∈ fraction, IsDigits ds := by
  unfold readFraction at h
  split at h
  · split at h
    · cases h
    · next hne hread =>
      cases h
      obtain ⟨rfl, hds⟩ := readDigits_eq hread hne
      exact ⟨rfl, by simpa using hds⟩
  · cases h
    exact ⟨rfl, nofun⟩

theorem sign_eq (cs : List Char) : ∃ t, cs = t ++ (Numeral.sign cs).2 ∧ SignText t (Numeral.sign cs).1 := by
  unfold Numeral.sign
  split
  · exact ⟨['-'], rfl, .minus⟩
  · exact ⟨['+'], rfl, .plus⟩
  · exact ⟨[], rfl, .absent⟩

theorem readExponent_sound : Sound readExponent ExponentText := by
  intro cs exponent rest h
  unfold readExponent at h
  split at h
  · next c cs =>
    obtain ⟨t, hcs, hsign⟩ := sign_eq cs
    split_ifs at h with hmark
    · dsimp only at h
      split at h
      · cases h
      · next ds after hne hread =>
        cases h
        obtain ⟨hafter, hds⟩ := readDigits_eq hread hne
        refine ⟨c :: (t ++ ds), ?_, .present hmark hsign hds⟩
        rw [hcs, hafter, List.cons_append, List.append_assoc]
    · cases h
      exact ⟨[], rfl, .absent⟩
  · cases h
    exact ⟨[], rfl, .absent⟩

theorem readNumber_sound (negative : Bool) : Sound (readNumber negative) (NumberText negative) := by
  intro cs v rest h
  simp only [readNumber, Option.bind_eq_bind, Option.bind_eq_some_iff] at h
  obtain ⟨⟨whole, afterWhole⟩, hreadWhole, ⟨fraction, afterFraction⟩, hreadFraction, ⟨exponent, after⟩,
    hreadExponent, h⟩ := h
  obtain ⟨rfl, hwhole⟩ := readWhole_eq_some hreadWhole
  obtain ⟨hfollow, hfraction⟩ := readFraction_eq_some hreadFraction
  obtain ⟨e, hfollow', he⟩ := readExponent_sound hreadExponent
  dsimp only at hfollow hfollow' h
  subst hfollow hfollow'
  split at h
  · by_cases hlength : whole.length ≤ maxDigits
    · rw [if_pos hlength] at h
      cases h
      cases he
      exact ⟨whole, rfl, .int hwhole hlength⟩
    · rw [if_neg hlength] at h
      cases h
  · next hany =>
    cases h
    refine ⟨whole ++ (fractionText fraction ++ e), by simp, .float hwhole hfraction he ?_⟩
    by_contra hnone
    rw [not_or, not_not, not_not] at hnone
    exact hany hnone.1 hnone.2

theorem afterWord_eq_some {word cs rest : List Char} (h : afterWord word cs = some rest) : cs = word ++ rest := by
  fun_induction afterWord word cs with
  | case1 cs => simpa using h
  | case2 c ws cs ih => rw [ih h, List.cons_append]
  | case3 => cases h
  | case4 => cases h

theorem readScalar_sound : Sound readScalar ScalarText := by
  intro cs v rest h
  have hword : ∀ {word cs' t : List Char} {w : Json}, (afterWord word cs').map (w, ·) = some (v, rest) →
      cs = t ++ cs' → (t ++ word, w) ∈ wordTexts → ∃ t, cs = t ++ rest ∧ ScalarText t v := by
    intro word cs' t w h hcs hmem
    obtain ⟨after, hafter, he⟩ := Option.map_eq_some_iff.mp h
    cases he
    rw [afterWord_eq_some hafter] at hcs
    exact ⟨t ++ word, by rw [hcs, List.append_assoc], .word hmem⟩
  unfold readScalar at h
  split at h
  · exact hword h (t := ['n']) rfl (by simp [wordTexts])
  · exact hword h (t := ['t']) rfl (by simp [wordTexts])
  · exact hword h (t := ['f']) rfl (by simp [wordTexts])
  · exact hword h (t := ['N']) rfl (by simp [wordTexts])
  · exact hword h (t := ['I']) rfl (by simp [wordTexts])
  · exact hword h (t := ['-', 'I']) rfl (by simp [wordTexts])
  · obtain ⟨t, rfl, ht⟩ := readNumber_sound true h
    exact ⟨'-' :: t, rfl, .number ht⟩
  · obtain ⟨t, rfl, ht⟩ := readNumber_sound false h
    exact ⟨t, rfl, .number ht⟩

theorem SignText.sign {t ds : List Char} {negative : Bool} (h : SignText t negative) (hds : IsDigits ds)
    (rest : List Char) : Numeral.sign (t ++ (ds ++ rest)) = (negative, ds ++ rest) := by
  cases h with
  | plus => rfl
  | minus => rfl
  | absent =>
    obtain ⟨c, hc, hdigit⟩ := hds.head_append rest
    obtain ⟨cs, hcs⟩ := List.head?_eq_some_iff.mp hc
    rw [List.nil_append, hcs]
    unfold Numeral.sign
    split
    · next he => cases he; cases hdigit
    · next he => cases he; cases hdigit
    · rfl

theorem ExponentText.readExponent {e rest : List Char} {exponent : Option Int} (h : ExponentText e exponent)
    (hr : Stops rest) : readExponent (e ++ rest) = some (exponent, rest) := by
  cases h with
  | absent => exact @readExponent_append none rest nofun hr
  | present hmark hsign hds =>
    have hread := readDigits_append hds fun c hc => (hr c hc).1
    rw [List.cons_append, List.append_assoc, Json.readExponent, if_pos hmark, hsign.sign hds]
    dsimp only
    rw [hread]
    split
    · next he => exact absurd (congrArg Prod.fst he) hds.1
    · next he => cases he; rfl

theorem ExponentText.head {e rest : List Char} {exponent : Option Int} (h : ExponentText e exponent)
    (hr : Stops rest) : ∀ c ∈ (e ++ rest).head?, c.isDigit = false ∧ c ≠ '.' := by
  cases h with
  | absent => exact fun c hc => ⟨(hr c hc).1, (hr c hc).2.1⟩
  | present hmark =>
    rintro c hc
    cases hc
    rcases hmark with rfl | rfl <;> decide

theorem NumberText.readNumber {negative : Bool} {t rest : List Char} {v : Json} (h : NumberText negative t v)
    (hr : Stops rest) : readNumber negative (t ++ rest) = some (v, rest) := by
  cases h with
  | int hds hlength =>
    have hwhole := readWhole_append hds fun c hc => (hr c hc).1
    have hfraction := @readFraction_append none rest nofun fun c hc => ⟨(hr c hc).1, (hr c hc).2.1⟩
    have hexponent := ExponentText.absent.readExponent hr
    rw [fractionText, List.nil_append] at hfraction
    rw [List.nil_append] at hexponent
    simp [Json.readNumber, hwhole, hfraction, hexponent, hlength]
  | @float whole e fraction exponent hwhole hfraction he hany =>
    have h1 := he.head hr
    have h2 := head_fractionText fraction fun c hc => (h1 c hc).1
    rw [List.append_assoc, List.append_assoc]
    simp only [Json.readNumber, readWhole_append hwhole h2, readFraction_append hfraction h1, he.readExponent hr,
      Option.bind_eq_bind, Option.bind_some]
    split
    · simp at hany
    · rfl

theorem NumberText.head {negative : Bool} {t : List Char} {v : Json} (h : NumberText negative t v) :
    ∃ c ∈ t.head?, c.isDigit := by
  cases h with
  | int hds => simpa using hds.1.head_append []
  | float hwhole => exact hwhole.1.head_append _

theorem ScalarText.readScalar {t rest : List Char} {v : Json} (h : ScalarText t v) (hr : Stops rest) :
    readScalar (t ++ rest) = some (v, rest) := by
  cases h with
  | word h =>
    simp only [wordTexts, List.mem_cons, List.not_mem_nil, or_false, Prod.mk.injEq] at h
    rcases h with ⟨rfl, rfl⟩ | ⟨rfl, rfl⟩ | ⟨rfl, rfl⟩ | ⟨rfl, rfl⟩ | ⟨rfl, rfl⟩ | ⟨rfl, rfl⟩ <;> rfl
  | @number negative t v h =>
    obtain ⟨c, hc, hdigit⟩ := h.head
    obtain ⟨cs, rfl⟩ := List.head?_eq_some_iff.mp hc
    have hsigned := readScalar_signed (s := c :: cs ++ rest) ⟨c, rfl, hdigit⟩ negative
    rw [h.readNumber hr] at hsigned
    rw [← hsigned]
    cases negative <;> rfl

theorem ScalarText.start {t : List Char} {v : Json} (h : ScalarText t v) : ∃ c cs, t = c :: cs ∧ IsScalarStart c := by
  cases h with
  | word h =>
    simp only [wordTexts, List.mem_cons, List.not_mem_nil, or_false, Prod.mk.injEq] at h
    rcases h with ⟨rfl, -⟩ | ⟨rfl, -⟩ | ⟨rfl, -⟩ | ⟨rfl, -⟩ | ⟨rfl, -⟩ | ⟨rfl, -⟩
    all_goals exact ⟨_, _, rfl, by unfold IsScalarStart; decide⟩
  | number h => exact scalarStart_signed h.head _

end SassData.Json
