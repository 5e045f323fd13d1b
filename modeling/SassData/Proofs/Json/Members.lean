import Mathlib.Data.List.Nodup
import Mathlib.Tactic.Common
import SassData.Json.Basic

namespace SassData.Members

def last? (members : Members) (key : String) : Option Json :=
  get? members.reverse key

def settled : Members → Members
  | [] => []
  | (k, v) :: ms => (k, (last? ms k).getD v) :: (settled ms).filter (·.1 ≠ k)

theorem getD_last?_cons (k key : String) (v d : Json) (ms : Members) :
    (last? ((k, v) :: ms) key).getD d = (last? ms key).getD (if key = k then v else d) := by
  simp only [last?, get?, List.reverse_cons, List.find?_append]
  cases hf : ms.reverse.find? (·.1 = key) with
  | some m => simp
  | none =>
    by_cases hk : key = k
    · simp [hk]
    · simp [hk, Ne.symm hk]

theorem put_of_notMem {key : String} (value : Json) {ms : Members} (h : key ∉ ms.map (·.1)) :
    put key value ms = ms ++ [(key, value)] := by
  induction ms with
  | nil => rfl
  | cons m ms ih =>
    obtain ⟨k, v⟩ := m
    simp only [List.map_cons, List.mem_cons, not_or] at h
    rw [put, if_neg (Ne.symm h.1), ih h.2, List.cons_append]

theorem put_of_mem {key : String} (value : Json) {ms : Members} (h : key ∈ ms.map (·.1))
    (hn : (ms.map (·.1)).Nodup) :
    put key value ms = ms.map fun m => (m.1, if m.1 = key then value else m.2) := by
  induction ms with
  | nil => simp at h
  | cons m ms ih =>
    obtain ⟨k, v⟩ := m
    rw [List.map_cons, List.nodup_cons] at hn
    by_cases hk : k = key
    · subst hk
      have hrest : ms.map (fun m => (m.1, if m.1 = k then value else m.2)) = ms := by
        conv_rhs => rw [← List.map_id ms]
        refine List.map_congr_left fun m hm => ?_
        have hne : m.1 ≠ k := fun he => hn.1 (he ▸ List.mem_map.mpr ⟨m, hm, rfl⟩)
        simp [hne]
      simp [put, hrest]
    · have hin : key ∈ ms.map (·.1) := by simpa [Ne.symm hk] using h
      simp [put, hk, ih hin hn.2]

theorem foldl_put (ms acc : Members) (hn : (acc.map (·.1)).Nodup) :
    ms.foldl (fun acc m => put m.1 m.2 acc) acc =
      acc.map (fun m => (m.1, (last? ms m.1).getD m.2)) ++ (settled ms).filter fun m => m.1 ∉ acc.map (·.1) := by
  induction ms generalizing acc with
  | nil => simp [settled, last?, get?]
  | cons m ms ih =>
    obtain ⟨k, v⟩ := m
    rw [List.foldl_cons]
    simp only [settled, getD_last?_cons]
    by_cases hk : k ∈ acc.map (·.1)
    · have hput := put_of_mem v hk hn
      have hkeys : (put k v acc).map (·.1) = acc.map (·.1) := by simp [hput, Function.comp_def]
      have hrest : ∀ m : String × Json, m.1 ∉ acc.map (·.1) → m.1 ≠ k := fun m hm he => hm (he ▸ hk)
      rw [ih _ (by rwa [hkeys]), hkeys, hput, List.map_map, List.filter_cons_of_neg (by simpa using hk),
        List.filter_filter]
      congr 1
      refine List.filter_congr fun m _ => ?_
      have := hrest m
      by_cases hm : m.1 ∈ acc.map (·.1) <;> simp_all
    · have hput := put_of_notMem v hk
      have hnodup : ((put k v acc).map (·.1)).Nodup := by
        rw [hput, List.map_append, List.nodup_append]
        exact ⟨hn, by simp, by simpa using fun a x ha he => hk (List.mem_map.mpr ⟨(a, x), ha, he⟩)⟩
      rw [ih _ hnodup, hput, List.filter_cons_of_pos (by simpa using hk), List.filter_filter, List.map_append,
        List.append_assoc]
      congr 1
      · refine List.map_congr_left fun m hm => ?_
        have hne : m.1 ≠ k := fun he => hk (he ▸ List.mem_map.mpr ⟨m, hm, rfl⟩)
        simp [hne]
      · simp only [List.map_cons, List.map_nil, List.cons_append, List.nil_append, List.cons.injEq, true_and]
        refine List.filter_congr fun m _ => ?_
        have hmem : m.1 ∈ (acc ++ [(k, v)]).map (·.1) ↔ m.1 ∈ acc.map (·.1) ∨ m.1 = k := by
          rw [List.map_append, List.mem_append, List.map_singleton, List.mem_singleton]
        simp only [decide_not, hmem, Bool.decide_or, Bool.not_or]

theorem distinct_eq_settled (ms : Members) : distinct ms = settled ms := by
  simpa [distinct] using foldl_put ms [] (by simp)

theorem forall_mem_put {P : Json → Prop} {key : String} {value : Json} {ms : Members} (hvalue : P value)
    (hms : ∀ m ∈ ms, P m.2) : ∀ m ∈ put key value ms, P m.2 := by
  induction ms with
  | nil => simpa [put] using hvalue
  | cons m ms ih =>
    obtain ⟨hm, hms⟩ := List.forall_mem_cons.mp hms
    unfold put
    split_ifs
    · exact List.forall_mem_cons.mpr ⟨hvalue, hms⟩
    · exact List.forall_mem_cons.mpr ⟨hm, ih hms⟩

theorem forall_mem_foldl_put {P : Json → Prop} {ms acc : Members} (hms : ∀ m ∈ ms, P m.2) (hacc : ∀ m ∈ acc, P m.2) :
    ∀ m ∈ ms.foldl (fun acc m => put m.1 m.2 acc) acc, P m.2 := by
  induction ms generalizing acc with
  | nil => exact hacc
  | cons m ms ih =>
    obtain ⟨hm, hms⟩ := List.forall_mem_cons.mp hms
    apply ih hms
    exact forall_mem_put hm hacc

theorem forall_mem_distinct {P : Json → Prop} {ms : Members} (hms : ∀ m ∈ ms, P m.2) : ∀ m ∈ distinct ms, P m.2 :=
  forall_mem_foldl_put hms nofun

end SassData.Members
