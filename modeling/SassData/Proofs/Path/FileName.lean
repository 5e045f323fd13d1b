import SassData.Proofs.Path.FixedPoint
import SassData.Proofs.Text.Trimming

namespace SassData.Path

def fileName (p : List Char) : List Char :=
  p.rtakeWhile (· ≠ '/')

theorem slash_notMem_fileName (p : List Char) : '/' ∉ fileName p := by
  intro h
  have hslash := List.mem_rtakeWhile_imp h
  exact of_decide_eq_true hslash rfl

def IsFront (a : List Char) : Prop :=
  ∀ c ∈ a.getLast?, c = '/'

theorem fileName_append {a : List Char} (ha : IsFront a) (p : List Char) : fileName (a ++ p) = fileName p := by
  apply Text.rtakeWhile_append_stop
  intro c hc
  rw [ha c hc]
  decide

theorem fileName_join (directory p : List Char) : fileName (join directory p) = fileName p := by
  unfold join
  split_ifs with habsolute hfront
  · rfl
  · apply fileName_append
    intro c hc
    obtain rfl | hslash := hfront
    · cases hc
    · rw [hslash] at hc
      exact (Option.some.inj hc).symm
  · rw [List.append_cons]
    apply fileName_append
    intro c hc
    rw [List.getLast?_concat] at hc
    exact (Option.some.inj hc).symm

theorem front_append_fileName (p : List Char) : ∃ front, IsFront front ∧ front ++ fileName p = p := by
  refine ⟨p.rdropWhile (· ≠ '/'), ?_, List.rdropWhile_append_rtakeWhile⟩
  intro c hc
  have hlast := Text.getLast?_rdropWhile _ p c hc
  rwa [decide_eq_true_eq, not_not] at hlast

theorem getLast?_parts (p : List Char) : (parts p).getLast? = some (fileName p) := by
  have hname := slash_notMem_fileName p
  obtain ⟨front, hfront, hp⟩ := front_append_fileName p
  obtain rfl | ⟨before, c, rfl⟩ := List.eq_nil_or_concat' front
  · rw [List.nil_append] at hp
    rw [hp] at hname
    rw [parts, Text.pieces_self hname, hp]
    rfl
  · rw [hfront c List.getLast?_concat, List.append_assoc, List.singleton_append] at hp
    rw [parts, ← hp, Text.pieces_append_sep, hp, Text.pieces_self hname, List.getLast?_concat]

theorem walk_append (anchored : Bool) (done cs ds : List (List Char)) :
    walk anchored done (cs ++ ds) = walk anchored (walk anchored done cs).reverse ds := by
  fun_induction walk anchored done cs with
  | case1 done => rw [List.nil_append, List.reverse_reverse]
  | case2 done c cs hskip ih => rw [List.cons_append, walk_skip hskip, ih]
  | case3 done c cs hskip hup ih => rw [List.cons_append, walk_push (not_or.mp hskip) hup, ih]
  | case4 c cs hskip hup hanchored ih => rw [List.cons_append, walk, if_neg hskip, if_neg hup, if_pos hanchored, ih]
  | case5 c cs hskip hup hrelative ih => rw [List.cons_append, walk, if_neg hskip, if_neg hup, if_neg hrelative, ih]
  | case6 c cs hskip hup ds ih => rw [List.cons_append, walk, if_neg hskip, if_neg hup, if_pos rfl, ih]
  | case7 c cs hskip hup d ds hd ih => rw [List.cons_append, walk, if_neg hskip, if_neg hup, if_neg hd, ih]

section

variable {p : List Char} (hname : IsEntry (fileName p))

include hname

theorem getLast?_components : (components p).getLast? = some (fileName p) := by
  obtain ⟨before, hparts⟩ := List.getLast?_eq_some_iff.mp (getLast?_parts p)
  obtain ⟨⟨hne, hdot, -⟩, hup⟩ := hname
  rw [components, hparts, walk_append, walk_push ⟨hne, hdot⟩ hup, walk, List.reverse_cons, List.reverse_reverse,
    List.getLast?_concat]

theorem fileName_normalize (hp : isAbsolute p) : fileName (normalize p) = fileName p := by
  have hlast := getLast?_components hname
  have hne : components p ≠ [] := by
    intro hnil
    rw [hnil] at hlast
    cases hlast
  have hparts : parts (Text.glue ['/'] (components p)) = components p :=
    Text.pieces_glue hne fun c hc => (components_isComponent p c hc).2.2
  have hfront : IsFront (anchor p) := by
    intro c hc
    obtain ha | ha := anchor_isAnchor hp <;> rw [ha] at hc <;> exact (Option.some.inj hc).symm
  have hglue := getLast?_parts (Text.glue ['/'] (components p))
  rw [hparts, hlast] at hglue
  rw [normalize_eq hp, fileName_append hfront, ← Option.some.inj hglue]

theorem fileName_absolute {cwd : List Char} (hcwd : isAbsolute cwd) : fileName (absolute cwd p) = fileName p := by
  have hjoin := fileName_join cwd p
  rw [← hjoin] at hname
  rw [absolute, fileName_normalize hname (isAbsolute_join hcwd p), hjoin]

end

theorem isDataModule_iff {p : List Char} : isDataModule p ↔ ['.', 'p', 'y'] <:+ p ∨ ['.', 'p', 'y', 'w'] <:+ p := by
  rw [isDataModule, Bool.or_eq_true, List.isSuffixOf_iff_suffix, List.isSuffixOf_iff_suffix]

theorem suffix_fileName_iff {e p : List Char} (he : '/' ∉ e) : e <:+ fileName p ↔ e <:+ p := by
  constructor
  · intro h
    exact h.trans (List.rtakeWhile_suffix _ p)
  · rintro ⟨q, rfl⟩
    have hall : ∀ c ∈ e, decide (c ≠ '/') := by
      intro c hc
      rw [decide_eq_true_eq]
      rintro rfl
      exact he hc
    rw [fileName, Text.rtakeWhile_append_of_pos hall]
    exact List.suffix_append _ e

theorem isDataModule_fileName (p : List Char) : isDataModule (fileName p) = isDataModule p := by
  rw [Bool.eq_iff_iff, isDataModule_iff, isDataModule_iff, suffix_fileName_iff (by decide),
    suffix_fileName_iff (by decide)]

theorem isEntry_of_isDataModule {c : List Char} (hc : isDataModule c) (hslash : '/' ∉ c) : IsEntry c := by
  refine ⟨⟨?_, ?_, hslash⟩, ?_⟩ <;> rintro rfl <;> revert hc <;> decide

end SassData.Path
