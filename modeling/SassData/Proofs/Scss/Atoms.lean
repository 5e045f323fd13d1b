import SassData.Proofs.Json.Strings
import SassData.Proofs.Number.Layout
import SassData.Scss.Printer

namespace SassData.Scss

theorem afterClosing_plain {mark c : Char} (hb : c ≠ '\\') (cs : List Char) :
    afterClosing mark (c :: cs) = if c = mark then some cs else afterClosing mark cs := by
  rw [afterClosing]
  · simp [hb]
  · exact fun _ _ h => absurd h hb

theorem afterClosing_skip {mark : Char} {ds : List Char} (hd : ∀ c ∈ ds, c ≠ mark ∧ c ≠ '\\') (cs : List Char) :
    afterClosing mark (ds ++ cs) = afterClosing mark cs := by
  induction ds with
  | nil => rfl
  | cons d ds ih =>
    obtain ⟨⟨hm, hb⟩, hds⟩ := List.forall_mem_cons.mp hd
    rw [List.cons_append, afterClosing_plain hb, if_neg hm, ih hds]

theorem afterClosing_append {mark : Char} (hm : mark ≠ '\\') {s t : List Char} (h : afterClosing mark s = some t)
    (rest : List Char) : afterClosing mark (s ++ rest) = some (t ++ rest) := by
  fun_induction afterClosing mark s with
  | case1 => cases h
  | case2 c cs ih => exact ih h
  | case3 cs =>
    cases h
    rw [List.cons_append, afterClosing_plain hm, if_pos rfl]
  | case4 => cases h
  | case5 c cs _ hc hb ih => rw [List.cons_append, afterClosing_plain hb, if_neg hc, ih h]

theorem afterQuoted_append {s t : List Char} (h : afterQuoted s = some t) (rest : List Char) :
    afterQuoted (s ++ rest) = some (t ++ rest) := by
  unfold afterQuoted at h
  split at h
  · exact afterClosing_append (by decide) h rest
  · exact afterClosing_append (by decide) h rest
  · cases h

def isDelimiter (c : Char) : Bool :=
  c ∈ ['"', '\x27', '(', ')', ',', ':', ';']

def Ends (rest : List Char) : Prop :=
  ∀ c ∈ rest.head?, isDelimiter c

def afterAtom (cs : List Char) : List Char :=
  (afterQuoted cs).getD (cs.dropWhile (!isDelimiter ·))

structure Atom (s : List Char) : Prop where
  begins : ∃ c cs, s = c :: cs ∧ c ≠ '(' ∧ c ≠ ')'
  afterAtom_append : ∀ rest, Ends rest → afterAtom (s ++ rest) = rest

theorem Atom.append_inj {s t r r' : List Char} (hs : Atom s) (ht : Atom t) (hr : Ends r) (hr' : Ends r')
    (h : s ++ r = t ++ r') : s = t ∧ r = r' := by
  have he : r = r' := by rw [← hs.afterAtom_append r hr, h, ht.afterAtom_append r' hr']
  subst he
  exact ⟨List.append_cancel_right h, rfl⟩

theorem atom_quoted {s : List Char} (h : afterQuoted s = some []) : Atom s := by
  refine ⟨?_, fun rest _ => ?_⟩
  · unfold afterQuoted at h
    split at h
    · exact ⟨_, _, rfl, by decide⟩
    · exact ⟨_, _, rfl, by decide⟩
    · cases h
  · rw [afterAtom, afterQuoted_append h rest]
    rfl

theorem atom_word {s : List Char} (hne : s ≠ []) (h : s.all (!isDelimiter ·)) : Atom s := by
  obtain ⟨c, cs, rfl⟩ := List.exists_cons_of_ne_nil hne
  have hall := List.all_eq_true.mp h
  have hc : isDelimiter c = false := by simpa using hall c (by simp)
  refine ⟨⟨c, cs, rfl, ?_, ?_⟩, fun rest hr => ?_⟩
  · rintro rfl; cases hc
  · rintro rfl; cases hc
  · have hnone : afterQuoted (c :: cs ++ rest) = none := by
      rw [List.cons_append]
      unfold afterQuoted
      split
      · next he => cases he; cases hc
      · next he => cases he; cases hc
      · rfl
    rw [afterAtom, hnone, Option.getD_none, List.dropWhile_append_of_pos hall]
    cases rest with
    | nil => rfl
    | cons d ds => rw [List.dropWhile_cons_of_neg (by simp [hr d rfl])]

theorem not_isDelimiter {c : Char} (h : isNameChar c ∨ c = '#' ∨ c = '+' ∨ c = '.') : !isDelimiter c := by
  rw [Bool.not_eq_true', Bool.eq_false_iff]
  intro hd
  simp only [isDelimiter, List.mem_cons, List.not_mem_nil, or_false, decide_eq_true_eq] at hd
  rcases hd with rfl | rfl | rfl | rfl | rfl | rfl | rfl <;> revert h <;> decide

theorem isNameChar_hexDigit {c : Char} (h : isHexDigit c) : isNameChar c := by
  simp only [isHexDigit, Bool.or_eq_true, Bool.and_eq_true, decide_eq_true_eq] at h
  simp only [isNameChar, Json.isAlphanum_iff, Bool.or_eq_true, decide_eq_true_eq]
  simp only [Json.char_le_iff, Char.reduceToNat] at h ⊢
  omega

theorem isNameChar_nameStart {c : Char} (h : isNameStart c || c = '-') : isNameChar c := by
  simp only [isNameStart, Bool.or_eq_true, decide_eq_true_eq] at h
  simp only [isNameChar, Char.isAlphanum, Bool.or_eq_true, decide_eq_true_eq]
  tauto

theorem afterHexDigits_eq_some_iff {n : Nat} {cs rest : List Char} :
    afterHexDigits n cs = some rest ↔ ∃ ds, cs = ds ++ rest ∧ ds.length = n ∧ ∀ c ∈ ds, isHexDigit c := by
  constructor
  · intro h
    fun_induction afterHexDigits n cs with
    | case1 cs => exact ⟨[], Option.some.inj h, rfl, nofun⟩
    | case2 n c cs hc ih =>
      obtain ⟨ds, rfl, rfl, hds⟩ := ih h
      exact ⟨c :: ds, rfl, rfl, List.forall_mem_cons.mpr ⟨hc, hds⟩⟩
    | case3 => cases h
    | case4 => cases h
  · rintro ⟨ds, rfl, rfl, hds⟩
    induction ds with
    | nil => rfl
    | cons d ds ih =>
      obtain ⟨hd, hds⟩ := List.forall_mem_cons.mp hds
      rw [List.length_cons, List.cons_append, afterHexDigits, if_pos hd, ih hds]

theorem atom_color {s : List Char} (h : afterColor s = some []) : Atom s := by
  unfold afterColor at h
  split at h
  · next cs =>
    have hall : ∀ c ∈ cs, isHexDigit c := by
      have hone : ∀ n, afterHexDigits n cs = some [] → ∀ c ∈ cs, isHexDigit c := by
        intro n hn
        obtain ⟨ds, rfl, -, hds⟩ := afterHexDigits_eq_some_iff.mp hn
        simpa using hds
      simp only [Option.orElse_eq_orElse, Option.orElse_eq_or, Option.or_eq_some_iff] at h
      obtain h | ⟨-, h | ⟨-, h | ⟨-, h⟩⟩⟩ := h <;> exact hone _ h
    apply atom_word (List.cons_ne_nil _ _)
    rw [List.all_cons, Bool.and_eq_true]
    constructor
    · rfl
    · apply List.all_eq_true.mpr
      intro c hc
      exact not_isDelimiter (.inl (isNameChar_hexDigit (hall c hc)))
  · cases h

theorem isNameChar_identifier {s : List Char} (h : afterIdentifier s = some []) :
    s ≠ [] ∧ ∀ c ∈ s, isNameChar c := by
  unfold afterIdentifier at h
  split at h
  · next c cs =>
    split_ifs at h with hc
    have hcs := List.dropWhile_eq_nil_iff.mp (Option.some.inj h)
    exact ⟨by simp, List.forall_mem_cons.mpr ⟨rfl, List.forall_mem_cons.mpr ⟨isNameChar_nameStart hc, hcs⟩⟩⟩
  · next c cs _ =>
    split_ifs at h with hc
    have hcs := List.dropWhile_eq_nil_iff.mp (Option.some.inj h)
    exact ⟨by simp, List.forall_mem_cons.mpr ⟨isNameChar_nameStart (by simp [hc]), hcs⟩⟩
  · cases h

theorem atom_identifier {s : List Char} (h : afterIdentifier s = some []) : Atom s := by
  obtain ⟨hne, hall⟩ := isNameChar_identifier h
  apply atom_word hne
  apply List.all_eq_true.mpr
  intro c hc
  exact not_isDelimiter (.inl (hall c hc))

theorem isLiteral_iff {s : List Char} :
    isLiteral s ↔ afterColor s = some [] ∨ afterIdentifier s = some [] ∨ afterQuoted s = some [] := by
  rw [isLiteral, beq_iff_eq, afterLiteral]
  simp only [Option.orElse_eq_orElse, Option.orElse_eq_or, Option.or_eq_some_iff]
  constructor
  · rintro (h | ⟨-, h | ⟨-, h⟩⟩)
    · exact .inl h
    · exact .inr (.inl h)
    · exact .inr (.inr h)
  · rintro (h | h | h)
    · exact .inl h
    · have hcolor : afterColor s = none := by
        unfold afterColor
        split
        · exact absurd ((isNameChar_identifier h).2 '#' List.mem_cons_self) (by decide)
        · rfl
      exact .inr ⟨hcolor, .inl h⟩
    · have hfirst : afterColor s = none ∧ afterIdentifier s = none := by
        unfold afterQuoted at h
        split at h
        · exact ⟨rfl, rfl⟩
        · exact ⟨rfl, rfl⟩
        · cases h
      exact .inr ⟨hfirst.1, .inr ⟨hfirst.2, h⟩⟩

theorem atom_literal {s : List Char} (h : isLiteral s) : Atom s := by
  obtain h | h | h := isLiteral_iff.mp h
  · exact atom_color h
  · exact atom_identifier h
  · exact atom_quoted h

theorem plain_hex (width n : Nat) : ∀ c ∈ Text.Quoted.hex width n, c ≠ '"' ∧ c ≠ '\\' :=
  Json.forall_mem_hex (by decide) width n

theorem afterClosing_escape (c : Char) (cs : List Char) :
    afterClosing '"' (Json.escape .unicode c ++ cs) = afterClosing '"' cs := by
  simp only [Json.escape, reduceCtorEq, false_and, if_false]
  split_ifs with hq hb
  any_goals rfl
  · have hc : c.toNat < 0x10000 := by omega
    have hu : Json.units c = '\\' :: 'u' :: Text.Quoted.hex 4 c.toNat := if_pos hc
    rw [hu]
    exact afterClosing_skip (plain_hex 4 c.toNat) cs
  · exact afterClosing_skip (List.forall_mem_singleton.mpr ⟨hq, hb⟩) cs

theorem afterQuoted_writeString (s : List Char) : afterQuoted (Json.writeString .unicode s) = some [] := by
  change afterClosing '"' (s.flatMap (Json.escape .unicode) ++ ['"']) = some []
  induction s with
  | nil => rfl
  | cons c cs ih => rw [List.flatMap_cons, List.append_assoc, afterClosing_escape, ih]

theorem printString_eq_self {s : List Char} (hs : isLiteral s) : printString s = s :=
  if_pos hs

theorem printString_quoted {s : List Char} (hs : ¬ isLiteral s) : printString s = Json.writeString .unicode s :=
  if_neg hs

theorem isLiteral_printString (s : List Char) : isLiteral (printString s) := by
  by_cases hs : isLiteral s
  · rw [printString_eq_self hs]
    exact hs
  · rw [printString_quoted hs]
    apply isLiteral_iff.mpr
    exact .inr (.inr (afterQuoted_writeString s))

theorem atom_printString (s : List Char) : Atom (printString s) :=
  atom_literal (isLiteral_printString s)

theorem atom_number {s : List Char} (hne : s ≠ []) (h : ∀ c ∈ s, Json.IsNumberChar c) : Atom s := by
  apply atom_word hne
  apply List.all_eq_true.mpr
  intro c hc
  apply not_isDelimiter
  obtain ha | rfl | rfl | rfl := h c hc
  · exact .inl (by simp [isNameChar, ha])
  · exact .inl rfl
  · exact .inr (.inr (.inl rfl))
  · exact .inr (.inr (.inr rfl))

def IsScalar : Json → Prop
  | .arr _ => False
  | .obj _ => False
  | _ => True

theorem atom_print {v : Json} (hv : IsScalar v) : Atom (print v) := by
  cases v with
  | null => exact atom_word (by decide) (by decide)
  | bool b => cases b <;> exact atom_word (by decide) (by decide)
  | int n =>
    have hne : Json.writeInt n ≠ [] := by
      unfold Json.writeInt
      split_ifs
      · exact List.cons_ne_nil _ _
      · exact (Json.isDigits_toDigits _).1
    exact atom_number hne (Json.numberChar_writeInt n)
  | float x =>
    have hne : x.text Json.words ≠ [] := by
      intro h
      obtain ⟨y, hy⟩ := Json.readScalar_text x
      have hread := hy [] Json.stops_nil
      rw [h] at hread
      cases hread
    exact atom_number hne (Json.numberChar_text x)
  | str s => exact atom_printString s.toList
  | arr items => exact hv.elim
  | obj members => exact hv.elim

def keyChar (c : Char) : List Char :=
  if c = '\x27' then ['\\', '\x27'] else [c]

theorem printKey_eq (k : List Char) : printKey k = '\x27' :: (k.flatMap keyChar ++ ['\x27']) := rfl

theorem afterClosing_key {k : List Char} (hk : '\\' ∉ k) (rest : List Char) :
    afterClosing '\x27' (k.flatMap keyChar ++ '\x27' :: rest) = some rest := by
  induction k with
  | nil => rfl
  | cons c cs ih =>
    rw [List.mem_cons, not_or] at hk
    rw [List.flatMap_cons, List.append_assoc, keyChar]
    split_ifs with hc
    · exact ih hk.2
    · rw [List.singleton_append, afterClosing_plain (Ne.symm hk.1), if_neg hc, ih hk.2]

theorem filter_key {k : List Char} (hk : '\\' ∉ k) : (k.flatMap keyChar).filter (· ≠ '\\') = k := by
  induction k with
  | nil => rfl
  | cons c cs ih =>
    rw [List.mem_cons, not_or] at hk
    rw [List.flatMap_cons, List.filter_append, ih hk.2, keyChar]
    split_ifs with hc
    · rw [hc]
      rfl
    · rw [List.filter_cons_of_pos (by simpa using Ne.symm hk.1)]
      rfl

theorem afterQuoted_printKey {k : List Char} (hk : '\\' ∉ k) (rest : List Char) :
    afterQuoted (printKey k ++ rest) = some rest := by
  rw [printKey_eq, List.cons_append, List.append_assoc]
  exact afterClosing_key hk rest

theorem printKey_append_inj {k l r r' : List Char} (hk : '\\' ∉ k) (hl : '\\' ∉ l)
    (h : printKey k ++ r = printKey l ++ r') : k = l ∧ r = r' := by
  have hr : r = r' := by
    have hq := congrArg afterQuoted h
    rwa [afterQuoted_printKey hk, afterQuoted_printKey hl, Option.some_inj] at hq
  subst hr
  have he : k.flatMap keyChar = l.flatMap keyChar :=
    List.append_cancel_right (List.cons.inj (List.append_cancel_right h)).2
  exact ⟨by rw [← filter_key hk, he, filter_key hl], rfl⟩

end SassData.Scss
