import SassData.Proofs.Scss.Keys
import SassData.Proofs.Scss.Strings

namespace SassData.Scss

def isLineEnd (c : Char) : Bool :=
  c ∈ ['\n', '\r', '\x0c']

def isWhite (c : Char) : Bool :=
  c ∈ [' ', '\t'] || isLineEnd c

def codeNumber (digits : List Char) (n : Nat) : Nat :=
  digits.foldl (fun n d => n * 16 + (Json.hexDigit? d).getD 0) n

def codePoint (digits : List Char) : Char :=
  let n := codeNumber digits 0
  if n ≠ 0 ∧ n.isValidChar then Char.ofNat n else Text.Utf8.replacement

def afterWhite (cs : List Char) : List Char :=
  if cs.head?.any isWhite then cs.tail else cs

def readEscape (cs : List Char) : Option Char × List Char :=
  let digits := (cs.takeWhile isHexDigit).take 6
  if digits ≠ [] then (some (codePoint digits), afterWhite (cs.drop digits.length))
  else (cs.head?.filter (!isLineEnd ·), cs.tail)

theorem length_readEscape (cs : List Char) : (readEscape cs).2.length ≤ cs.length := by
  simp only [readEscape, afterWhite]
  split_ifs <;> simp

def characters : List Char → List Char
  | [] => []
  | c :: cs =>
    if c = '\\' then (readEscape cs).1.toList ++ characters (readEscape cs).2 else c :: characters cs
termination_by cs => cs.length
decreasing_by
  · exact Nat.lt_succ_of_le (length_readEscape cs)
  · exact Nat.lt_succ_self cs.length

def quotedValue? (cs : List Char) : Option (List Char) :=
  if afterQuoted cs = some [] then some (characters (betweenMarks cs)) else none

theorem characters_plain {c : Char} (hc : c ≠ '\\') (cs : List Char) : characters (c :: cs) = c :: characters cs := by
  rw [characters, if_neg hc]

theorem characters_escaped {c : Char} (hc : isHexDigit c = false) (hl : isLineEnd c = false) (cs : List Char) :
    characters ('\\' :: c :: cs) = c :: characters cs := by
  have hread : readEscape (c :: cs) = (some c, cs) := by simp [readEscape, hc, hl]
  rw [characters, if_pos rfl, hread]
  rfl

theorem head?_characters_code {c : Char} (hc : isHexDigit c) (cs : List Char) :
    ∃ ds, (characters ('\\' :: c :: cs)).head? = some (codePoint (c :: ds)) := by
  have hread : (readEscape (c :: cs)).1 = some (codePoint (c :: (cs.takeWhile isHexDigit).take 5)) := by
    simp [readEscape, hc]
  rw [characters, if_pos rfl, hread]
  exact ⟨_, rfl⟩

theorem le_codeNumber (digits : List Char) (n : Nat) : n ≤ codeNumber digits n := by
  induction digits generalizing n with
  | nil => exact Nat.le_refl n
  | cons d ds ih =>
    have hrest := ih (n * 16 + (Json.hexDigit? d).getD 0)
    rw [codeNumber, List.foldl_cons]
    exact le_trans (by omega) hrest

theorem le_codePoint {c : Char} {d : Nat} (hd : Json.hexDigit? c = some d) (hle : d ≤ 15) (ds : List Char) :
    d ≤ (codePoint (c :: ds)).toNat := by
  have hnumber : d ≤ codeNumber (c :: ds) 0 := by
    have hrest := le_codeNumber ds d
    rwa [codeNumber, List.foldl_cons, hd, Option.getD_some, Nat.zero_mul, Nat.zero_add]
  simp only [codePoint]
  split_ifs with hvalid
  · rw [Char.ofNat, dif_pos hvalid.2]
    exact hnumber
  · exact le_trans hle (by decide)

theorem characters_escape {c : Char} (hc : 0x20 ≤ c.toNat) (cs : List Char) :
    characters (Json.escape .unicode c ++ cs) = c :: characters cs := by
  unfold Json.escape
  split_ifs with hquote hbackslash hn hr ht hf hb hcontrol hascii
  · subst hquote
    exact characters_escaped rfl rfl cs
  · subst hbackslash
    exact characters_escaped rfl rfl cs
  any_goals
    subst c
    exact absurd hc (by decide)
  · exact absurd hcontrol (by omega)
  · exact absurd hascii.1 (by decide)
  · exact characters_plain hbackslash cs

theorem head?_characters_escape {c : Char} (hc : c.toNat < 0x20) (cs : List Char) :
    (characters (Json.escape .unicode c ++ cs)).head? ≠ some c := by
  have hletter {d : Char} (hd : isHexDigit d = false) (hl : isLineEnd d = false) (hle : 0x20 ≤ d.toNat) (ds : List Char) :
      (characters ('\\' :: d :: ds)).head? ≠ some c := by
    rw [characters_escaped hd hl, List.head?_cons]
    rintro ⟨⟩
    omega
  have hcode {d : Char} {n : Nat} (hd : isHexDigit d) (hn : Json.hexDigit? d = some n) (hle : n ≤ 15) (hlt : c.toNat < n)
      (ds : List Char) : (characters ('\\' :: d :: ds)).head? ≠ some c := by
    obtain ⟨digits, hhead⟩ := head?_characters_code hd ds
    have hcode := le_codePoint hn hle digits
    rw [hhead]
    rintro h
    rw [Option.some.inj h] at hcode
    omega
  unfold Json.escape
  split_ifs with hquote hbackslash hn hr ht hf hb
  · subst hquote
    exact absurd hc (by decide)
  · subst hbackslash
    exact absurd hc (by decide)
  · exact hletter rfl rfl (by decide) cs
  · exact hletter rfl rfl (by decide) cs
  · exact hletter rfl rfl (by decide) cs
  · subst hf
    exact hcode rfl rfl (Nat.le_refl 15) (by decide) cs
  · subst hb
    exact hcode rfl rfl (by decide : 11 ≤ 15) (by decide) cs
  · have hunits : Json.units c = '\\' :: 'u' :: Text.Quoted.hex 4 c.toNat := if_pos (by omega)
    rw [hunits]
    exact hletter rfl rfl (by decide) _

theorem characters_flatMap_escape_iff (s : List Char) :
    characters (s.flatMap (Json.escape .unicode)) = s ↔ ∀ c ∈ s, 0x20 ≤ c.toNat := by
  induction s with
  | nil => simp [characters]
  | cons c s ih =>
    rw [List.flatMap_cons, List.forall_mem_cons, ← ih]
    by_cases hc : 0x20 ≤ c.toNat
    · rw [characters_escape hc, List.cons.injEq]
      exact and_congr_left' ⟨fun _ => hc, fun _ => rfl⟩
    · refine iff_of_false ?_ fun h => hc h.1
      intro h
      apply head?_characters_escape (Nat.lt_of_not_le hc) (s.flatMap (Json.escape .unicode))
      rw [h, List.head?_cons]

theorem quotedValue?_writeString (s : List Char) :
    quotedValue? (Json.writeString .unicode s) = some (characters (s.flatMap (Json.escape .unicode))) := by
  rw [quotedValue?, if_pos (afterQuoted_writeString s), Json.writeString, betweenMarks, List.cons_append, List.tail_cons,
    List.dropLast_concat]

/-- A string that has to be quoted keeps its value in the style sheet if and only if it has no control character. -/
theorem quotedValue?_literal_iff {s : String} (hs : ¬ isBareLiteral s) :
    quotedValue? (literal (.str s)).toList = some s.toList ↔ ∀ c ∈ s.toList, 0x20 ≤ c.toNat := by
  rw [toList_literal, printString_quoted hs, quotedValue?_writeString, Option.some_inj, characters_flatMap_escape_iff]

theorem quotedValue?_literal_spaced :
    (¬ isBareLiteral "say \"é\\A\"" ∧
        quotedValue? (literal (.str "say \"é\\A\"")).toList = some "say \"é\\A\"".toList) ∧
      ¬ isBareLiteral "x y\nz" ∧ quotedValue? (literal (.str "x y\nz")).toList ≠ some "x y\nz".toList := by
  have hkept : ¬ isBareLiteral "say \"é\\A\"" := by decide
  have hlost : ¬ isBareLiteral "x y\nz" := by decide
  have hplain : "say \"é\\A\"".toList.all (0x20 ≤ ·.toNat) := by decide
  refine ⟨⟨hkept, (quotedValue?_literal_iff hkept).mpr ?_⟩, hlost, ?_⟩
  · intro c hc
    exact of_decide_eq_true (List.all_eq_true.mp hplain c hc)
  · intro h
    exact absurd ((quotedValue?_literal_iff hlost).mp h '\n' (by decide)) (by decide)

example : quotedValue? "\"x y\\a z\"".toList = some "x y\nz".toList := by cbv

end SassData.Scss
