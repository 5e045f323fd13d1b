import Mathlib.Data.List.TakeWhile
import SassData.Proofs.Path.Normal
import SassData.Proofs.Text.Utf8

namespace SassData.Path.Url

theorem hexValue?_hexDigit : ∀ n < 16, hexValue? (hexDigit n) = some n := by decide

theorem byte?_hexDigit (b : UInt8) : byte? (hexDigit (b.toNat / 16)) (hexDigit (b.toNat % 16)) = some b := by
  have hb := b.toNat_lt
  have hhigh := hexValue?_hexDigit (b.toNat / 16) (by omega)
  have hlow := hexValue?_hexDigit (b.toNat % 16) (by omega)
  have hsum : b.toNat / 16 * 16 + b.toNat % 16 = b.toNat := by omega
  rw [byte?, hhigh, hlow]
  change some (UInt8.ofNat (b.toNat / 16 * 16 + b.toNat % 16)) = some b
  rw [hsum, UInt8.ofNat_toNat]

theorem bytes_cons {c : Char} (hc : c ≠ '%') (rest : List Char) :
    bytes (c :: rest) = UInt8.ofNat c.toNat :: bytes rest := by
  rw [bytes]
  intro _ _ _ h
  exact absurd h hc

theorem bytes_encodeByte (b : UInt8) (rest : List Char) : bytes (encodeByte b ++ rest) = b :: bytes rest := by
  have hb := b.toNat_lt
  unfold encodeByte
  split_ifs with hplain
  · have hc : Char.ofNat b.toNat ≠ '%' := by
      intro h
      simp only [isPlain, h] at hplain
      revert hplain
      decide
    have hvalid : (Char.ofNat b.toNat).toNat = b.toNat := by
      rw [Char.ofNat, dif_pos (.inl (by omega))]
      rfl
    rw [List.singleton_append, bytes_cons hc, hvalid, UInt8.ofNat_toNat]
  · simp only [List.cons_append, List.nil_append]
    rw [bytes, byte?_hexDigit]

theorem bytes_flatMap (bs : List UInt8) : bytes (bs.flatMap encodeByte) = bs := by
  induction bs with
  | nil => rfl
  | cons b bs ih => rw [List.flatMap_cons, bytes_encodeByte, ih]

def IsQuiet (c : Char) : Prop :=
  0x20 < c.toNat ∧ c.toNat < 0x80 ∧ c ≠ '#' ∧ c ≠ '?'

instance (c : Char) : Decidable (IsQuiet c) := inferInstanceAs (Decidable (_ ∧ _))

theorem quiet_of_all {s : List Char} (hs : s.all (IsQuiet ·)) : ∀ c ∈ s, IsQuiet c :=
  fun c hc => of_decide_eq_true (List.all_eq_true.mp hs c hc)

theorem quiet_encodeByte : ∀ n < 256, (encodeByte (UInt8.ofNat n)).all (IsQuiet ·) := by decide +kernel

theorem quiet_encode (s : List Char) : ∀ c ∈ encode s, IsQuiet c := by
  intro c hc
  obtain ⟨b, -, hb⟩ := List.mem_flatMap.mp hc
  have hn := quiet_encodeByte b.toNat b.toNat_lt
  rw [UInt8.ofNat_toNat] at hn
  exact quiet_of_all hn c hb

theorem decodeFrom_quiet (stretch : List Char) {s : List Char} (hs : ∀ c ∈ s, IsQuiet c) :
    decodeFrom stretch s = Text.Utf8.decode (bytes (stretch.reverse ++ s)) := by
  induction s generalizing stretch with
  | nil => rw [decodeFrom, List.append_nil]
  | cons c cs ih =>
    obtain ⟨hc, hcs⟩ := List.forall_mem_cons.mp hs
    rw [decodeFrom, if_pos hc.2.1, ih _ hcs, List.reverse_cons, List.append_assoc, List.singleton_append]

theorem decode_encode (s : List Char) : decode (encode s) = s := by
  rw [decode, decodeFrom_quiet [] (quiet_encode s), List.reverse_nil, List.nil_append, encode, bytes_flatMap,
    Text.Utf8.decode_encode]

theorem cleaned_quiet {s : List Char} (hs : ∀ c ∈ s, IsQuiet c) : cleaned s = s := by
  have hkeep : s.filter (fun c => c ≠ '\t' ∧ c ≠ '\r' ∧ c ≠ '\n') = s := by
    apply List.filter_eq_self.mpr
    intro c hc
    have hquiet := (hs c hc).1
    apply decide_eq_true
    refine ⟨?_, ?_, ?_⟩ <;> rintro rfl <;> revert hquiet <;> decide
  cases s with
  | nil => rfl
  | cons c cs =>
    have hc := (hs c (by simp)).1
    rw [cleaned, List.dropWhile_cons_of_neg (by simpa using hc), hkeep]

theorem path_quiet {s : List Char} (hs : ∀ c ∈ s, IsQuiet c) : path s = s := by
  have hhash : s.takeWhile (· ≠ '#') = s := by
    apply List.takeWhile_eq_self_iff.mpr
    intro c hc
    exact decide_eq_true (hs c hc).2.2.1
  have hquery : s.takeWhile (· ≠ '?') = s := by
    apply List.takeWhile_eq_self_iff.mpr
    intro c hc
    exact decide_eq_true (hs c hc).2.2.2
  rw [path, hhash, hquery]

theorem toPath_encode {s : List Char} (hs : isAbsolute s) : toPath (fileScheme ++ encode s) = .ok s := by
  obtain ⟨t, rfl⟩ : ∃ t, s = '/' :: t := by
    rw [isAbsolute_iff] at hs
    exact List.head?_eq_some_iff.mp hs
  have hquiet : ∀ c ∈ fileScheme ++ encode ('/' :: t), IsQuiet c := by
    intro c hc
    obtain hc | hc := List.mem_append.mp hc
    · exact quiet_of_all (s := fileScheme) (by decide) c hc
    · exact quiet_encode _ c hc
  have hhost : host ('/' :: '/' :: encode ('/' :: t)) = (some [], encode ('/' :: t)) := rfl
  have hscheme : scheme? (fileScheme ++ encode ('/' :: t)) =
      some (['f', 'i', 'l', 'e'], '/' :: '/' :: encode ('/' :: t)) := rfl
  rw [toPath, cleaned_quiet hquiet, hscheme]
  change Except.ok (decode (path (encode ('/' :: t)))) = _
  rw [path_quiet (quiet_encode _), decode_encode]

end SassData.Path.Url
