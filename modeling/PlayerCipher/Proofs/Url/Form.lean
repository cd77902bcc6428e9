import Mathlib.Data.List.Basic
import PlayerCipher.Proofs.Text.Encoding
import PlayerCipher.Url.Form

/-! Form encoding and decoding.
What is written as a form is read back as the same pairs, whatever texts they are made of: an
encoded text holds no separator, a plus sign is turned into a blank before any byte is decoded, and
a pair is never empty, as it has its `=`. -/

namespace PlayerCipher

theorem Text.splitAt_eq_splitOn (sep : Char) (cs : List Char) :
    splitAt sep cs = cs.splitOn sep := by
  induction cs with
  | nil => rfl
  | cons c cs ih =>
    rw [splitAt, ih, List.splitOn_cons_eq_if_modifyHead]
    by_cases here : c = sep
    · simp [here]
    · cases parts : cs.splitOn sep with
      | nil => exact absurd parts (List.splitOn_ne_nil sep cs)
      | cons part parts => simp [here]

namespace Url

open Text

theorem percentDecode_cons {c : Char} (other : c ≠ '%') (cs : List Char) :
    percentDecode (c :: cs) = String.utf8EncodeChar c ++ percentDecode cs := by
  rw [percentDecode]
  intro high low rest mark
  exact absurd mark other

theorem percentDecode_percentByte (byte : UInt8) (cs : List Char) :
    percentDecode (percentByte byte ++ cs) = byte :: percentDecode cs := by
  have small : byte.toNat < 256 := byte.toNat_lt
  have number : 16 * (byte.toNat / 16 % 16) + byte.toNat % 16 = byte.toNat := by omega
  simp only [percentByte, List.cons_append, List.nil_append, percentDecode, hexValue?_hexDigitUpper,
    number]
  exact congrArg (· :: percentDecode cs) (UInt8.ofNat_toNat)

namespace Form

def unplus (c : Char) : Char :=
  if c = '+' then ' ' else c

theorem decode_eq (cs : List Char) : decode cs = decodeUtf8 (percentDecode (cs.map unplus)) :=
  rfl

theorem unplus_of_isAlphanum {c : Char} (word : c.isAlphanum = true) : unplus c = c := by
  have other : c ≠ '+' := by
    rintro rfl
    exact absurd word (by decide)
  rw [unplus, if_neg other]

theorem map_percentByte (byte : UInt8) : (percentByte byte).map unplus = percentByte byte := by
  simp only [percentByte, List.map_cons, List.map_nil,
    unplus_of_isAlphanum (isAlphanum_hexDigitUpper _)]
  rfl

theorem percentDecode_bytes (bytes : List UInt8) (cs : List Char) :
    percentDecode ((bytes.flatMap percentByte).map unplus ++ cs) = bytes ++ percentDecode cs := by
  induction bytes with
  | nil => rfl
  | cons byte bytes ih =>
    rw [List.flatMap_cons, List.map_append, map_percentByte, List.append_assoc,
      percentDecode_percentByte, ih, List.cons_append]

theorem staysPlain_not_mark {c : Char} (plain : staysPlain c = true) :
    c ≠ '+' ∧ c ≠ '%' ∧ c ≠ '&' ∧ c ≠ '=' := by
  refine ⟨?_, ?_, ?_, ?_⟩ <;>
    · rintro rfl
      exact absurd plain (by decide)

theorem percentDecode_encodeChar (c : Char) (cs : List Char) :
    percentDecode ((encodeChar c).map unplus ++ cs) =
      String.utf8EncodeChar c ++ percentDecode cs := by
  unfold encodeChar
  split_ifs with plain blank
  · obtain ⟨plus, percent, -⟩ := staysPlain_not_mark plain
    rw [List.map_singleton, unplus, if_neg plus, List.singleton_append, percentDecode_cons percent]
  · rw [blank]
    exact percentDecode_cons (by decide) cs
  · exact percentDecode_bytes _ cs

theorem percentDecode_encode (text : List Char) :
    percentDecode ((encode text).map unplus) = encodeUtf8 text := by
  induction text with
  | nil => rfl
  | cons c text ih =>
    rw [encode, List.flatMap_cons, List.map_append, percentDecode_encodeChar]
    exact congrArg (String.utf8EncodeChar c ++ ·) ih

theorem decode_encode (text : List Char) : decode (encode text) = text := by
  rw [decode_eq, percentDecode_encode, decodeUtf8_encodeUtf8]

theorem encode_not_mark {text : List Char} {c : Char} (member : c ∈ encode text) :
    c ≠ '&' ∧ c ≠ '=' := by
  obtain ⟨d, -, member⟩ := List.mem_flatMap.1 member
  unfold encodeChar at member
  split_ifs at member with plain blank
  · rw [List.mem_singleton.1 member]
    exact (staysPlain_not_mark plain).2.2
  · rw [List.mem_singleton.1 member]
    decide
  · obtain ⟨byte, -, member⟩ := List.mem_flatMap.1 member
    have digit (n : ℕ) : hexDigitUpper n ≠ '&' ∧ hexDigitUpper n ≠ '=' := by
      have word := isAlphanum_hexDigitUpper n
      constructor
      · intro same
        exact absurd (same ▸ word) (by decide)
      · intro same
        exact absurd (same ▸ word) (by decide)
    simp only [percentByte, List.mem_cons, List.not_mem_nil, or_false] at member
    obtain rfl | rfl | rfl := member
    · decide
    · exact digit _
    · exact digit _

theorem readPair_writePair (pair : Pair) : readPair (writePair pair) = pair := by
  have key : ∀ c ∈ encode pair.1, (c != '=') = true := by
    intro c member
    exact bne_iff_ne.2 (encode_not_mark member).2
  rw [readPair, writePair, List.takeWhile_append_of_pos key, List.dropWhile_append_of_pos key]
  simp [decode_encode]

theorem write_eq_intercalate (pairs : List Pair) :
    write pairs = ['&'].intercalate (pairs.map writePair) := by
  induction pairs with
  | nil => rfl
  | cons pair pairs ih =>
    cases pairs with
    | nil => simp [write]
    | cons next pairs =>
      rw [write, ih]
      · simp only [List.map_cons, List.intercalate_cons_cons, List.append_assoc,
          List.singleton_append]
      · exact List.cons_ne_nil next pairs

theorem read_write (pairs : List Pair) : read (write pairs) = pairs := by
  cases pairs with
  | nil => rfl
  | cons pair pairs =>
    have single : ∀ piece ∈ (pair :: pairs).map writePair, '&' ∉ piece := by
      intro piece member
      obtain ⟨pair', -, rfl⟩ := List.mem_map.1 member
      intro inside
      rw [writePair, List.mem_append, List.mem_cons] at inside
      obtain key | mark | value := inside
      · exact (encode_not_mark key).1 rfl
      · exact absurd mark (by decide)
      · exact (encode_not_mark value).1 rfl
    have nonempty : ∀ piece ∈ (pair :: pairs).map writePair, (!piece.isEmpty) = true := by
      intro piece member
      obtain ⟨pair', -, rfl⟩ := List.mem_map.1 member
      simp [writePair]
    have back : readPair ∘ writePair = id := funext readPair_writePair
    rw [read, write_eq_intercalate, splitAt_eq_splitOn,
      List.splitOn_intercalate '&' single (by simp), List.filter_eq_self.2 nonempty, List.map_map,
      back, List.map_id]

end Form

end Url

end PlayerCipher
