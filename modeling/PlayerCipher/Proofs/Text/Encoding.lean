import Mathlib.Data.List.Basic
import PlayerCipher.Text.Numeral
import PlayerCipher.Text.Utf8

/-! Encoded characters.
A character is one to four bytes, and decoding takes them off one character at a time, whatever
bytes stand behind. A byte is two hexadecimal digits, small or capital. -/

namespace PlayerCipher.Text

/-! ### UTF-8 -/

theorem isTail_bits (n : ℕ) : isTail (UInt8.ofNat (n % 64 + 128)) = true := by
  simp only [isTail, UInt8.le_iff_toNat_le, UInt8.toNat_ofNat', UInt8.reduceToNat,
    Bool.and_eq_true, decide_eq_true_eq]
  omega

theorem tailBits_bits (n : ℕ) : tailBits (UInt8.ofNat (n % 64 + 128)) = n % 64 := by
  simp only [tailBits, UInt8.toNat_ofNat']
  omega

theorem isSecond_three {n : ℕ} (low : 0x800 ≤ n) (high : n < 0x10000)
    (valid : n < 0xd800 ∨ 0xdfff < n) :
    isSecond (UInt8.ofNat (n / 4096 % 16 + 224)) (UInt8.ofNat (n / 64 % 64 + 128)) = true := by
  simp only [isSecond, isTail_bits, UInt8.le_iff_toNat_le, ← UInt8.toNat_inj, UInt8.toNat_ofNat',
    UInt8.reduceToNat]
  split_ifs <;> simp <;> omega

theorem isSecond_four {n : ℕ} (low : 0x10000 ≤ n) (high : n < 0x110000) :
    isSecond (UInt8.ofNat (n / 262144 % 8 + 240)) (UInt8.ofNat (n / 4096 % 64 + 128)) = true := by
  simp only [isSecond, isTail_bits, UInt8.le_iff_toNat_le, ← UInt8.toNat_inj, UInt8.toNat_ofNat',
    UInt8.reduceToNat]
  split_ifs <;> simp <;> omega

theorem decodeFirst_one {n : ℕ} (high : n < 0x80) (rest : List UInt8) :
    decodeFirst (UInt8.ofNat n) rest = (Char.ofNat n, 0) := by
  have number : n % 2 ^ 8 = n := by omega
  unfold decodeFirst
  simp only [UInt8.lt_iff_toNat_lt, UInt8.toNat_ofNat', UInt8.reduceToNat, number]
  rw [if_pos (by omega)]

theorem decodeFirst_two {n : ℕ} (low : 0x80 ≤ n) (high : n < 0x800) (rest : List UInt8) :
    decodeFirst (UInt8.ofNat (n / 64 % 32 + 192)) (UInt8.ofNat (n % 64 + 128) :: rest) =
      (Char.ofNat n, 1) := by
  have number : (n / 64 % 32 + 192) % 2 ^ 8 % 0x20 * 0x40 + n % 64 = n := by omega
  unfold decodeFirst
  simp only [UInt8.lt_iff_toNat_lt, UInt8.le_iff_toNat_le, UInt8.toNat_ofNat', UInt8.reduceToNat,
    Bool.and_eq_true, decide_eq_true_eq, isTail_bits, tailBits_bits, number, if_true]
  rw [if_neg (by omega), if_pos (by omega)]

theorem decodeFirst_three {n : ℕ} (low : 0x800 ≤ n) (high : n < 0x10000)
    (valid : n < 0xd800 ∨ 0xdfff < n) (rest : List UInt8) :
    decodeFirst (UInt8.ofNat (n / 4096 % 16 + 224))
        (UInt8.ofNat (n / 64 % 64 + 128) :: UInt8.ofNat (n % 64 + 128) :: rest) =
      (Char.ofNat n, 2) := by
  have number : ((n / 4096 % 16 + 224) % 2 ^ 8 % 0x10 * 0x40 + n / 64 % 64) * 0x40 + n % 64 =
      n := by omega
  unfold decodeFirst
  simp only [UInt8.lt_iff_toNat_lt, UInt8.le_iff_toNat_le, UInt8.toNat_ofNat', UInt8.reduceToNat,
    Bool.and_eq_true, decide_eq_true_eq, isSecond_three low high valid, isTail_bits, tailBits_bits,
    number, if_true]
  rw [if_neg (by omega), if_neg (by omega), if_pos (by omega)]

theorem decodeFirst_four {n : ℕ} (low : 0x10000 ≤ n) (high : n < 0x110000) (rest : List UInt8) :
    decodeFirst (UInt8.ofNat (n / 262144 % 8 + 240))
        (UInt8.ofNat (n / 4096 % 64 + 128) :: UInt8.ofNat (n / 64 % 64 + 128) ::
          UInt8.ofNat (n % 64 + 128) :: rest) =
      (Char.ofNat n, 3) := by
  have number : (((n / 262144 % 8 + 240) % 2 ^ 8 % 8 * 0x40 + n / 4096 % 64) * 0x40 +
      n / 64 % 64) * 0x40 + n % 64 = n := by omega
  unfold decodeFirst
  simp only [UInt8.lt_iff_toNat_lt, UInt8.le_iff_toNat_le, UInt8.toNat_ofNat', UInt8.reduceToNat,
    Bool.and_eq_true, decide_eq_true_eq, isSecond_four low high, isTail_bits, tailBits_bits, number,
    if_true]
  rw [if_neg (by omega), if_neg (by omega), if_neg (by omega), if_pos (by omega)]

theorem decodeFirst_encoded (c : Char) (rest : List UInt8) :
    ∃ lead tail, String.utf8EncodeChar c = lead :: tail ∧
      decodeFirst lead (tail ++ rest) = (c, tail.length) := by
  have number : Char.ofNat c.val.toNat = c := Char.ofNat_toNat c
  have valid : c.val.toNat < 0xd800 ∨ 0xdfff < c.val.toNat ∧ c.val.toNat < 0x110000 := c.valid
  simp only [String.utf8EncodeChar]
  split_ifs with one two three
  · refine ⟨_, _, rfl, ?_⟩
    rw [decodeFirst_one (by omega), number]
    rfl
  · refine ⟨_, _, rfl, ?_⟩
    rw [List.singleton_append, decodeFirst_two (by omega) (by omega), number]
    rfl
  · refine ⟨_, _, rfl, ?_⟩
    rw [List.cons_append, List.singleton_append,
      decodeFirst_three (by omega) (by omega) (by omega), number]
    rfl
  · refine ⟨_, _, rfl, ?_⟩
    rw [List.cons_append, List.cons_append, List.singleton_append,
      decodeFirst_four (by omega) (by omega), number]
    rfl

theorem decodeUtf8_encoded (c : Char) (rest : List UInt8) :
    decodeUtf8 (String.utf8EncodeChar c ++ rest) = c :: decodeUtf8 rest := by
  obtain ⟨lead, tail, bytes, read⟩ := decodeFirst_encoded c rest
  rw [bytes, List.cons_append, decodeUtf8, read]
  simp only [List.drop_left]

theorem decodeUtf8_encodeUtf8 (cs : List Char) : decodeUtf8 (encodeUtf8 cs) = cs := by
  induction cs with
  | nil => rw [encodeUtf8, List.flatMap_nil, decodeUtf8]
  | cons c cs ih =>
    rw [encodeUtf8, List.flatMap_cons, decodeUtf8_encoded]
    exact congrArg (c :: ·) ih

/-! ### Hexadecimal digits -/

theorem hexValue?_hexDigit (n : ℕ) : hexValue? (hexDigit n) = some (n % 16) := by
  have table : ∀ m < 16, hexValue? (hexDigit m) = some m := by decide
  have digit := table (n % 16) (Nat.mod_lt n (by decide))
  rwa [hexDigit, Nat.mod_mod] at digit

theorem hexValue?_hexDigitUpper (n : ℕ) : hexValue? (hexDigitUpper n) = some (n % 16) := by
  have table : ∀ m < 16, hexValue? (hexDigitUpper m) = some m := by decide
  have digit := table (n % 16) (Nat.mod_lt n (by decide))
  rwa [hexDigitUpper, Nat.mod_mod] at digit

theorem isAlphanum_hexDigitUpper (n : ℕ) : (hexDigitUpper n).isAlphanum = true := by
  have table : ∀ m < 16, (hexDigitUpper m).isAlphanum = true := by decide
  have digit := table (n % 16) (Nat.mod_lt n (by decide))
  rwa [hexDigitUpper, Nat.mod_mod] at digit

end PlayerCipher.Text
