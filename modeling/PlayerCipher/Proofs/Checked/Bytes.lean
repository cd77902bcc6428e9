import Mathlib.Data.String.Basic
import PlayerCipher.Proofs.Checked.Basic
import PlayerCipher.Proofs.Script.Compact
import PlayerCipher.Text.Utf8

/-! Bytes of a source.
The scanner looks at single bytes, and only at those of ASCII characters closely: every byte of a
character beyond ASCII is at least 128. A scan that stands at a character may therefore step
through its bytes, and one that stands inside a character passes over the rest of it. -/

namespace PlayerCipher

namespace Checked

open Text

def isByte (p : Char → Bool) (byte : UInt8) : Bool :=
  byte.toNat < 0x80 && p (Char.ofNat byte.toNat)

theorem isByte_high {byte : UInt8} (high : 0x80 ≤ byte.toNat) (p : Char → Bool) :
    isByte p byte = false := by
  simp [isByte, high]

structure Encodes (c : Char) (byte : UInt8) (tail : List UInt8) : Prop where
  bytes : String.utf8EncodeChar c = byte :: tail
  first (p : Char → Bool) : isByte p byte = (isAscii c && p c)
  high : 0x80 ≤ byte.toNat ↔ isAscii c = false
  tail_high : ∀ b ∈ tail, 0x80 ≤ b.toNat

theorem Encodes.of_high {c : Char} {byte : UInt8} {tail : List UInt8}
    (bytes : String.utf8EncodeChar c = byte :: tail) (wide : isAscii c = false)
    (all : ∀ b ∈ byte :: tail, 0x80 ≤ b.toNat) : Encodes c byte tail where
  bytes := bytes
  first p := by rw [isByte_high (all byte List.mem_cons_self), wide, Bool.false_and]
  high := by simp [wide, all]
  tail_high b member := all b (List.mem_cons_of_mem byte member)

theorem high_ofNat {n : Nat} (low : 0x80 ≤ n) (fits : n < 0x100) :
    0x80 ≤ (UInt8.ofNat n).toNat := by
  rw [UInt8.toNat_ofNat_of_lt' fits]
  exact low

theorem encodes (c : Char) : ∃ byte tail, Encodes c byte tail := by
  by_cases narrow : c.toNat < 0x80
  · have small : c.val.toNat ≤ 127 := Nat.le_of_lt_succ narrow
    have ascii : isAscii c = true := decide_eq_true narrow
    have value : (UInt8.ofNat c.toNat).toNat = c.toNat :=
      UInt8.toNat_ofNat_of_lt' (Nat.lt_trans narrow (by decide))
    refine ⟨UInt8.ofNat c.toNat, [], ⟨?_, ?_, ?_, ?_⟩⟩
    · simp only [String.utf8EncodeChar, if_pos small]
      rfl
    · intro p
      simp only [isByte, value, ascii, narrow, decide_true, Char.ofNat_toNat]
    · rw [value, ascii]
      simp [narrow]
    · simp
  · have wide : isAscii c = false := decide_eq_false narrow
    have large : ¬ c.val.toNat ≤ 127 := fun small => narrow (Nat.lt_succ_of_le small)
    have high : ∀ b ∈ String.utf8EncodeChar c, 0x80 ≤ b.toNat := by
      intro b member
      simp only [String.utf8EncodeChar, if_neg large] at member
      split at member
      · simp only [List.mem_cons, List.not_mem_nil, or_false] at member
        rcases member with rfl | rfl <;> apply high_ofNat <;> omega
      split at member
      · simp only [List.mem_cons, List.not_mem_nil, or_false] at member
        rcases member with rfl | rfl | rfl <;> apply high_ofNat <;> omega
      · simp only [List.mem_cons, List.not_mem_nil, or_false] at member
        rcases member with rfl | rfl | rfl | rfl <;> apply high_ofNat <;> omega
    cases bytes : String.utf8EncodeChar c with
    | nil =>
      have some := congrArg List.length bytes
      rw [String.length_utf8EncodeChar] at some
      exact absurd some (Nat.ne_of_gt c.utf8Size_pos)
    | cons byte tail =>
      rw [bytes] at high
      exact ⟨byte, tail, .of_high bytes wide high⟩

theorem length_encodeUtf8 (cs : List Char) : (encodeUtf8 cs).length = byteWidth cs := by
  induction cs with
  | nil => rfl
  | cons c cs ih =>
    rw [encodeUtf8, List.flatMap_cons, List.length_append, String.length_utf8EncodeChar,
      byteWidth_cons, ← ih, encodeUtf8]

theorem encodeUtf8_append (cs ds : List Char) :
    encodeUtf8 (cs ++ ds) = encodeUtf8 cs ++ encodeUtf8 ds :=
  List.flatMap_append

theorem utf8Size_of_isAscii {c : Char} (ascii : isAscii c = true) : c.utf8Size = 1 := by
  have narrow : c.toNat < 0x80 := of_decide_eq_true ascii
  have small : c.val.toNat ≤ 127 := Nat.le_of_lt_succ narrow
  rw [← String.length_utf8EncodeChar]
  simp only [String.utf8EncodeChar, if_pos small, List.length_singleton]

/-- What is left to read at a place between two characters. -/
structure Reads (bytes : List UInt8) (place : Nat) (rest : List Char) : Prop where
  bound : place ≤ bytes.length
  left : bytes.drop place = encodeUtf8 rest

namespace Reads

variable {bytes : List UInt8} {place : Nat} {c : Char} {cs : List Char}

theorem start (cs : List Char) : Reads (encodeUtf8 cs) 0 cs :=
  ⟨Nat.zero_le _, rfl⟩

theorem length {rest : List Char} (reads : Reads bytes place rest) :
    bytes.length = place + byteWidth rest := by
  have total := congrArg List.length reads.left
  have bound := reads.bound
  rw [List.length_drop, length_encodeUtf8] at total
  omega

theorem move {text rest : List Char} (reads : Reads bytes place (text ++ rest)) :
    Reads bytes (place + byteWidth text) rest where
  bound := by
    rw [reads.length, byteWidth_append]
    omega
  left := by
    rw [← List.drop_drop, reads.left, encodeUtf8_append, ← length_encodeUtf8, List.drop_left]

theorem tail (reads : Reads bytes place (c :: cs)) : Reads bytes (place + c.utf8Size) cs := by
  have moved := @move _ _ [c] cs reads
  rwa [byteWidth_cons, byteWidth, List.foldl_nil, Nat.add_zero] at moved

theorem getElem? {rest : List Char} (reads : Reads bytes place rest) (n : Nat) :
    bytes[place + n]? = (encodeUtf8 rest)[n]? := by
  rw [← reads.left, List.getElem?_drop]

theorem inside (reads : Reads bytes place (c :: cs)) : place < bytes.length := by
  have total := reads.length
  have some := c.utf8Size_pos
  rw [byteWidth_cons] at total
  omega

theorem first (reads : Reads bytes place (c :: cs)) :
    ∃ byte, bytes[place]? = some byte ∧ (∀ p, isByte p byte = (isAscii c && p c)) ∧
      (0x80 ≤ byte.toNat ↔ isAscii c = false) := by
  obtain ⟨byte, tail, encoded⟩ := encodes c
  refine ⟨byte, ?_, encoded.first, encoded.high⟩
  have found := reads.getElem? 0
  rw [encodeUtf8, List.flatMap_cons, encoded.bytes] at found
  exact found

theorem inner (reads : Reads bytes place (c :: cs)) {here : Nat} (low : place < here)
    (high : here < place + c.utf8Size) :
    ∃ byte, bytes[here]? = some byte ∧ 0x80 ≤ byte.toNat := by
  obtain ⟨byte, tail, encoded⟩ := encodes c
  have width : tail.length + 1 = c.utf8Size := by
    rw [← String.length_utf8EncodeChar, encoded.bytes, List.length_cons]
  have inTail : here - place - 1 < tail.length := by
    omega
  have found := reads.getElem? (here - place - 1 + 1)
  rw [encodeUtf8, List.flatMap_cons, encoded.bytes, List.cons_append, List.getElem?_cons_succ,
    List.getElem?_append_left inTail, List.getElem?_eq_getElem inTail] at found
  have same : place + (here - place - 1 + 1) = here := by
    omega
  rw [same] at found
  exact ⟨_, found, encoded.tail_high _ (List.getElem_mem inTail)⟩

theorem plain (reads : Reads bytes place (c :: cs)) {p : Char → Bool} (outside : p c = false)
    {here : Nat} (low : place ≤ here) (high : here < place + c.utf8Size) :
    ∃ byte, bytes[here]? = some byte ∧ isByte p byte = false := by
  by_cases atFirst : place = here
  · obtain ⟨byte, found, first, -⟩ := reads.first
    rw [atFirst] at found
    exact ⟨byte, found, by rw [first, outside, Bool.and_false]⟩
  · obtain ⟨byte, found, wide⟩ := reads.inner (Nat.lt_of_le_of_ne low atFirst) high
    exact ⟨byte, found, isByte_high wide p⟩

theorem peek {rest : List Char} (reads : Reads bytes place rest) (p : Char → Bool) :
    (bytes[place]?).any (isByte p) = rest.head?.any fun c => isAscii c && p c := by
  cases rest with
  | nil =>
    have total := reads.length
    rw [List.getElem?_eq_none (by rw [total]; exact Nat.le_refl _)]
    rfl
  | cons c cs =>
    obtain ⟨byte, found, first, -⟩ := reads.first
    rw [found]
    exact first p

theorem skipRest {σ β : Type} {pass : σ → Nat → Checked (Pass σ β)} {finish : σ → Nat → β}
    {state : σ} (reads : Reads bytes place (c :: cs))
    (passes : ∀ here byte, bytes[here]? = some byte → 0x80 ≤ byte.toNat →
      pass state here = .ok (.next (here + 1) state)) :
    loop bytes.length pass finish state (place + 1) =
      loop bytes.length pass finish state (place + c.utf8Size) := by
  have width : place + c.utf8Size = place + 1 + (c.utf8Size - 1) := by
    have some := c.utf8Size_pos
    omega
  rw [width]
  apply loop_stretch
  intro here low high
  obtain ⟨byte, found, wide⟩ := reads.inner (Nat.lt_of_succ_le low) (by omega)
  exact ⟨(List.getElem?_eq_some_iff.1 found).1, passes here byte found wide⟩

end Reads

def text (source : String) (start stop : Nat) : Checked String :=
  if start ≤ stop ∧ stop ≤ source.utf8ByteSize then
    if String.Pos.Raw.isValid source ⟨start⟩ && String.Pos.Raw.isValid source ⟨stop⟩ then
      .ok (String.Pos.Raw.extract source ⟨start⟩ ⟨stop⟩)
    else .error .boundary
  else .error .range

theorem utf8Len_eq (cs : List Char) : String.utf8Len cs = byteWidth cs := by
  induction cs with
  | nil => rfl
  | cons c cs ih => rw [String.utf8Len_cons, ih, byteWidth_cons, Nat.add_comm]

theorem utf8ByteSize_toList (source : String) :
    source.utf8ByteSize = byteWidth source.toList := by
  rw [← utf8Len_eq, String.utf8Len_toList]

theorem isValid_append {source : String} {before after : List Char}
    (whole : source.toList = before ++ after) :
    String.Pos.Raw.isValid source ⟨byteWidth before⟩ = true := by
  rw [String.Pos.Raw.isValid_eq_true_iff, String.Pos.Raw.isValid_iff_exists_append]
  refine ⟨String.ofList before, String.ofList after, ?_, ?_⟩
  · rw [← String.ofList_append, ← whole, String.ofList_toList]
  · rw [String.rawEndPos_ofList, utf8Len_eq]

theorem text_ok {source : String} {before middle after : List Char}
    (whole : source.toList = before ++ middle ++ after) {start stop : Nat}
    (starts : start = byteWidth before) (stops : stop = byteWidth before + byteWidth middle) :
    text source start stop = .ok (String.ofList middle) := by
  have bounds : start ≤ stop ∧ stop ≤ source.utf8ByteSize := by
    rw [utf8ByteSize_toList, whole, byteWidth_append, byteWidth_append]
    omega
  have startValid : String.Pos.Raw.isValid source ⟨start⟩ = true := by
    rw [starts]
    exact isValid_append (whole.trans (List.append_assoc _ _ _))
  have stopValid : String.Pos.Raw.isValid source ⟨stop⟩ = true := by
    rw [stops, ← byteWidth_append]
    exact isValid_append whole
  have piece := String.extract_of_valid before middle after
  rw [← whole, String.ofList_toList, utf8Len_eq, utf8Len_eq, ← stops, ← starts] at piece
  rw [text, if_pos bounds, startValid, stopValid, ← piece]
  rfl

end Checked

end PlayerCipher
