/-! UTF-8.
Encoding is the standard one. Decoding never fails: each longest part of a sequence that is
broken off or wrong becomes one replacement character. -/

namespace PlayerCipher.Text

def encodeUtf8 (cs : List Char) : List UInt8 :=
  cs.flatMap String.utf8EncodeChar

def replacement : Char := '\ufffd'

def isTail (byte : UInt8) : Bool :=
  0x80 ≤ byte && byte ≤ 0xbf

def isSecond (lead second : UInt8) : Bool :=
  if lead = 0xe0 then 0xa0 ≤ second && second ≤ 0xbf
  else if lead = 0xed then 0x80 ≤ second && second ≤ 0x9f
  else if lead = 0xf0 then 0x90 ≤ second && second ≤ 0xbf
  else if lead = 0xf4 then 0x80 ≤ second && second ≤ 0x8f
  else isTail second

def tailBits (byte : UInt8) : Nat := byte.toNat % 0x40

/-- The character that a run of bytes begins with, and the number of bytes after the first
that belong to it. -/
def decodeFirst (lead : UInt8) (rest : List UInt8) : Char × Nat :=
  if lead < 0x80 then (Char.ofNat lead.toNat, 0)
  else if 0xc2 ≤ lead && lead ≤ 0xdf then
    match rest with
    | b :: _ =>
      if isTail b then (Char.ofNat (lead.toNat % 0x20 * 0x40 + tailBits b), 1)
      else (replacement, 0)
    | [] => (replacement, 0)
  else if 0xe0 ≤ lead && lead ≤ 0xef then
    match rest with
    | b :: rest =>
      if isSecond lead b then
        match rest with
        | c :: _ =>
          if isTail c then
            (Char.ofNat ((lead.toNat % 0x10 * 0x40 + tailBits b) * 0x40 + tailBits c), 2)
          else (replacement, 1)
        | [] => (replacement, 1)
      else (replacement, 0)
    | [] => (replacement, 0)
  else if 0xf0 ≤ lead && lead ≤ 0xf4 then
    match rest with
    | b :: rest =>
      if isSecond lead b then
        match rest with
        | c :: rest =>
          if isTail c then
            match rest with
            | d :: _ =>
              if isTail d then
                (Char.ofNat
                  (((lead.toNat % 8 * 0x40 + tailBits b) * 0x40 + tailBits c) * 0x40 +
                    tailBits d), 3)
              else (replacement, 2)
            | [] => (replacement, 2)
          else (replacement, 1)
        | [] => (replacement, 1)
      else (replacement, 0)
    | [] => (replacement, 0)
  else (replacement, 0)

def decodeUtf8 (bytes : List UInt8) : List Char :=
  match bytes with
  | [] => []
  | lead :: rest =>
    let (c, used) := decodeFirst lead rest
    c :: decodeUtf8 (rest.drop used)
termination_by bytes.length
decreasing_by
  simp only [List.length_drop, List.length_cons]
  omega

/-- Text of a document: a byte order mark at its start is no part of it. -/
def decodeDocument (bytes : List UInt8) : String :=
  String.ofList <|
    match bytes with
    | 0xef :: 0xbb :: 0xbf :: rest => decodeUtf8 rest
    | _ => decodeUtf8 bytes

end PlayerCipher.Text
