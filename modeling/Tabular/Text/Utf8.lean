import Tabular.Text

/-! # Text as bytes

`decode` reads bytes as UTF-8 and, where they are not, tells how many bytes from the front are.
`decodeLossy` puts the replacement character for each stretch that is not UTF-8.  `encode` writes
text as bytes. -/

namespace Tabular.Utf8

/-- A byte that continues a character. -/
def isTail (b : UInt8) : Bool :=
  0x80 ≤ b && b ≤ 0xBF

/-- The payload of a continuing byte. -/
def tailBits (b : UInt8) : Nat :=
  b.toNat - 0x80

/-- The character written as two bytes. -/
def two? (a b : UInt8) : Option Char :=
  if 0xC2 ≤ a && a ≤ 0xDF && isTail b then
    some (Char.ofNat ((a.toNat - 0xC0) * 0x40 + tailBits b))
  else none

/-- Whether two bytes are the beginning of a character of three or four bytes.  The second byte
decides that the number is not too small for its length, not a surrogate and not too large. -/
def opensLonger (a b : UInt8) : Bool :=
  (a == 0xE0 && 0xA0 ≤ b && b ≤ 0xBF) ||
  (a == 0xED && 0x80 ≤ b && b ≤ 0x9F) ||
  (0xE1 ≤ a && a ≤ 0xEF && a != 0xED && isTail b) ||
  (a == 0xF0 && 0x90 ≤ b && b ≤ 0xBF) ||
  (0xF1 ≤ a && a ≤ 0xF3 && isTail b) ||
  (a == 0xF4 && 0x80 ≤ b && b ≤ 0x8F)

/-- The character written as three bytes. -/
def three? (a b c : UInt8) : Option Char :=
  if a ≤ 0xEF && opensLonger a b && isTail c then
    some (Char.ofNat ((a.toNat - 0xE0) * 0x1000 + tailBits b * 0x40 + tailBits c))
  else none

/-- The character written as four bytes. -/
def four? (a b c d : UInt8) : Option Char :=
  if 0xF0 ≤ a && opensLonger a b && isTail c && isTail d then
    some (Char.ofNat
      ((a.toNat - 0xF0) * 0x40000 + tailBits b * 0x1000 + tailBits c * 0x40 + tailBits d))
  else none

/-- Reads bytes as text; `passed` counts the bytes before them.  The error is the number of bytes
in front of the first one that belongs to no character. -/
def decodeAfter (passed : Nat) : Bytes → Except Nat Text
  | [] => .ok []
  | a :: t =>
    if a < 0x80 then (Char.ofNat a.toNat :: ·) <$> decodeAfter (passed + 1) t
    else
      match t with
      | [] => .error passed
      | b :: t =>
        match two? a b with
        | some x => (x :: ·) <$> decodeAfter (passed + 2) t
        | none =>
          match t with
          | [] => .error passed
          | c :: t =>
            match three? a b c with
            | some x => (x :: ·) <$> decodeAfter (passed + 3) t
            | none =>
              match t with
              | [] => .error passed
              | d :: t =>
                match four? a b c d with
                | some x => (x :: ·) <$> decodeAfter (passed + 4) t
                | none => .error passed

/-- Reads bytes as text, or tells how many bytes from the front can be read. -/
def decode (bytes : Bytes) : Except Nat Text :=
  decodeAfter 0 bytes

/-- Stands in for bytes that are not text. -/
def replacement : Char := '\uFFFD'

/-- Reads bytes as text, with the replacement character for each longest beginning of a character
that is not carried on, and for each byte that begins none. -/
def decodeLossy : Bytes → Text
  | [] => []
  | a :: t =>
    if a < 0x80 then Char.ofNat a.toNat :: decodeLossy t
    else
      match t with
      | [] => [replacement]
      | b :: u =>
        match two? a b with
        | some x => x :: decodeLossy u
        | none =>
          if !opensLonger a b then replacement :: decodeLossy (b :: u)
          else
            match u with
            | [] => [replacement]
            | c :: v =>
              match three? a b c with
              | some x => x :: decodeLossy v
              | none =>
                if a ≤ 0xEF || !isTail c then replacement :: decodeLossy (c :: v)
                else
                  match v with
                  | [] => [replacement]
                  | d :: w =>
                    match four? a b c d with
                    | some x => x :: decodeLossy w
                    | none => replacement :: decodeLossy (d :: w)

/-- Text as bytes. -/
def encode (t : Text) : Bytes :=
  t.flatMap String.utf8EncodeChar

/-- The number of bytes that a text takes. -/
def size (t : Text) : Nat :=
  (encode t).length

/-- The mark that some writers put in front of a text. -/
def byteOrderMark : Bytes :=
  [0xEF, 0xBB, 0xBF]

/-- Bytes without the mark in front of them. -/
def withoutMark (t : Bytes) : Bytes :=
  if byteOrderMark.isPrefixOf t then t.drop 3 else t

end Tabular.Utf8
