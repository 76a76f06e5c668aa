-- UTF-8: bytes cut into characters and broken pieces. Strict decoding refuses
-- a broken piece, lenient decoding puts one replacement character for each.

namespace AppBoundary.Text

/-! ## Pieces -/

/-- What a decoder finds at the head of the remaining bytes. A broken piece is a longest start of
a character that the next byte does not continue, or a single byte that starts none. -/
inductive Utf8Piece
  | char (c : Char)
  | broken
deriving DecidableEq

/-- A byte that continues a character. -/
def isContinuation (b : UInt8) : Bool :=
  0x80 ≤ b && b ≤ 0xBF

/-- The second byte of a three-byte character after the lead byte `a`: neither an overlong form
nor a surrogate. -/
def isSecondOfThree (a b : UInt8) : Bool :=
  if a == 0xE0 then 0xA0 ≤ b && b ≤ 0xBF
  else if a == 0xED then 0x80 ≤ b && b ≤ 0x9F
  else isContinuation b

/-- The second byte of a four-byte character after the lead byte `a`: neither an overlong form
nor a code above the last one. -/
def isSecondOfFour (a b : UInt8) : Bool :=
  if a == 0xF0 then 0x90 ≤ b && b ≤ 0xBF
  else if a == 0xF4 then 0x80 ≤ b && b ≤ 0x8F
  else isContinuation b

/-- The payload of a continuation byte. -/
def tailBits (b : UInt8) : Nat :=
  b.toNat % 0x40

/-- The bytes as characters and broken pieces, in order. -/
def utf8Pieces : List UInt8 → List Utf8Piece
  | [] => []
  | a :: rest =>
    if a < 0x80 then .char (Char.ofNat a.toNat) :: utf8Pieces rest
    else if 0xC2 ≤ a && a ≤ 0xDF then
      match rest with
      | b :: rest =>
        if isContinuation b then
          .char (Char.ofNat (a.toNat % 0x20 * 0x40 + tailBits b)) :: utf8Pieces rest
        else .broken :: utf8Pieces (b :: rest)
      | [] => [.broken]
    else if 0xE0 ≤ a && a ≤ 0xEF then
      match rest with
      | b :: rest =>
        if isSecondOfThree a b then
          match rest with
          | c :: rest =>
            if isContinuation c then
              .char (Char.ofNat ((a.toNat % 0x10 * 0x40 + tailBits b) * 0x40 + tailBits c))
                :: utf8Pieces rest
            else .broken :: utf8Pieces (c :: rest)
          | [] => [.broken]
        else .broken :: utf8Pieces (b :: rest)
      | [] => [.broken]
    else if 0xF0 ≤ a && a ≤ 0xF4 then
      match rest with
      | b :: rest =>
        if isSecondOfFour a b then
          match rest with
          | c :: rest =>
            if isContinuation c then
              match rest with
              | d :: rest =>
                if isContinuation d then
                  .char (Char.ofNat
                    (((a.toNat % 0x08 * 0x40 + tailBits b) * 0x40 + tailBits c) * 0x40 + tailBits d))
                    :: utf8Pieces rest
                else .broken :: utf8Pieces (d :: rest)
              | [] => [.broken]
            else .broken :: utf8Pieces (c :: rest)
          | [] => [.broken]
        else .broken :: utf8Pieces (b :: rest)
      | [] => [.broken]
    else .broken :: utf8Pieces rest
termination_by bytes => bytes.length

/-! ## Decoding -/

/-- The character of a piece, the replacement character for a broken one. -/
def Utf8Piece.toChar : Utf8Piece → Char
  | .char c => c
  | .broken => '\uFFFD'

/-- The character of a piece that is one. -/
def Utf8Piece.char? : Utf8Piece → Option Char
  | .char c => some c
  | .broken => none

/-- Lenient decoding: one replacement character for each broken piece. -/
def decodeLenient (bytes : List UInt8) : String :=
  String.ofList ((utf8Pieces bytes).map Utf8Piece.toChar)

/-- Strict decoding: nothing if a piece is broken. -/
def decodeStrict (bytes : List UInt8) : Option String :=
  ((utf8Pieces bytes).mapM Utf8Piece.char?).map String.ofList

/-! ## Encoding -/

/-- The bytes of a text. -/
def encode (text : String) : List UInt8 :=
  text.toUTF8.data.toList

end AppBoundary.Text
