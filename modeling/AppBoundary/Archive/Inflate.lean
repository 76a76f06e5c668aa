-- Compressed data: blocks of stored bytes, and blocks of codes for bytes and
-- for copies of earlier bytes. Bits are taken from the low end of each byte.
import AppBoundary.Bytes

namespace AppBoundary.Archive

/-! ## Bits -/

/-- Why compressed data cannot be read: it breaks a rule, or it ends too early. -/
inductive InflateFault
  | corrupt
  | incomplete
deriving DecidableEq

/-- The bit at a place, if the data goes that far. -/
def bit? (data : ByteArray) (place : Nat) : Option Nat :=
  if place < 8 * data.size then some (Bytes.byteAt data (place / 8) >>> (place % 8) % 2) else none

/-- The number of some bits from a place on, low bits first, and the place behind them. -/
def bits (data : ByteArray) (place : Nat) : Nat → Except InflateFault (Nat × Nat)
  | 0 => .ok (0, place)
  | count + 1 =>
    match bit? data place with
    | none => .error .incomplete
    | some b => (bits data (place + 1) count).map fun (n, place) => (b + 2 * n, place)

/-! ## Codes -/

/-- The most bits of a code word. -/
def maxWord : Nat := 15

/-- A code for symbols: the number of words of each length, and the symbols in the order of their
words, shorter words first. -/
structure PrefixCode where
  counts : Array Nat
  symbols : Array Nat

/-- The code in which each symbol has a word of the given length, none for length zero. -/
def PrefixCode.ofLengths (lengths : List Nat) : PrefixCode :=
  let ofLength := fun length =>
    (lengths.zipIdx.filter fun entry => entry.1 == length).map fun entry => entry.2
  { counts := ((List.range (maxWord + 1)).map fun length =>
      if length = 0 then 0 else (ofLength length).length).toArray
    symbols := ((List.range maxWord).flatMap fun length => ofLength (length + 1)).toArray }

/-- Every sequence of bits begins with a word, or there is at most one word. -/
def PrefixCode.isSound (code : PrefixCode) : Bool :=
  code.symbols.size ≤ 1
    || ((List.range (maxWord + 1)).map fun length =>
        (code.counts[length]?.getD 0) <<< (maxWord - length)).foldl (· + ·) 0 == 1 <<< maxWord

/-- The symbol of the next word. Words of one length are consecutive numbers; `first` is the first of
them, `index` the place of its symbol, and `word` the bits so far. Without a word in the data that
is left it is incomplete, and without any word at all it is corrupt. -/
def PrefixCode.next (code : PrefixCode) (data : ByteArray) :
    Nat → Nat → Nat → Nat → Nat → Except InflateFault (Nat × Nat)
  | 0, _, _, _, _ => .error .corrupt
  | left + 1, place, word, first, index =>
    match bit? data place with
    | none => .error .incomplete
    | some b =>
      let word := 2 * word + b
      let count := code.counts[maxWord - left]?.getD 0
      if word < first + count then
        match code.symbols[index + (word - first)]? with
        | some symbol => .ok (symbol, place + 1)
        | none => .error .corrupt
      else code.next data left (place + 1) word (2 * (first + count)) (index + count)

/-- The symbol of the word at a place, and the place behind it. -/
def PrefixCode.symbol (code : PrefixCode) (data : ByteArray) (place : Nat) :
    Except InflateFault (Nat × Nat) :=
  code.next data maxWord place 0 0 0

/-! ## Codes of a block -/

/-- The two codes of a block: for bytes and lengths of copies, and for their distances. -/
structure BlockCodes where
  literals : PrefixCode
  distances : PrefixCode

/-- The codes of a block that brings none. -/
def fixedCodes : BlockCodes :=
  { literals := .ofLengths (List.replicate 144 8 ++ List.replicate 112 9 ++ List.replicate 24 7
      ++ List.replicate 8 8)
    distances := .ofLengths (List.replicate 32 5) }

/-- The order in which the lengths of the code for lengths stand. -/
def lengthOrder : List Nat :=
  [16, 17, 18, 0, 8, 7, 9, 6, 10, 5, 11, 4, 12, 3, 13, 2, 14, 1, 15]

/-- Numbers of three bits each. -/
def smallLengths (data : ByteArray) (place : Nat) : Nat → Except InflateFault (List Nat × Nat)
  | 0 => .ok ([], place)
  | count + 1 => do
    let (length, place) ← bits data place 3
    let (rest, place) ← smallLengths data place count
    return (length :: rest, place)

/-- Word lengths, latest first, until there are `total` of them. Symbols above fifteen repeat the
length before them or zero. Each word gives a length, so `total` bounds the number of words. -/
def wordLengths (data : ByteArray) (code : PrefixCode) (total : Nat) :
    Nat → Nat → List Nat → Except InflateFault (List Nat × Nat)
  | 0, place, lengths => if lengths.length = total then .ok (lengths, place) else .error .corrupt
  | words + 1, place, lengths =>
    if lengths.length = total then .ok (lengths, place)
    else if total < lengths.length then .error .corrupt
    else do
      let (symbol, place) ← code.symbol data place
      if symbol < 16 then wordLengths data code total words place (symbol :: lengths)
      else if symbol = 16 then
        match lengths with
        | [] => throw .corrupt
        | last :: _ =>
          let (more, place) ← bits data place 2
          wordLengths data code total words place (List.replicate (3 + more) last ++ lengths)
      else if symbol = 17 then
        let (more, place) ← bits data place 3
        wordLengths data code total words place (List.replicate (3 + more) 0 ++ lengths)
      else
        let (more, place) ← bits data place 7
        wordLengths data code total words place (List.replicate (11 + more) 0 ++ lengths)

/-- The codes at the start of a block, and the place behind them. There are at most 286 symbols for
bytes and lengths and at most 30 for distances. -/
def readCodes (data : ByteArray) (place : Nat) : Except InflateFault (BlockCodes × Nat) := do
  let (literals, place) ← bits data place 5
  let (distances, place) ← bits data place 5
  let (lengths, place) ← bits data place 4
  if 286 < literals + 257 ∨ 30 < distances + 1 then throw .corrupt
  let (small, place) ← smallLengths data place (lengths + 4)
  let given := lengthOrder.zip small
  let code := PrefixCode.ofLengths ((List.range 19).map fun symbol => (given.lookup symbol).getD 0)
  if !code.isSound then throw .corrupt
  let total := literals + 257 + (distances + 1)
  let (all, place) ← wordLengths data code total total place []
  let all := all.reverse
  let codes : BlockCodes :=
    ⟨.ofLengths (all.take (literals + 257)), .ofLengths (all.drop (literals + 257))⟩
  if !codes.distances.isSound || !codes.literals.isSound then throw .corrupt
  return (codes, place)

/-! ## Blocks -/

/-- The least length of a copy and the number of further bits, by the symbol behind 256. -/
def copyLengths : List (Nat × Nat) :=
  [(3, 0), (4, 0), (5, 0), (6, 0), (7, 0), (8, 0), (9, 0), (10, 0), (11, 1), (13, 1), (15, 1),
   (17, 1), (19, 2), (23, 2), (27, 2), (31, 2), (35, 3), (43, 3), (51, 3), (59, 3), (67, 4), (83, 4),
   (99, 4), (115, 4), (131, 5), (163, 5), (195, 5), (227, 5), (258, 0)]

/-- The least distance of a copy and the number of further bits, by the symbol. -/
def copyDistances : List (Nat × Nat) :=
  [(1, 0), (2, 0), (3, 0), (4, 0), (5, 1), (7, 1), (9, 2), (13, 2), (17, 3), (25, 3), (33, 4), (49, 4),
   (65, 5), (97, 5), (129, 6), (193, 6), (257, 7), (385, 7), (513, 8), (769, 8), (1025, 9), (1537, 9),
   (2049, 10), (3073, 10), (4097, 11), (6145, 11), (8193, 12), (12289, 12), (16385, 13), (24577, 13)]

/-- The output with some bytes copied from a distance back. Before the start of the output there are
zeros. -/
def copyBack (out : ByteArray) (distance : Nat) : Nat → ByteArray
  | 0 => out
  | count + 1 =>
    let byte := if distance ≤ out.size then Bytes.byteAt out (out.size - distance) else 0
    copyBack (out.push byte.toUInt8) distance count

/-- A number with further bits: the entry of a table for a symbol, and what follows in the data. -/
def extended (data : ByteArray) (table : List (Nat × Nat)) (symbol place : Nat) :
    Except InflateFault (Nat × Nat) :=
  match table[symbol]? with
  | none => .error .corrupt
  | some (least, further) => (bits data place further).map fun (n, place) => (least + n, place)

/-- The rest of a block of codes, up to the symbol 256. Each symbol takes a bit, so the bits of the
data bound the number of symbols. -/
def codedBlock (data : ByteArray) (codes : BlockCodes) :
    Nat → Nat → ByteArray → Except InflateFault (ByteArray × Nat)
  | 0, _, _ => .error .incomplete
  | symbols + 1, place, out => do
    let (symbol, place) ← codes.literals.symbol data place
    if symbol < 256 then codedBlock data codes symbols place (out.push symbol.toUInt8)
    else if symbol = 256 then return (out, place)
    else
      let (length, place) ← extended data copyLengths (symbol - 257) place
      let (far, place) ← codes.distances.symbol data place
      let (distance, place) ← extended data copyDistances far place
      codedBlock data codes symbols place (copyBack out distance length)

/-- A block of stored bytes: at the next whole byte their number, its complement, and the bytes. -/
def storedBlock (data : ByteArray) (place : Nat) (out : ByteArray) :
    Except InflateFault (ByteArray × Nat) :=
  let start := (place + 7) / 8
  match Bytes.u32? data start with
  | none => .error .incomplete
  | some both =>
    let length := both % 0x10000
    if length + both / 0x10000 ≠ 0xFFFF then .error .corrupt
    else
      match Bytes.stretch? data (start + 4) length with
      | none => .error .incomplete
      | some stored => .ok (out ++ stored, 8 * (start + 4 + length))

/-- The blocks from a place on, up to the one marked as the last. Each takes three bits. -/
def blocks (data : ByteArray) : Nat → Nat → ByteArray → Except InflateFault ByteArray
  | 0, _, _ => .error .incomplete
  | more + 1, place, out => do
    let (last, place) ← bits data place 1
    let (kind, place) ← bits data place 2
    let (out, place) ←
      if kind = 0 then storedBlock data place out
      else if kind = 1 then codedBlock data fixedCodes (8 * data.size + 1) place out
      else if kind = 2 then do
        let (codes, place) ← readCodes data place
        codedBlock data codes (8 * data.size + 1) place out
      else throw .corrupt
    if last = 1 then return out else blocks data more place out

/-- The bytes that compressed data stands for. What follows the last block is not looked at. -/
def inflate (data : ByteArray) : Except InflateFault ByteArray :=
  blocks data (8 * data.size + 1) 0 .empty

end AppBoundary.Archive
