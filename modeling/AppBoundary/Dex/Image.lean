-- Compiled Android code as bytes: numbers, strings, types, prototypes and
-- method references read at their places. Every read names its offset when it
-- leaves the file.
--
--   header      places of the tables of strings, types, prototypes, methods
--               and class definitions
--   string id   32 bits: offset of a length, the characters and a zero byte
--   type id     32 bits: a string
--   proto id    32 bits each: short form, result type, offset of parameters
--   method id   16 bits class type, 16 bits prototype, 32 bits name string
--   class def   32 bits class type, then 28 bytes of no interest here
import AppBoundary.Bytes
import AppBoundary.Fault
import AppBoundary.Text.Utf8

namespace AppBoundary

/-- The bytes of one file of compiled code. -/
structure DexImage where
  bytes : ByteArray

/-- A method as one file of compiled code refers to it: the class and the types by their
descriptors. -/
structure MethodReference where
  owner : String
  name : String
  parameters : List String
  result : String
deriving DecidableEq

/-- The spelling of a method reference. -/
def MethodReference.text (method : MethodReference) : String :=
  method.owner ++ "->" ++ method.name ++ "(" ++ String.join method.parameters ++ ")" ++ method.result

/-- The number of items of a table and the offset of the first. -/
structure DexTable where
  count : Nat
  offset : Nat
deriving DecidableEq

namespace DexImage

/-! ## The layout -/

def headerSize : Nat := 0x70
def stringIds : Nat := 0x38
def typeIds : Nat := 0x40
def protoIds : Nat := 0x48
def methodIds : Nat := 0x58
def classDefs : Nat := 0x60
def protoIdSize : Nat := 12
def methodIdSize : Nat := 8
def classDefSize : Nat := 32

/-! ## Numbers -/

/-- The length of the file. -/
def size (image : DexImage) : Nat :=
  image.bytes.size

/-- The byte at an offset, zero outside the file. -/
def byte (image : DexImage) (offset : Nat) : Nat :=
  Bytes.byteAt image.bytes offset

/-- The two bytes at an offset as a number. -/
def u16At (image : DexImage) (offset : Nat) : Except IndexFault Nat :=
  match Bytes.u16? image.bytes offset with
  | some n => .ok n
  | none => .error (.pastEnd offset)

/-- The four bytes at an offset as a number. -/
def u32At (image : DexImage) (offset : Nat) : Except IndexFault Nat :=
  match Bytes.u32? image.bytes offset with
  | some n => .ok n
  | none => .error (.pastEnd offset)

/-- The number in groups of seven bits, low bits first, that goes from byte `i` behind `start` to the
first byte below 0x80, and the number of bytes from `start` to its end. At most `left` are read. -/
def ulebGroups (image : DexImage) (start : Nat) : Nat → Nat → Except IndexFault (Nat × Nat)
  | 0, _ => .error (.longUleb start)
  | left + 1, i =>
    if start + i < image.size then
      let b := image.byte (start + i)
      if b < 0x80 then .ok (b, i + 1)
      else (image.ulebGroups start left (i + 1)).map fun (value, length) =>
        (b % 0x80 + 0x80 * value, length)
    else .error (.pastEnd (start + i))

/-- The number of up to five bytes at an offset, seven bits a byte and low bits first, in
thirty-two bits, and the number of its bytes. -/
def ulebAt (image : DexImage) (offset : Nat) : Except IndexFault (Nat × Nat) :=
  (image.ulebGroups offset 5 0).map fun (value, length) => (value % 0x100000000, length)

/-! ## Tables -/

/-- A table as the header gives it. -/
def tableAt (image : DexImage) (field : Nat) : Except IndexFault DexTable := do
  let count ← image.u32At field
  let offset ← image.u32At (field + 4)
  return ⟨count, offset⟩

/-- A table as the header gives it, all of it inside the file. -/
def wholeTable (image : DexImage) (field itemSize : Nat) : Except IndexFault DexTable := do
  let t ← image.tableAt field
  if t.offset + t.count * itemSize ≤ image.size then return t
  else throw (.tableTooLong t.count t.offset image.size)

/-! ## Strings and types -/

/-- The bytes from an offset up to the next zero byte. -/
def untilZero (image : DexImage) (offset : Nat) : Option (List UInt8) :=
  if h : offset < image.bytes.size then
    if image.bytes[offset] = 0 then some []
    else (image.untilZero (offset + 1)).map (image.bytes[offset] :: ·)
  else none
termination_by image.bytes.size - offset

/-- The string of an index. Its length in front of it is skipped and not used. -/
def stringAt (image : DexImage) (index : Nat) : Except IndexFault String := do
  let ids ← image.tableAt stringIds
  if ids.count ≤ index then throw (.stringIndex index)
  let offset ← image.u32At (ids.offset + index * 4)
  let (_, length) ← image.ulebAt offset
  let start := offset + length
  if image.size < start then throw .stringOutside
  match image.untilZero start with
  | some characters => return Text.decodeLenient characters
  | none => throw .stringOpen

/-- The descriptor of a type index. -/
def typeAt (image : DexImage) (index : Nat) : Except IndexFault String := do
  let ids ← image.tableAt typeIds
  if ids.count ≤ index then throw (.typeIndex index)
  image.stringAt (← image.u32At (ids.offset + index * 4))

/-! ## Methods -/

/-- The descriptors of `count` parameters, whose type indices stand one after the other. -/
def parametersAt (image : DexImage) (offset : Nat) : Nat → Except IndexFault (List String)
  | 0 => .ok []
  | count + 1 => do
    let parameter ← image.typeAt (← image.u16At offset)
    let rest ← image.parametersAt (offset + 2) count
    return parameter :: rest

/-- The parameters and the result of a prototype index. A parameter offset of zero means that
there are none. -/
def protoAt (image : DexImage) (index : Nat) : Except IndexFault (List String × String) := do
  let ids ← image.tableAt protoIds
  if ids.count ≤ index then throw (.protoIndex index)
  let base := ids.offset + index * protoIdSize
  let result ← image.u32At (base + 4)
  let offset ← image.u32At (base + 8)
  let parameters ←
    if offset = 0 then pure []
    else do
      let count ← image.u32At offset
      image.parametersAt (offset + 4) count
  return (parameters, ← image.typeAt result)

/-- The method reference at an offset. -/
def methodAt (image : DexImage) (offset : Nat) : Except IndexFault MethodReference := do
  let classIndex ← image.u16At offset
  let protoIndex ← image.u16At (offset + 2)
  let nameIndex ← image.u32At (offset + 4)
  let owner ← image.typeAt classIndex
  let name ← image.stringAt nameIndex
  let (parameters, result) ← image.protoAt protoIndex
  return ⟨owner, name, parameters, result⟩

/-- The file is long enough for a header and begins as such a file does. -/
def hasHeader (image : DexImage) : Bool :=
  headerSize ≤ image.size
    && image.byte 0 == 0x64 && image.byte 1 == 0x65 && image.byte 2 == 0x78 && image.byte 3 == 0x0A

/-- The descriptors of the defined classes. -/
def classes (image : DexImage) : Except IndexFault (List String) := do
  let defs ← image.wholeTable classDefs classDefSize
  (List.range defs.count).mapM fun i => do
    image.typeAt (← image.u32At (defs.offset + i * classDefSize))

/-- The method references. -/
def methods (image : DexImage) : Except IndexFault (List MethodReference) := do
  let ids ← image.wholeTable methodIds methodIdSize
  (List.range ids.count).mapM fun i => image.methodAt (ids.offset + i * methodIdSize)

end DexImage

end AppBoundary
