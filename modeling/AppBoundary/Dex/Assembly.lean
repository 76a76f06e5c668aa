-- Small files of compiled code, made from the descriptors of their classes. Each
-- class has one method `run` without parameters and without a result. The tables
-- are filled in place in a file of zeros, then the strings go behind them one by
-- one, each of them entered in the table of strings as it comes.
import AppBoundary.Dex.Image

namespace AppBoundary

/-! ## Writing in place -/

/-- Bytes and the offset they are written to. -/
structure Patch where
  offset : Nat
  bytes : List UInt8

namespace Patch

/-- The offset behind the bytes. -/
def ending (patch : Patch) : Nat :=
  patch.offset + patch.bytes.length

/-- The low two bytes of a number, low byte first. -/
def u16 (offset n : Nat) : Patch :=
  ⟨offset, [UInt8.ofNat n, UInt8.ofNat (n / 0x100)]⟩

/-- The low four bytes of a number, low byte first. -/
def u32 (offset n : Nat) : Patch :=
  ⟨offset, [UInt8.ofNat n, UInt8.ofNat (n / 0x100), UInt8.ofNat (n / 0x10000),
    UInt8.ofNat (n / 0x1000000)]⟩

/-- The bytes with those of the patch in their place. A patch that goes beyond them is refused. -/
def write? (patch : Patch) (data : ByteArray) : Option ByteArray :=
  if patch.ending ≤ data.size then
    some (data.extract 0 patch.offset ++ patch.bytes.toByteArray
      ++ data.extract patch.ending data.size)
  else none

/-- The bytes with those of all patches in their places, later ones over earlier ones. -/
def writeAll? : List Patch → ByteArray → Option ByteArray
  | [], data => some data
  | patch :: rest, data => (patch.write? data).bind (writeAll? rest)

end Patch

namespace DexAssembly

/-! ## The plan

Where the tables of a file of `n` classes begin. There are `n + 2` strings, `n + 1` types, one
prototype, `n` methods and `n` class definitions. -/

def stringTable : Nat := DexImage.headerSize
def typeTable (n : Nat) : Nat := stringTable + (n + 2) * 4
def protoTable (n : Nat) : Nat := typeTable n + (n + 1) * 4
def methodTable (n : Nat) : Nat := protoTable n + DexImage.protoIdSize
def classTable (n : Nat) : Nat := methodTable n + n * DexImage.methodIdSize
def stringData (n : Nat) : Nat := classTable n + n * DexImage.classDefSize

/-! ## Tables -/

/-- The first bytes of a file, the version of the format among them. -/
def magic : Patch :=
  ⟨0, [0x64, 0x65, 0x78, 0x0A, 0x30, 0x33, 0x35, 0x00]⟩

/-- A table as the header gives it. -/
def tableEntry (field count offset : Nat) : List Patch :=
  [.u32 field count, .u32 (field + 4) offset]

def header (n : Nat) : List Patch :=
  magic :: (tableEntry DexImage.stringIds (n + 2) stringTable
    ++ tableEntry DexImage.typeIds (n + 1) (typeTable n)
    ++ tableEntry DexImage.protoIds 1 (protoTable n)
    ++ tableEntry DexImage.methodIds n (methodTable n)
    ++ tableEntry DexImage.classDefs n (classTable n))

/-- Every type has the string of its own index: the classes, then the type of no result. -/
def types (n : Nat) : List Patch :=
  (List.range (n + 1)).map fun i => .u32 (typeTable n + i * 4) i

/-- The one prototype: short form, result and no parameters. -/
def proto (n : Nat) : List Patch :=
  [.u32 (protoTable n) n, .u32 (protoTable n + 4) n, .u32 (protoTable n + 8) 0]

/-- The method of a class, and its definition. -/
def classItems (n i : Nat) : List Patch :=
  let method := methodTable n + i * DexImage.methodIdSize
  [.u16 method i, .u16 (method + 2) 0, .u32 (method + 4) (n + 1),
    .u32 (classTable n + i * DexImage.classDefSize) i]

/-- All that is written before the strings. -/
def tables (n : Nat) : List Patch :=
  header n ++ types n ++ proto n ++ (List.range n).flatMap (classItems n)

/-! ## Strings -/

/-- A string as the file has it: the low byte of its length, its characters and a zero byte. -/
def stringItem (text : String) : List UInt8 :=
  UInt8.ofNat (Text.encode text).length :: (Text.encode text ++ [0])

/-- Strings at the end of a file, the first of them under `index` in the table of strings. -/
def appendStrings? : (index : Nat) → List String → ByteArray → Option ByteArray
  | _, [], data => some data
  | index, text :: rest, data =>
    ((Patch.u32 (stringTable + index * 4) data.size).write? data).bind fun data =>
      appendStrings? (index + 1) rest (data ++ (stringItem text).toByteArray)

/-! ## Files -/

/-- The strings of a file: the descriptors of its classes, the type of no result, and the name of
the methods. -/
def strings (classes : List String) : List String :=
  classes ++ ["V", "run"]

/-- The file of some classes. Numbers that do not fit their bytes lose their high parts, and a write
beyond the tables would end the assembly. -/
def assemble? (classes : List String) : Option ByteArray := do
  let zeros : ByteArray := ⟨Array.replicate (stringData classes.length) 0⟩
  let data ← Patch.writeAll? (tables classes.length) zeros
  appendStrings? 0 (strings classes) data

end DexAssembly

end AppBoundary
