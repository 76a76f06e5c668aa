-- The reader of compiled code as a machine runs it. Sums and products are those
-- of the machine, slices are cut and bytes are taken by their places, and every
-- such step is noted with the numbers that it has when nothing is cut to a word.
import AppBoundary.Dex.Index

namespace AppBoundary

/-! ## Arithmetic -/

/-- The number of words of 64 bits. -/
def wordCount : Nat := 0x10000000000000000

/-- How sums and products are made. The checked ones may have no result. -/
structure Arithmetic where
  add : Nat → Nat → Nat
  mul : Nat → Nat → Nat
  add? : Nat → Nat → Option Nat
  mul? : Nat → Nat → Option Nat

namespace Arithmetic

/-- Numbers without a bound. -/
def unbounded : Arithmetic where
  add a b := a + b
  mul a b := a * b
  add? a b := some (a + b)
  mul? a b := some (a * b)

/-- Words: a plain result is cut to a word, and a checked one has to be a word. -/
def words : Arithmetic where
  add a b := (a + b) % wordCount
  mul a b := (a * b) % wordCount
  add? a b := if a + b < wordCount then some (a + b) else none
  mul? a b := if a * b < wordCount then some (a * b) else none

/-- Words, with every result cut to a word. -/
def wrapping : Arithmetic where
  add a b := (a + b) % wordCount
  mul a b := (a * b) % wordCount
  add? a b := some ((a + b) % wordCount)
  mul? a b := some ((a * b) % wordCount)

/-- Results that are words are right. -/
structure Exact (arithmetic : Arithmetic) : Prop where
  add : ∀ a b, a + b < wordCount → arithmetic.add a b = a + b
  mul : ∀ a b, a * b < wordCount → arithmetic.mul a b = a * b
  add? : ∀ a b, a + b < wordCount → arithmetic.add? a b = some (a + b)
  mul? : ∀ a b, a * b < wordCount → arithmetic.mul? a b = some (a * b)

theorem exact_unbounded : unbounded.Exact :=
  ⟨fun _ _ _ => rfl, fun _ _ _ => rfl, fun _ _ _ => rfl, fun _ _ _ => rfl⟩

theorem exact_words : words.Exact :=
  ⟨fun _ _ h => Nat.mod_eq_of_lt h, fun _ _ h => Nat.mod_eq_of_lt h, fun _ _ h => if_pos h,
    fun _ _ h => if_pos h⟩

theorem exact_wrapping : wrapping.Exact :=
  ⟨fun _ _ h => Nat.mod_eq_of_lt h, fun _ _ h => Nat.mod_eq_of_lt h,
    fun _ _ h => congrArg some (Nat.mod_eq_of_lt h), fun _ _ h => congrArg some (Nat.mod_eq_of_lt h)⟩

end Arithmetic

/-! ## Steps -/

/-- A step of a machine. -/
inductive Step
  /-- An offset, an index or a count is made. -/
  | number (n : Nat)
  /-- A slice is cut from so many bytes. -/
  | slice (start stop length : Nat)
  /-- A byte is taken from a slice. -/
  | byte (index length : Nat)
  /-- Room for so many classes is reserved. -/
  | classRoom (count : Nat)
  /-- Room for so many methods is reserved. -/
  | methodRoom (count : Nat)

/-- What has to hold of a step in a file of a size. -/
def Step.Safe (size : Nat) : Step → Prop
  | .number n => n < wordCount
  | .slice start stop length => start ≤ stop ∧ stop ≤ length
  | .byte index length => index < length
  | .classRoom count => count ≤ size / 32
  | .methodRoom count => count ≤ size / 8

/-- The steps of a part of a run, and its outcome. -/
structure Traced (α : Type) where
  steps : List Step
  outcome : Except Fault α

namespace Traced

variable {α β : Type}

/-- One step. -/
def note (step : Step) (a : α) : Traced α :=
  ⟨[step], .ok a⟩

/-- One part of a run, and the next one behind it unless the first one fails. -/
def andThen (first : Traced α) (next : α → Traced β) : Traced β :=
  match first.outcome with
  | .ok a => ⟨first.steps ++ (next a).steps, (next a).outcome⟩
  | .error fault => ⟨first.steps, .error fault⟩

instance : Monad Traced where
  pure a := ⟨[], .ok a⟩
  bind := andThen

/-- A part for each of some numbers in a row, from `i` on. -/
def each (f : Nat → Traced α) : Nat → Nat → Traced (List α)
  | 0, _ => pure []
  | left + 1, i => do
    let first ← f i
    let rest ← each f left (i + 1)
    return first :: rest

end Traced

/-! ## The machine -/

/-- A slice of the file. -/
structure Slice where
  start : Nat
  length : Nat

/-- A reader with its arithmetic, its file and the path that it names in faults. -/
structure DexMachine where
  arithmetic : Arithmetic
  image : DexImage
  path : Path

namespace DexMachine

open DexImage (stringIds typeIds protoIds methodIds classDefs protoIdSize methodIdSize classDefSize)

variable {α : Type} (m : DexMachine)

def malformed (cause : IndexFault) : Traced α :=
  ⟨[], .error (.malformedIndex m.path cause)⟩

def add (a b : Nat) : Traced Nat :=
  .note (.number (a + b)) (m.arithmetic.add a b)

def mul (a b : Nat) : Traced Nat :=
  .note (.number (a * b)) (m.arithmetic.mul a b)

def add? (a b : Nat) : Traced (Option Nat) :=
  .note (.number (a + b)) (m.arithmetic.add? a b)

def mul? (a b : Nat) : Traced (Option Nat) :=
  .note (.number (a * b)) (m.arithmetic.mul? a b)

/-- The slice between two places, if they lie in the file. -/
def slice? (start stop : Nat) : Traced (Option Slice) :=
  if start ≤ stop ∧ stop ≤ m.image.size then
    .note (.slice start stop m.image.size) (some ⟨start, stop - start⟩)
  else pure none

/-- A byte of a slice. -/
def byte (slice : Slice) (index : Nat) : Traced Nat :=
  .note (.byte index slice.length) (m.image.byte (slice.start + index))

/-- All bytes of a slice. -/
def contents (slice : Slice) : List UInt8 :=
  (m.image.bytes.data.toList.drop slice.start).take slice.length

/-! ## Numbers -/

def bytes (offset length : Nat) : Traced Slice := do
  match ← m.add? offset length with
  | some stop =>
    match ← m.slice? offset stop with
    | some slice => return slice
    | none => m.malformed (.pastEnd offset)
  | none => m.malformed (.pastEnd offset)

def u16At (offset : Nat) : Traced Nat := do
  let slice ← m.bytes offset 2
  let first ← m.byte slice 0
  let second ← m.byte slice 1
  return first + 0x100 * second

def u32At (offset : Nat) : Traced Nat := do
  let slice ← m.bytes offset 4
  let first ← m.byte slice 0
  let second ← m.byte slice 1
  let third ← m.byte slice 2
  let fourth ← m.byte slice 3
  return first + 0x100 * (second + 0x100 * (third + 0x100 * fourth))

def ulebGroups (start : Nat) : Nat → Nat → Traced (Nat × Nat)
  | 0, _ => m.malformed (.longUleb start)
  | left + 1, i => do
    let slice ← m.bytes (← m.add start i) 1
    let b ← m.byte slice 0
    if b < 0x80 then return (b, ← m.add i 1)
    else
      let (value, length) ← ulebGroups start left (i + 1)
      return (b % 0x80 + 0x80 * value, length)

def ulebAt (offset : Nat) : Traced (Nat × Nat) := do
  let (value, length) ← m.ulebGroups offset 5 0
  return (value % 0x100000000, length)

/-! ## Tables -/

def tableAt (field : Nat) : Traced DexTable := do
  let count ← m.u32At field
  let offset ← m.u32At (← m.add field 4)
  return ⟨count, offset⟩

/-- The end of a table, if it is a number. -/
def stop? (t : DexTable) (itemSize : Nat) : Traced (Option Nat) := do
  match ← m.mul? t.count itemSize with
  | some length => m.add? t.offset length
  | none => return none

def wholeTable (field itemSize : Nat) : Traced DexTable := do
  let t ← m.tableAt field
  match ← m.stop? t itemSize with
  | some stop =>
    if stop ≤ m.image.size then return t
    else m.malformed (.tableTooLong t.count t.offset m.image.size)
  | none => m.malformed (.tableTooLong t.count t.offset m.image.size)

/-! ## Strings and types -/

/-- The bytes of a slice in front of its first zero byte. -/
def characters (rest : Slice) : Traced (List UInt8) := do
  match (m.contents rest).findIdx? (· == 0) with
  | none => m.malformed .stringOpen
  | some found =>
    let stop ← Traced.note (.number found) found
    let front ← Traced.note (.slice 0 stop rest.length) (Slice.mk rest.start stop)
    return m.contents front

def stringAt (index : Nat) : Traced String := do
  let ids ← m.tableAt stringIds
  if ids.count ≤ index then m.malformed (.stringIndex index)
  else
    let offset ← m.u32At (← m.add ids.offset (← m.mul index 4))
    let (_, length) ← m.ulebAt offset
    match ← m.slice? (← m.add offset length) m.image.size with
    | none => m.malformed .stringOutside
    | some rest => return Text.decodeLenient (← m.characters rest)

def typeAt (index : Nat) : Traced String := do
  let ids ← m.tableAt typeIds
  if ids.count ≤ index then m.malformed (.typeIndex index)
  else m.stringAt (← m.u32At (← m.add ids.offset (← m.mul index 4)))

/-! ## Methods -/

def parameterAt (offset i : Nat) : Traced String := do
  m.typeAt (← m.u16At (← m.add (← m.add offset 4) (← m.mul i 2)))

def parametersAt (offset : Nat) : Traced (List String) :=
  if offset = 0 then pure []
  else do
    let count ← m.u32At offset
    .each (m.parameterAt offset) count 0

def protoAt (index : Nat) : Traced (List String × String) := do
  let ids ← m.tableAt protoIds
  if ids.count ≤ index then m.malformed (.protoIndex index)
  else
    let base ← m.add ids.offset (← m.mul index protoIdSize)
    let result ← m.u32At (← m.add base 4)
    let offset ← m.u32At (← m.add base 8)
    let parameters ← m.parametersAt offset
    return (parameters, ← m.typeAt result)

def methodAt (offset : Nat) : Traced MethodReference := do
  let classIndex ← m.u16At offset
  let protoIndex ← m.u16At (← m.add offset 2)
  let nameIndex ← m.u32At (← m.add offset 4)
  let owner ← m.typeAt classIndex
  let name ← m.stringAt nameIndex
  let (parameters, result) ← m.protoAt protoIndex
  return ⟨owner, name, parameters, result⟩

/-! ## The whole file -/

def classes : Traced (List String) := do
  let defs ← m.wholeTable classDefs classDefSize
  let count ← Traced.note (.classRoom defs.count) defs.count
  .each (fun i => do m.typeAt (← m.u32At (← m.add defs.offset (← m.mul i classDefSize)))) count 0

def methods : Traced (List MethodReference) := do
  let ids ← m.wholeTable methodIds methodIdSize
  let count ← Traced.note (.methodRoom ids.count) ids.count
  .each (fun i => do m.methodAt (← m.add ids.offset (← m.mul i methodIdSize))) count 0

/-- A run over a whole file. -/
def run : Traced ClassIndex := do
  if !m.image.hasHeader then m.malformed .noHeader
  else
    let classes ← m.classes
    let methods ← m.methods
    return ⟨classes, methods.map MethodReference.text⟩

end DexMachine

end AppBoundary
