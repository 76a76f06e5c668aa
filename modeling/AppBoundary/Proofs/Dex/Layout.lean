-- The layout of compiled code, said of the bytes alone: which number, string,
-- type and method stands where. Bytes that stand at an offset lie in the file,
-- so every statement below keeps within it.
import AppBoundary.Dex.Image

namespace AppBoundary.DexLayout

variable (data : ByteArray)

/-! ## Numbers -/

/-- The bytes of a list stand at an offset, one after the other. -/
def BytesAt (offset : Nat) (bytes : List UInt8) : Prop :=
  ∀ i (h : i < bytes.length), data[offset + i]? = some bytes[i]

/-- The two bytes at an offset write `n`, low byte first. -/
def U16At (offset n : Nat) : Prop :=
  ∃ a b : UInt8, BytesAt data offset [a, b] ∧ n = a.toNat + 0x100 * b.toNat

/-- The four bytes at an offset write `n`, low byte first. -/
def U32At (offset n : Nat) : Prop :=
  ∃ a b c d : UInt8, BytesAt data offset [a, b, c, d] ∧
    n = a.toNat + 0x100 * b.toNat + 0x10000 * c.toNat + 0x1000000 * d.toNat

/-- The number that the low seven bits of some bytes write, low bits first. -/
def septets : List UInt8 → Nat
  | [] => 0
  | b :: rest => b.toNat % 0x80 + 0x80 * septets rest

/-- Up to five bytes at an offset write a number in groups of seven bits, cut to thirty-two bits.
The high bit is set in all of them but the last. -/
def UlebAt (offset value length : Nat) : Prop :=
  ∃ (high : List UInt8) (last : UInt8), BytesAt data offset (high ++ [last]) ∧
    (∀ b ∈ high, 0x80 ≤ b.toNat) ∧ last.toNat < 0x80 ∧ high.length < 5 ∧
    length = high.length + 1 ∧ value = septets (high ++ [last]) % 0x100000000

/-! ## Tables -/

/-- The header gives a table at `field`: the number of items, then the offset of the first. -/
def TableAt (field count offset : Nat) : Prop :=
  U32At data field count ∧ U32At data (field + 4) offset

/-- The header gives a table that lies in the file, with items of `itemSize` bytes. -/
def WholeTableAt (field itemSize count offset : Nat) : Prop :=
  TableAt data field count offset ∧ offset + count * itemSize ≤ data.size

/-! ## Strings and types -/

/-- Characters stand at an offset, and behind them the first zero byte from there on. -/
def CharactersAt (offset : Nat) (characters : List UInt8) : Prop :=
  0 ∉ characters ∧ BytesAt data offset (characters ++ [0])

/-- The string of an index. The table of strings has its offset, and the characters stand behind a
number that says nothing about them. -/
def StringAt (index : Nat) (text : String) : Prop :=
  ∃ count table offset value length characters,
    TableAt data 0x38 count table ∧ index < count ∧ U32At data (table + index * 4) offset ∧
    UlebAt data offset value length ∧ CharactersAt data (offset + length) characters ∧
    text = Text.decodeLenient characters

/-- The descriptor of a type index. The table of types has the index of its string. -/
def TypeAt (index : Nat) (descriptor : String) : Prop :=
  ∃ count table string,
    TableAt data 0x40 count table ∧ index < count ∧ U32At data (table + index * 4) string ∧
    StringAt data string descriptor

/-! ## Methods -/

/-- Type indices stand at an offset, one for each descriptor of a list. -/
def TypesAt (offset : Nat) (descriptors : List String) : Prop :=
  ∀ i (h : i < descriptors.length),
    ∃ type, U16At data (offset + i * 2) type ∧ TypeAt data type descriptors[i]

/-- The parameters at an offset: their number, then a type index for each. At zero there are
none. -/
def ParametersAt (offset : Nat) (parameters : List String) : Prop :=
  if offset = 0 then parameters = []
  else U32At data offset parameters.length ∧ TypesAt data (offset + 4) parameters

/-- The parameters and the result of a prototype index. -/
def ProtoAt (index : Nat) (parameters : List String) (result : String) : Prop :=
  ∃ count table type list,
    TableAt data 0x48 count table ∧ index < count ∧ U32At data (table + index * 12 + 4) type ∧
    U32At data (table + index * 12 + 8) list ∧ ParametersAt data list parameters ∧
    TypeAt data type result

/-- The method reference at an offset: the indices of its class, its prototype and its name. -/
def MethodAt (offset : Nat) (method : MethodReference) : Prop :=
  ∃ owner proto name,
    U16At data offset owner ∧ U16At data (offset + 2) proto ∧ U32At data (offset + 4) name ∧
    TypeAt data owner method.owner ∧ StringAt data name method.name ∧
    ProtoAt data proto method.parameters method.result

/-! ## The whole file -/

/-- The file is as long as a header and begins with `dex` and a line feed. -/
def HeaderAt : Prop :=
  0x70 ≤ data.size ∧ BytesAt data 0 [0x64, 0x65, 0x78, 0x0A]

/-- The descriptors of the defined classes, in the order of their table. -/
def ClassesAt (classes : List String) : Prop :=
  ∃ offset, WholeTableAt data 0x60 32 classes.length offset ∧
    ∀ i (h : i < classes.length),
      ∃ type, U32At data (offset + i * 32) type ∧ TypeAt data type classes[i]

/-- The method references, in the order of their table. -/
def MethodsAt (methods : List MethodReference) : Prop :=
  ∃ offset, WholeTableAt data 0x58 8 methods.length offset ∧
    ∀ i (h : i < methods.length), MethodAt data (offset + i * 8) methods[i]

/-! ## Bytes in a row -/

variable {data}

@[simp]
theorem bytesAt_nil (offset : Nat) : BytesAt data offset [] := by
  intro i h
  cases h

@[simp]
theorem bytesAt_cons {offset : Nat} {b : UInt8} {rest : List UInt8} :
    BytesAt data offset (b :: rest) ↔
      data[offset]? = some b ∧ BytesAt data (offset + 1) rest := by
  constructor
  · intro h
    refine ⟨h 0 (by simp), fun i hi => ?_⟩
    rw [Nat.add_right_comm]
    exact h (i + 1) (by simpa using hi)
  · rintro ⟨hb, hrest⟩ i hi
    cases i with
    | zero => exact hb
    | succ i =>
      rw [← Nat.add_assoc, Nat.add_right_comm]
      exact hrest i (by simpa using hi)

end AppBoundary.DexLayout
