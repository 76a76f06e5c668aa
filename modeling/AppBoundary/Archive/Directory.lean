-- The directory of an archive: a record at its end says where the directory
-- lies, and the directory lists the entries.
import AppBoundary.Bytes
import AppBoundary.Fault
import AppBoundary.Text.CodePage
import AppBoundary.Text.Utf8

namespace AppBoundary.Archive

/-! ## Entries -/

/-- An entry as the directory lists it. The place of its data is a place in the file, with what
stands before the archive counted. -/
structure DirectoryEntry where
  name : String
  encrypted : Bool
  method : Nat
  crc : Nat
  compressedSize : Nat
  header : Nat
deriving DecidableEq

/-! ## The end record -/

def endSignature : Nat := 0x06054b50
def entrySignature : Nat := 0x02014b50
def localSignature : Nat := 0x04034b50

/-- The size of an end record without its comment. -/
def endRecordSize : Nat := 22

/-- The greatest size of a comment. -/
def maxComment : Nat := 0xFFFF

/-- The last place up to the given one, and not before the lowest, where an end record begins. -/
def findEndRecord (bytes : ByteArray) (lowest : Nat) : Nat → Option Nat
  | 0 => if lowest = 0 ∧ Bytes.u32? bytes 0 = some endSignature then some 0 else none
  | place + 1 =>
    if place + 1 < lowest then none
    else if Bytes.u32? bytes (place + 1) = some endSignature then some (place + 1)
    else findEndRecord bytes lowest place

/-- What the end record says: the number of entries, the place of the directory in the file, and how
far the archive is shifted by what stands before it. -/
structure DirectoryPlace where
  entries : Nat
  start : Nat
  shift : Nat

/-- The place of the directory. The directory ends where the end record begins, so the sizes in the
record tell how much stands before the archive. -/
def directoryPlace (bytes : ByteArray) : Except ArchiveFault DirectoryPlace :=
  if bytes.size < endRecordSize then .error .tooShort
  else
    let last := bytes.size - endRecordSize
    match findEndRecord bytes (last - maxComment) last with
    | none => .error .noEndRecord
    | some place =>
      let field := fun offset length => Bytes.numberAt bytes (place + offset) length
      let entries := field 8 2
      let size := field 12 4
      let offset := field 16 4
      let saturated :=
        field 4 2 = 0xFFFF ∨ field 6 2 = 0xFFFF ∨ entries = 0xFFFF ∨ field 10 2 = 0xFFFF
          ∨ size = 0xFFFFFFFF ∨ offset = 0xFFFFFFFF
      if bytes.size < place + endRecordSize + field 20 2 then .error .truncated
      else if ¬saturated ∧ field 4 2 ≠ field 6 2 then .error .severalDisks
      else if place < size + offset then .error .badDirectoryPlace
      else .ok ⟨entries, place - size, place - size - offset⟩

/-! ## The directory -/

/-- The kinds and the contents of the extra fields of an entry, up to one that is cut short. -/
def extraFields (bytes : ByteArray) : Nat → Nat → List (Nat × ByteArray)
  | 0, _ => []
  | more + 1, place =>
    match Bytes.u16? bytes place, Bytes.u16? bytes (place + 2) with
    | some kind, some length =>
      match Bytes.stretch? bytes (place + 4) length with
      | some field => (kind, field) :: extraFields bytes more (place + 4 + length)
      | none => []
    | _, _ => []

/-- The kind of the extra field that tells how an entry is encrypted. -/
def encryptionField : Nat := 0x9901

/-- The method of an entry whose real method stands in the encryption field. -/
def encryptionMethod : Nat := 99

/-- The entry that the directory has at a place, and the place of the next one. -/
def readDirectoryEntry (bytes : ByteArray) (shift place : Nat) :
    Except ArchiveFault (DirectoryEntry × Nat) :=
  match Bytes.u32? bytes place with
  | none => .error .truncated
  | some signature =>
    let field := fun offset length => Bytes.numberAt bytes (place + offset) length
    let nameLength := field 28 2
    let extraLength := field 30 2
    let next := place + 46 + nameLength + extraLength + field 32 2
    if signature ≠ entrySignature then .error .badDirectoryHeader
    else if bytes.size < place + 46 ∨ bytes.size < next then .error .truncated
    else
      let rawName := (bytes.extract (place + 46) (place + 46 + nameLength)).toList
      let extra :=
        bytes.extract (place + 46 + nameLength) (place + 46 + nameLength + extraLength)
      let encryption := (extraFields extra extraLength 0).find? (·.1 == encryptionField)
      if field 10 2 = encryptionMethod ∧ encryption.isNone then .error .noEncryptionField
      else
        .ok
          ({ name :=
              if field 8 2 / 0x800 % 2 = 1 then Text.decodeLenient rawName
              else Text.decodeCodePage rawName
             encrypted := field 8 2 % 2 = 1
             method :=
              match encryption with
              | some inner => Bytes.numberAt inner.2 5 2
              | none => field 10 2
             crc := field 16 4
             compressedSize := field 20 4
             header := field 42 4 + shift }, next)

/-- A number of entries of the directory, from a place on. -/
def readEntries (bytes : ByteArray) (shift : Nat) :
    Nat → Nat → Except ArchiveFault (List DirectoryEntry)
  | 0, _ => .ok []
  | count + 1, place => do
    let (entry, next) ← readDirectoryEntry bytes shift place
    let rest ← readEntries bytes shift count next
    return entry :: rest

/-- The entries of an archive, in the order of its directory. -/
def readDirectory (bytes : ByteArray) : Except ArchiveFault (List DirectoryEntry) := do
  let place ← directoryPlace bytes
  readEntries bytes place.shift place.entries place.start

end AppBoundary.Archive
