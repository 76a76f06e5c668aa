-- Archives as what they offer: names of entries, and the contents of the entry
-- of a name.
import AppBoundary.Archive.Crc32
import AppBoundary.Archive.Directory
import AppBoundary.Archive.Inflate

namespace AppBoundary

/-! ## Packages -/

/-- Why an entry has no contents: it cannot be opened, or its data is bad. -/
inductive EntryFault
  | opening (cause : ArchiveFault)
  | data (cause : ReadFault)
deriving DecidableEq

/-- An archive by what it offers: the names of its entries, each once and in any order, and the
contents of the entry of a name. -/
structure Package where
  names : List String
  contents : String → Except EntryFault ByteArray

namespace Archive

/-! ## Contents -/

/-- The data of an entry as it is stored. The place comes from the header in front of it, the length
from the directory; the end of the file may cut it short. -/
def storedData (bytes : ByteArray) (entry : DirectoryEntry) : Except ArchiveFault ByteArray :=
  match Bytes.u32? bytes entry.header with
  | none => .error .truncated
  | some signature =>
    if signature ≠ localSignature then .error .badLocalHeader
    else
      match Bytes.u16? bytes (entry.header + 26), Bytes.u16? bytes (entry.header + 28) with
      | some nameLength, some extraLength =>
        let start := entry.header + 30 + nameLength + extraLength
        .ok (bytes.extract start (start + entry.compressedSize))
      | _, _ => .error .truncated

def storedMethod : Nat := 0
def deflateMethod : Nat := 8

/-- The contents of an entry. The checksum of the directory has to fit them; the size in the
directory is not looked at. -/
def entryContents (bytes : ByteArray) (entry : DirectoryEntry) : Except EntryFault ByteArray := do
  if entry.encrypted then throw (.opening .encrypted)
  let stored ←
    match storedData bytes entry with
    | .ok stored => pure stored
    | .error cause => throw (.opening cause)
  if entry.method ≠ storedMethod ∧ entry.method ≠ deflateMethod then throw (.opening .unknownMethod)
  let contents ←
    if entry.method = storedMethod then pure stored
    else
      match inflate stored with
      | .ok contents => pure contents
      | .error .corrupt => throw (.data .corruptDeflate)
      | .error .incomplete => throw (.data .incompleteDeflate)
  if (crc32 contents).toNat ≠ entry.crc then throw (.data .badChecksum)
  return contents

/-- The package of an archive. Of several entries of one name the last one counts. -/
def openPackage (bytes : ByteArray) : Except ArchiveFault Package := do
  let entries ← readDirectory bytes
  return {
    names := (entries.map (·.name)).eraseDups
    contents := fun name =>
      match entries.reverse.find? (·.name == name) with
      | some entry => entryContents bytes entry
      | none => throw (.opening .noEntry) }

end Archive

end AppBoundary
