-- The cyclic redundancy check of thirty-two bits that archives keep of their
-- entries.

namespace AppBoundary.Archive

/-- The check after one more bit, low bits first. -/
def crcBit (crc : UInt32) : UInt32 :=
  if crc &&& 1 = 1 then (crc >>> 1) ^^^ 0xEDB88320 else crc >>> 1

/-- The check after one more byte. -/
def crcByte (crc : UInt32) (byte : UInt8) : UInt32 :=
  (crcBit ∘ crcBit ∘ crcBit ∘ crcBit ∘ crcBit ∘ crcBit ∘ crcBit ∘ crcBit) (crc ^^^ byte.toUInt32)

/-- The check of a sequence of bytes. -/
def crc32 (bytes : ByteArray) : UInt32 :=
  bytes.foldl crcByte 0xFFFFFFFF ^^^ 0xFFFFFFFF

end AppBoundary.Archive
