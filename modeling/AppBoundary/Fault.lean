-- Everything that can go wrong, by cause, and the one place where each cause
-- gets its wording.
import AppBoundary.Path
import AppBoundary.Text.Numeral

namespace AppBoundary

open Text (decimal hexadecimal)

/-! ## Causes -/

/-- Inputs that are missing or that contradict each other. -/
inductive ConfigurationFault
  /-- A pattern holds nothing but white space. -/
  | blankPattern
  /-- A rule set or a filter was asked for without any pattern. -/
  | noPatterns
  | missingPatterns
  | missingArtifacts
  | missingOutputDirectory
  /-- An Android package stands beside other artifacts. -/
  | severalArtifacts
  | missingPlatformDirectory
  | missingRuntimeOrMainClass
  /-- An Android setup was asked for without a package and a platform directory. -/
  | noPackage
deriving DecidableEq

/-- Reasons why the bytes or the text behind a path cannot be read. -/
inductive ReadFault
  | notFound
  | notPermitted
  | notDirectory
  | isDirectory
  | nameHoldsNul
  | notUtf8
  /-- The checksum of an archive entry does not fit its data. -/
  | badChecksum
  | corruptDeflate
  | incompleteDeflate
deriving DecidableEq

/-- Reasons why a file is no usable archive, or an entry of it cannot be opened. -/
inductive ArchiveFault
  | tooShort
  /-- A record of the archive reaches beyond its end. -/
  | truncated
  | severalDisks
  | noEndRecord
  | noEntry
  | badDirectoryPlace
  | badDirectoryHeader
  | badLocalHeader
  | noEncryptionField
  | encrypted
  | unknownMethod
deriving DecidableEq

/-- Reasons why bytes are no usable class and method index. -/
inductive IndexFault
  | noHeader
  | pastEnd (offset : Nat)
  | tableTooLong (count offset size : Nat)
  | longUleb (offset : Nat)
  | stringIndex (index : Nat)
  | typeIndex (index : Nat)
  | protoIndex (index : Nat)
  | stringOutside
  | stringOpen
  /-- An archive holds no index at all. -/
  | noEntry
deriving DecidableEq

/-- Everything that can go wrong outside the settings files. -/
inductive Fault
  | configuration (cause : ConfigurationFault)
  | platformDetection (directory : Path)
  | entrySynthesis (text : String)
  | invalidPattern (pattern : String)
  | read (path : Path) (cause : ReadFault)
  | archive (path : Path) (cause : ArchiveFault)
  | malformedIndex (path : Path) (cause : IndexFault)
deriving DecidableEq

/-- Faults that the command line answers with its usage text. -/
def Fault.isConfiguration : Fault → Bool
  | .configuration _ => true
  | _ => false

/-! ## Wording -/

def ConfigurationFault.message : ConfigurationFault → String
  | .blankPattern => "empty application pattern"
  | .noPatterns => "missing option r : no application patterns given"
  | .missingPatterns => "missing option r : application-regex"
  | .missingArtifacts => "missing option a : application-jars"
  | .missingOutputDirectory => "missing option o : output-directory"
  | .severalArtifacts => "multiple application archives in Android mode"
  | .missingPlatformDirectory => "missing platform directory"
  | .missingRuntimeOrMainClass => "missing runtime directory and/or main class"
  | .noPackage => "Android setup requires an .apk and a platform directory"

def ReadFault.message : ReadFault → String
  | .notFound => "No such file or directory (os error 2)"
  | .notPermitted => "Permission denied (os error 13)"
  | .notDirectory => "Not a directory (os error 20)"
  | .isDirectory => "Is a directory (os error 21)"
  | .nameHoldsNul => "file name contained an unexpected NUL byte"
  | .notUtf8 => "stream did not contain valid UTF-8"
  | .badChecksum => "Invalid checksum"
  | .corruptDeflate => "corrupt deflate stream"
  | .incompleteDeflate => "incomplete deflate stream"

def ArchiveFault.message : ArchiveFault → String
  | .tooShort => "invalid Zip archive: Invalid zip header"
  | .truncated => "failed to fill whole buffer"
  | .severalDisks => "unsupported Zip archive: Support for multi-disk files is not implemented"
  | .noEndRecord => "invalid Zip archive: Could not find central directory end"
  | .noEntry => "specified file not found in archive"
  | .badDirectoryPlace => "invalid Zip archive: Invalid central directory size or offset"
  | .badDirectoryHeader => "invalid Zip archive: Invalid Central Directory header"
  | .badLocalHeader => "invalid Zip archive: Invalid local file header"
  | .noEncryptionField => "invalid Zip archive: AES encryption without AES extra data field"
  | .encrypted => "unsupported Zip archive: Password required to decrypt file"
  | .unknownMethod => "unsupported Zip archive: Compression method not supported"

def IndexFault.message : IndexFault → String
  | .noHeader => "missing dex header"
  | .pastEnd offset => "read past end at offset " ++ hexadecimal offset
  | .tableTooLong count offset size =>
    "table of " ++ decimal count ++ " entries at offset " ++ hexadecimal offset
      ++ " exceeds file size " ++ decimal size
  | .longUleb offset => "bad uleb128 at offset " ++ hexadecimal offset
  | .stringIndex index => "string index " ++ decimal index ++ " out of range"
  | .typeIndex index => "type index " ++ decimal index ++ " out of range"
  | .protoIndex index => "proto index " ++ decimal index ++ " out of range"
  | .stringOutside => "string data out of range"
  | .stringOpen => "unterminated string"
  | .noEntry => "no classes.dex entry in archive"

/-- The text of a fault. An invalid pattern is shown without the complaint of the pattern
compiler, which has no fixed wording. -/
def Fault.message : Fault → String
  | .configuration cause => cause.message
  | .platformDetection directory =>
    "Couldn't find the Android API version: no android-N/android.jar under " ++ directory.text
  | .entrySynthesis text => "Failed to synthesize entry point: " ++ text
  | .invalidPattern pattern => "Invalid application pattern " ++ pattern
  | .read path cause => "Failed to read " ++ path.text ++ ": " ++ cause.message
  | .archive path cause => "Failed to open archive " ++ path.text ++ ": " ++ cause.message
  | .malformedIndex path cause => "Malformed dex index " ++ path.text ++ ": " ++ cause.message

end AppBoundary
