-- Where a text may be cut into visible characters, words and sentences: the
-- classes of characters that the rules for this tell apart. Each class comes
-- from properties and categories, with a few characters set apart by hand.
import AppBoundary.Unicode.Category
import AppBoundary.Unicode.Script
import AppBoundary.Unicode.Trait

namespace AppBoundary.Unicode.Segmentation

/-! ## Parts -/

/-- The characters of a text of ranges. -/
def listed (text : String) : CharSet :=
  CharSet.ofRanges (parseRanges text)

/-- The characters with a property. -/
def having (name : String) : CharSet :=
  (trait? name).getD .empty

/-- The characters of a category. -/
def within (name : String) : CharSet :=
  (category? name).getD .empty

/-- The characters of a script. -/
def writtenIn (name : String) : CharSet :=
  (script? name).getD .empty

/-- The invisible character that joins the ones beside it. -/
def joiner : CharSet :=
  listed "200D"

/-! ## Visible characters -/

/-- The characters that belong to the one before them. -/
def extending : CharSet :=
  (having "graphemeextend").union (having "emojimodifier")

def controlling : CharSet :=
  let controls :=
    (((within "zl").union (within "zp")).union ((within "cc").union (within "cf"))).union
      ((within "cn").inter (having "defaultignorablecodepoint"))
  ((controls.diff (listed "A D 200C-200D")).diff (having "prependedconcatenationmark")).diff extending

/-- Marks that take up room behind a character. Those that stand apart from it are left out. -/
def spacing : CharSet :=
  let apart :=
    listed "102B-102C 1038 1062-1064 1067-106D 1083 1087-108C 108F 109A-109C 1A61 1A63-1A64
            AA7B AA7D 11720-11721"
  (((within "mc").diff extending).diff apart).union (listed "E33 EB3")

/-- Marks that stand before a character. -/
def prepended : CharSet :=
  (having "prependedconcatenationmark").union
    (listed "D4E 111C2-111C3 113D1 1193F 11941 11A3A 11A84-11A89 11D46 11F02")

/-- Syllables of Hangul without a final consonant, which come first in every block of syllables. -/
def openSyllables : CharSet :=
  CharSet.ofRanges ((List.range 399).map fun block => (0xAC00 + 28 * block, 0xAC00 + 28 * block))

/-- The classes of characters for cuts between visible characters, by their names in normal form. -/
def grapheme? (name : String) : Option CharSet :=
  match name with
  | "cn" | "control" => some controlling
  | "cr" => some (listed "D")
  | "lf" => some (listed "A")
  | "ex" | "extend" => some extending
  | "l" => some (listed "1100-115F A960-A97C")
  | "v" => some (listed "1160-11A7 D7B0-D7C6 16D63 16D67-16D6A")
  | "t" => some (listed "11A8-11FF D7CB-D7FB")
  | "lv" => some openSyllables
  | "lvt" => some ((listed "AC00-D7A3").diff openSyllables)
  | "pp" | "prepend" => some prepended
  | "ri" | "regionalindicator" => some (having "regionalindicator")
  | "sm" | "spacingmark" => some spacing
  | "zwj" => some joiner
  | _ => none

/-! ## Words -/

/-- The characters that belong to the one before them, in a word. -/
def wordExtending : CharSet :=
  (extending.union (within "mc")).diff joiner

def wordFormat : CharSet :=
  (((within "cf").diff (listed "200B-200D")).diff (having "prependedconcatenationmark")).diff
    (having "graphemeextend")

def katakana : CharSet :=
  (writtenIn "katakana").union (listed "3031-3035 309B-309C 30A0 30FC FF70")

def hebrewLetter : CharSet :=
  (writtenIn "hebrew").inter (within "lo")

/-- Letters of writings that put no blank between words. -/
def unspaced : CharSet :=
  listed "E01-E30 E32-E33 E40-E46 E81-E82 E84 E86-E8A E8C-EA3 EA5 EA7-EB0 EB2-EB3 EBD EC0-EC4
          EC6 EDC-EDF 1000-102A 103F 1050-1055 105A-105D 1061 1065-1066 106E-1070 1075-1081
          108E 1780-17B3 17D7 17DC 1950-196D 1970-1974 1980-19AB 19B0-19C9 1A20-1A54 1AA7
          A9E0-A9E4 A9E6-A9EF A9FA-A9FE AA60-AA76 AA7A AA7E-AAAF AAB1 AAB5-AAB6 AAB9-AABD
          AAC0 AAC2 AADB-AADD 11700-1171A 11740-11746"

def wordLetter : CharSet :=
  let others := [having "ideographic", katakana, writtenIn "hiragana", wordExtending, hebrewLetter,
    unspaced]
  (others.foldl CharSet.diff (having "alphabetic")).union
    (listed "2C2-2C5 2D2-2D7 2DE-2DF 2E5-2EB 2ED 2EF-2FF 55A-55C 55E 58A 5F3 70F A708-A716
             A720-A721 A789-A78A AB5B")

/-- The classes of characters for cuts between words, by their names in normal form. The short name
`ex` is that of the connectors. -/
def word? (name : String) : Option CharSet :=
  match name with
  | "cr" => some (listed "D")
  | "lf" => some (listed "A")
  | "nl" | "newline" => some (listed "B-C 85 2028-2029")
  | "extend" => some wordExtending
  | "zwj" => some joiner
  | "ri" | "regionalindicator" => some (having "regionalindicator")
  | "fo" | "format" => some wordFormat
  | "ka" | "katakana" => some katakana
  | "hl" | "hebrewletter" => some hebrewLetter
  | "le" | "aletter" => some wordLetter
  | "nu" | "numeric" =>
    some ((within "nd").union (listed "600-605 66B 6DD 890-891 8E2 19DA 110BD 110CD"))
  | "ex" | "extendnumlet" => some ((within "pc").union (listed "202F"))
  | "dq" | "doublequote" => some (listed "22")
  | "sq" | "singlequote" => some (listed "27")
  | "ml" | "midletter" => some (listed "3A B7 387 55F 5F4 2027 FE13 FE55 FF1A")
  | "mn" | "midnum" =>
    some (listed "2C 3B 37E 589 60C-60D 66C 7F8 2044 FE50 FE54 FF0C FF1B")
  | "mb" | "midnumlet" => some (listed "2E 2018-2019 2024 FE52 FF07 FF0E")
  | "wsegspace" => some (listed "20 1680 2000-2006 2008-200A 205F 3000")
  | _ => none

/-! ## Sentences -/

/-- The characters that belong to the one before them, in a sentence. -/
def sentenceExtending : CharSet :=
  ((having "graphemeextend").union (within "mc")).union joiner

/-- Numbers that a sentence is not cut behind, and what stands among their digits. -/
def sentenceNumeric : CharSet :=
  (within "nd").union (listed "600-605 66B-66C 6DD 890-891 8E2 19DA 110BD 110CD")

def sentenceFormat : CharSet :=
  (((within "cf").diff (listed "200C-200D")).diff (having "graphemeextend")).diff sentenceNumeric

def sentenceLower : CharSet :=
  ((having "lowercase").diff sentenceExtending).diff (listed "10D0-10FA 10FD-10FF")

def sentenceUpper : CharSet :=
  ((within "lt").union (having "uppercase")).diff (listed "1C90-1CBA 1CBD-1CBF")

/-- Letters with no case. -/
def sentenceLetter : CharSet :=
  [sentenceLower, sentenceUpper, sentenceExtending].foldl CharSet.diff
    ((having "alphabetic").union (listed "5F3"))

/-- Dots that may end a sentence and may be part of a word. -/
def ambiguousEnd : CharSet :=
  listed "2E 2024 FE52 FF0E"

/-- Brackets and quotes. -/
def closing : CharSet :=
  (((within "ps").union (within "pe")).union ((within "pi").union (within "pf"))).union
    (listed "22 27 275B-2760 2E00-2E01 2E06-2E08 2E0B 1F676-1F678")

/-- The classes of characters for cuts between sentences, by their names in normal form. -/
def sentence? (name : String) : Option CharSet :=
  match name with
  | "cr" => some (listed "D")
  | "lf" => some (listed "A")
  | "se" | "sep" => some (listed "85 2028-2029")
  | "sp" => some (listed "9 B-C 20 A0 1680 2000-200A 202F 205F 3000")
  | "ex" | "extend" => some sentenceExtending
  | "fo" | "format" => some sentenceFormat
  | "lo" | "lower" => some sentenceLower
  | "up" | "upper" => some sentenceUpper
  | "le" | "oletter" => some sentenceLetter
  | "nu" | "numeric" => some sentenceNumeric
  | "at" | "aterm" => some ambiguousEnd
  | "st" | "sterm" => some ((having "sentenceterminal").diff ambiguousEnd)
  | "cl" | "close" => some closing
  | "sc" | "scontinue" =>
    some (listed "2C-2D 3A-3B 37E 55D 60C-60D 7F8 1802 1808 2013-2014 3001 FE10-FE11 FE13-FE14
                  FE31-FE32 FE50-FE51 FE54-FE55 FE58 FE63 FF0C-FF0D FF1A-FF1B FF64")
  | _ => none

end AppBoundary.Unicode.Segmentation
