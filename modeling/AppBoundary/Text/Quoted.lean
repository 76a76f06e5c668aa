-- Texts in quotation marks, as diagnostic output shows them: what cannot be
-- seen is written by its code.
import AppBoundary.Unicode.Category
import AppBoundary.Unicode.Trait

namespace AppBoundary.Text

/-! ## Characters that can be seen -/

/-- The characters with a shape: neither controls, format characters and private ones, nor blanks
and separators, nor codes without a character. -/
def shaped : Unicode.CharSet :=
  Unicode.categoriesWhere fun code =>
    !(["cc", "cf", "co", "zl", "zp", "zs"].contains code)

/-- The characters that join the one before them. -/
def joining : Unicode.CharSet :=
  (Unicode.trait? "graphemeextend").getD .empty

/-! ## Quotation -/

/-- A character by its code. -/
def byCode (c : Char) : List Char :=
  "\\u\x7b".toList ++ Nat.toDigits 16 c.toNat ++ ['\x7d']

/-- A character inside quotation marks. A joining character is written by its code, so that it does
not change the look of the one before it. -/
def quoteChar (c : Char) : List Char :=
  if c = '\x00' then ['\\', '0']
  else if c = '\t' then ['\\', 't']
  else if c = '\r' then ['\\', 'r']
  else if c = '\n' then ['\\', 'n']
  else if c = '"' ∨ c = '\\' then ['\\', c]
  else if joining.contains c then byCode c
  else if c = ' ' || shaped.contains c then [c]
  else byCode c

/-- A text with its quotation marks. -/
def quoted (text : String) : String :=
  String.ofList ('"' :: text.toList.flatMap quoteChar ++ ['"'])

end AppBoundary.Text
