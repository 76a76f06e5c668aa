-- Comparison without regard to case. Two texts are equal when they differ at
-- most in the case of ASCII letters, or when their characters have the same
-- lowercase forms.
import AppBoundary.Text.Lowercase

namespace AppBoundary.Text

/-! ## Two ways to ignore case -/

/-- Equal but for the case of ASCII letters. -/
def eqIgnoreAsciiCase (a b : String) : Bool :=
  a.toList.map Char.toLower == b.toList.map Char.toLower

/-- Equal after every character is put into its full lowercase form. -/
def eqLower (a b : String) : Bool :=
  lower a == lower b

/-- The comparison of class and package names. The first test is the quick one. -/
def eqIgnoreCase (a b : String) : Bool :=
  eqIgnoreAsciiCase a b || eqLower a b

end AppBoundary.Text
