-- Numbers as text: decimal numerals of at most thirty-two bits, and the
-- decimal and hexadecimal spelling of a number.

namespace AppBoundary.Text

/-! ## Reading -/

/-- The value of a decimal digit. -/
def digit? (c : Char) : Option Nat :=
  if '0' ≤ c ∧ c ≤ '9' then some (c.toNat - '0'.toNat) else none

/-- The value of a hexadecimal digit of either case. -/
def hexDigit? (c : Char) : Option Nat :=
  if '0' ≤ c ∧ c ≤ '9' then some (c.toNat - '0'.toNat)
  else if 'a' ≤ c ∧ c ≤ 'f' then some (c.toNat - 'a'.toNat + 10)
  else if 'A' ≤ c ∧ c ≤ 'F' then some (c.toNat - 'A'.toNat + 10)
  else none

/-- The number that a list of digits writes in the given base, most significant digit first. -/
def ofDigits (base : Nat) (digits : List Nat) : Nat :=
  digits.foldl (fun n d => n * base + d) 0

/-- A non-empty text of decimal digits alone. -/
def natural? (cs : List Char) : Option Nat :=
  if cs.isEmpty then none else (cs.mapM digit?).map (ofDigits 10)

/-- How many numbers have at most thirty-two bits. -/
def wordLimit : Nat := 0x100000000

/-- A decimal numeral of at most thirty-two bits, with an optional plus sign and any leading zeros. -/
def word? (text : String) : Option Nat :=
  let digits :=
    match text.toList with
    | '+' :: rest => rest
    | cs => cs
  (natural? digits).filter (· < wordLimit)

/-- The character whose code exactly so many hexadecimal digits write. -/
def charOfDigits? (width : Nat) (digits : List Char) : Option Char := do
  if digits.length ≠ width then none
  let code := ofDigits 16 (← digits.mapM hexDigit?)
  if code.isValidChar then some (Char.ofNat code) else none

/-! ## Writing -/

/-- The decimal spelling of a number. -/
def decimal (n : Nat) : String :=
  String.ofList (Nat.toDigits 10 n)

/-- The hexadecimal spelling of a number: the mark `0x`, then lowercase digits. -/
def hexadecimal (n : Nat) : String :=
  "0x" ++ String.ofList (Nat.toDigits 16 n)

end AppBoundary.Text
