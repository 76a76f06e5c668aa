-- The spelling of numbers and moments. Only where they end is asked for, and
-- whether they are in range.
import AppBoundary.Text.Numeral

namespace AppBoundary.Toml

/-! ## Digits -/

/-- More digits, with single underscores between them. -/
def moreDigits (isDigit : Char → Bool) : List Char → Option (List Char × List Char)
  | [] => some ([], [])
  | ['_'] => none
  | '_' :: c :: rest =>
    if isDigit c then (moreDigits isDigit rest).map fun (digits, after) => (c :: digits, after)
    else none
  | c :: rest =>
    if isDigit c then (moreDigits isDigit rest).map fun (digits, after) => (c :: digits, after)
    else some ([], c :: rest)

/-- Digits, with single underscores between them. -/
def someDigits (isDigit : Char → Bool) : List Char → Option (List Char × List Char)
  | [] => none
  | c :: rest =>
    if isDigit c then (moreDigits isDigit rest).map fun (digits, after) => (c :: digits, after)
    else none

/-- A decimal digit. -/
def isDecimal (c : Char) : Bool :=
  (Text.digit? c).isSome

/-- The number of some digits in a base. -/
def numberOf (base : Nat) (digits : List Char) : Nat :=
  Text.ofDigits base (digits.filterMap Text.hexDigit?)

/-- A sign, if there is one: whether it is a minus sign, and the text behind it. -/
def readSign : List Char → Bool × List Char
  | '+' :: rest => (false, rest)
  | '-' :: rest => (true, rest)
  | rest => (false, rest)

/-- Decimal digits without leading zeros. -/
def readWhole : List Char → Option (List Char × List Char)
  | '0' :: rest => some (['0'], rest)
  | cs => someDigits isDecimal cs

/-! ## Integers -/

/-- The least number above all positive integers of sixty-four bits. -/
def integerLimit : Nat := 0x8000000000000000

/-- The text behind digits in a base, behind their mark. -/
def afterBase (base : Nat) (cs : List Char) : Option (List Char) := do
  let isDigit := fun c => (Text.hexDigit? c).any (· < base)
  let (digits, rest) ← someDigits isDigit cs
  if numberOf base digits < integerLimit then some rest else none

/-- The text behind an integer of sixty-four bits. -/
def afterInteger : List Char → Option (List Char)
  | '0' :: 'x' :: rest => afterBase 16 rest
  | '0' :: 'o' :: rest => afterBase 8 rest
  | '0' :: 'b' :: rest => afterBase 2 rest
  | cs => do
    let (isNegative, cs) := readSign cs
    let (digits, rest) ← readWhole cs
    let limit := if isNegative then integerLimit + 1 else integerLimit
    if numberOf 10 digits < limit then some rest else none

/-! ## Fractions -/

/-- The digits of a fraction behind its point. -/
def readFraction : List Char → Option (List Char × List Char)
  | '.' :: rest => someDigits isDecimal rest
  | _ => none

/-- An exponent of ten. -/
def readExponent : List Char → Option (Int × List Char)
  | c :: rest => do
    if c ≠ 'e' ∧ c ≠ 'E' then none
    let (isNegative, rest) := readSign rest
    let (digits, rest) ← someDigits isDecimal rest
    let size : Int := numberOf 10 digits
    return (if isNegative then -size else size, rest)
  | [] => none

/-- The number whose digits are a one and so many zeros. -/
def oneWithZeros (zeros : Nat) : Nat :=
  numberOf 10 ('1' :: List.replicate zeros '0')

/-- The number half way between the largest double and its successor, were there one. -/
def doubleLimit : Nat := 0x3FFFFFFFFFFFFF <<< 970

/-- `digits · 10 ^ exponent` is nearer to what would follow the largest double than to the largest
double. Outside of a few exponents, the number of digits alone decides. -/
def isTooLarge (digits : List Char) (exponent : Int) : Bool :=
  let significant := digits.dropWhile (· = '0')
  let size : Int := significant.length + exponent
  if significant.isEmpty || size < 309 then false
  else if 310 < size then true
  else
    doubleLimit * oneWithZeros (-exponent).toNat
      ≤ numberOf 10 significant * oneWithZeros exponent.toNat

/-- The text behind a number with a fraction, an exponent, or both. A positive one must not be too
large for a double. -/
def afterDecimal (cs : List Char) : Option (List Char) := do
  let (isNegative, cs) := readSign cs
  let (whole, rest) ← readWhole cs
  let fraction? := readFraction rest
  let (fraction, rest) := fraction?.getD ([], rest)
  let exponent? := readExponent rest
  let (exponent, rest) := exponent?.getD (0, rest)
  if fraction?.isNone && exponent?.isNone then none
  if !isNegative && isTooLarge (whole ++ fraction) (exponent - fraction.length) then none
  else some rest

/-- The text behind a special number. -/
def afterSpecial (cs : List Char) : Option (List Char) :=
  match (readSign cs).2 with
  | 'i' :: 'n' :: 'f' :: rest | 'n' :: 'a' :: 'n' :: rest => some rest
  | _ => none

/-! ## Moments -/

/-- A number of exactly so many digits within limits. -/
def readPart (width least most : Nat) (cs : List Char) : Option (Nat × List Char) := do
  let digits := cs.take width
  if digits.length ≠ width then none
  let n ← Text.natural? digits
  if least ≤ n ∧ n ≤ most then some (n, cs.drop width) else none

/-- The text behind a sign. -/
def afterSign (sign : Char) : List Char → Option (List Char)
  | c :: rest => if c = sign then some rest else none
  | [] => none

/-- The number of days in a month. -/
def daysIn (year month : Nat) : Nat :=
  if month = 2 then if year % 4 = 0 ∧ (year % 100 ≠ 0 ∨ year % 400 = 0) then 29 else 28
  else if month = 4 ∨ month = 6 ∨ month = 9 ∨ month = 11 then 30
  else 31

/-- The text behind a date. -/
def afterDate (cs : List Char) : Option (List Char) := do
  let (year, cs) ← readPart 4 0 9999 cs
  let (month, cs) ← readPart 2 1 12 (← afterSign '-' cs)
  let (_, cs) ← readPart 2 1 (daysIn year month) (← afterSign '-' cs)
  return cs

/-- The text behind a time of day. A minute may have a leap second. -/
def afterTime (cs : List Char) : Option (List Char) := do
  let (_, cs) ← readPart 2 0 23 cs
  let (_, cs) ← readPart 2 0 59 (← afterSign ':' cs)
  let (_, cs) ← readPart 2 0 60 (← afterSign ':' cs)
  match cs with
  | '.' :: rest =>
    let after := rest.dropWhile isDecimal
    return if after.length < rest.length then after else cs
  | _ => return cs

/-- The text behind an offset from universal time. -/
def afterOffset : List Char → Option (List Char)
  | 'Z' :: rest | 'z' :: rest => some rest
  | '+' :: cs | '-' :: cs => do
    let (_, cs) ← readPart 2 0 23 cs
    let (_, cs) ← readPart 2 0 59 (← afterSign ':' cs)
    return cs
  | _ => none

/-- The text behind a moment: a date, a date with a time, or a time. Only a time with a date has an
offset. -/
def afterMoment (cs : List Char) : Option (List Char) :=
  match afterDate cs with
  | none => afterTime cs
  | some rest =>
    match rest with
    | 'T' :: cs | 't' :: cs | ' ' :: cs =>
      match afterTime cs with
      | some cs => some ((afterOffset cs).getD cs)
      | none => some rest
    | _ => some rest

/-! ## All of them -/

/-- The text behind a number or a moment. -/
def afterNumber (cs : List Char) : Option (List Char) :=
  (afterMoment cs).or ((afterDecimal cs).or ((afterSpecial cs).or (afterInteger cs)))

end AppBoundary.Toml
