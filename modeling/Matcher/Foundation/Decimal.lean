import Mathlib.Data.Rat.Floor

/-!
# Decimal amounts

An arbitrary-precision decimal is modelled by the rational number it denotes.
Addition, subtraction, multiplication and comparison are exact.  Division keeps
sixteen fractional digits, rounding half away from zero.  The printed form drops
trailing zeros and so depends only on the number.
-/

namespace Matcher.Foundation

abbrev Decimal := ℚ

namespace Decimal

/-! ## Rounding -/

def roundWith (toInteger : ℚ → ℤ) (amount : Decimal) (places : ℕ) : Decimal :=
  (toInteger (amount * 10 ^ places) : ℚ) / 10 ^ places

def halfAwayFromZero (value : ℚ) : ℤ :=
  if value < 0 then -⌊-value + 1 / 2⌋ else ⌊value + 1 / 2⌋

def halfToEven (value : ℚ) : ℤ :=
  let below := ⌊value⌋
  if value - below < 1 / 2 then below
  else if 1 / 2 < value - below then below + 1
  else if below % 2 = 0 then below
  else below + 1

def towardZero (value : ℚ) : ℤ :=
  if value < 0 then ⌈value⌉ else ⌊value⌋

def round : Decimal → ℕ → Decimal := roundWith halfAwayFromZero

def roundBank : Decimal → ℕ → Decimal := roundWith halfToEven

def roundFloor : Decimal → ℕ → Decimal := roundWith Int.floor

def roundCeil : Decimal → ℕ → Decimal := roundWith Int.ceil

def truncate : Decimal → ℕ → Decimal := roundWith towardZero

end Decimal

/-- A configured rounding mode; any other text is kept as it was given. -/
inductive RoundingMode
  | halfUp
  | bankers
  | floor
  | ceil
  | truncate
  | other (value : String)
deriving DecidableEq, Repr

namespace Decimal

def roundIn (mode : RoundingMode) (amount : Decimal) (places : ℕ) : Option Decimal :=
  match mode with
  | .halfUp => some (round amount places)
  | .bankers => some (roundBank amount places)
  | .floor => some (roundFloor amount places)
  | .ceil => some (roundCeil amount places)
  | .truncate => some (truncate amount places)
  | .other _ => none

def divisionPrecision : ℕ := 16

def div (dividend divisor : Decimal) : Decimal :=
  round (dividend / divisor) divisionPrecision

/-! ## Text -/

def fractionDigits (amount : Decimal) : ℕ :=
  ((List.range (amount.den.log2 + 1)).find? fun digits =>
    10 ^ digits % amount.den = 0).getD 0

def padded (width value : ℕ) : List Char :=
  let digits := (Nat.repr value).toList
  List.replicate (width - digits.length) '0' ++ digits

def toText (amount : Decimal) : String :=
  let places := fractionDigits amount
  let scaled := (amount.num.natAbs * 10 ^ places) / amount.den
  let sign := if amount < 0 then "-" else ""
  let whole := Nat.repr (scaled / 10 ^ places)
  if places = 0 then sign ++ whole
  else
    sign ++ whole ++ "." ++ String.ofList (padded places (scaled % 10 ^ places))

example : toText (-1205 / 100) = "-12.05" := by decide +kernel

/-- `StringFixed`: rounded half away from zero, with exactly `places` digits. -/
def toFixed (amount : Decimal) (places : ℕ) : String :=
  let rounded := round amount places
  let scaled := (halfAwayFromZero (amount * 10 ^ places)).natAbs
  let sign := if rounded < 0 then "-" else ""
  let whole := Nat.repr (scaled / 10 ^ places)
  if places = 0 then sign ++ whole
  else
    sign ++ whole ++ "." ++ String.ofList (padded places (scaled % 10 ^ places))

example : toFixed (-1205 / 100) 4 = "-12.0500" := by decide +kernel

/-! ## Parsing -/

def digitValue (character : Char) : Option ℕ :=
  if '0' ≤ character ∧ character ≤ '9' then some (character.toNat - 48)
  else none

def parseDigits : List Char → ℕ → Option ℕ
  | [], value => some value
  | character :: rest, value =>
    match digitValue character with
    | some digit => parseDigits rest (10 * value + digit)
    | none => none

def parseInteger : List Char → Option ℤ
  | [] => none
  | ['+'] => none
  | ['-'] => none
  | '+' :: digits => (parseDigits digits 0).map Int.ofNat
  | '-' :: digits => (parseDigits digits 0).map fun value => -(value : ℤ)
  | digits => (parseDigits digits 0).map Int.ofNat

/-- `strconv.ParseInt` in base ten for a signed integer of `bits` bits. -/
def parseInt (bits : ℕ) (input : String) : Option ℤ :=
  match parseInteger input.toList with
  | some value =>
    if -(2 ^ (bits - 1)) ≤ value ∧ value < 2 ^ (bits - 1) then some value
    else none
  | none => none

def isExponentMark (character : Char) : Bool :=
  character = 'e' || character = 'E'

def scaleByTen (value exponent : ℤ) : Decimal :=
  if 0 ≤ exponent then (value : ℚ) * 10 ^ exponent.toNat
  else (value : ℚ) / 10 ^ (-exponent).toNat

/--
Reads a number in plain or scientific notation: at most one decimal point in
the mantissa, an optional 32-bit exponent after `e` or `E`.
-/
def ofString (input : String) : Option Decimal := do
  let characters := input.toList
  let mantissa := characters.takeWhile fun c => !isExponentMark c
  let exponentPart := characters.dropWhile fun c => !isExponentMark c
  let exponent ←
    match exponentPart with
    | [] => some 0
    | _ :: digits => parseInt 32 (String.ofList digits)
  let whole := mantissa.takeWhile (· ≠ '.')
  let fraction := (mantissa.dropWhile (· ≠ '.')).drop 1
  if '.' ∈ fraction then none
  else do
    let value ← parseInteger (whole ++ fraction)
    let total := exponent - fraction.length
    if -(2 ^ 31) ≤ total ∧ total < 2 ^ 31 then
      some (scaleByTen value total)
    else none

example : ofString "-1.25e1" = some (-25 / 2) := by decide +kernel

end Decimal

end Matcher.Foundation
