import LintBench.Decimal.Double

/-!
# The shortest decimal of a number

The decimal with the fewest digits that is read back as the same number, and of
those with equally few the nearest. At most seventeen digits are needed.
-/

namespace LintBench

/-- A positive decimal: its digits as one number, and the power of ten of the last of them. -/
structure Decimal where
  /-- The digits. -/
  digits : Nat
  /-- The power of ten that the last digit counts. -/
  exponent : Int
deriving DecidableEq, Repr

namespace Decimal

/-- The positive numbers that are read as the number `mantissa * 2 ^ exponent`, all of them in
quarters of `2 ^ exponent`. -/
structure Interval where
  /-- Four times the mantissa. -/
  value : Nat
  /-- The lower end. -/
  low : Nat
  /-- The upper end. -/
  high : Nat
  /-- Whether the ends themselves are read as the number. -/
  closed : Bool
  /-- The power of two that one quarter counts. -/
  exponent : Int

/-- The numbers nearer to a number than to its neighbours. Below a power of two the neighbour is
half as far away; a half goes to the even mantissa. -/
def Interval.ofNumber (mantissa : Nat) (exponent : Int) : Interval :=
  let narrow := mantissa = twoTo 52 ∧ Double.leastExponent < exponent
  { value := 4 * mantissa
    low := 4 * mantissa - (if narrow then 1 else 2)
    high := 4 * mantissa + 2
    closed := mantissa % 2 = 0
    exponent := exponent - 2 }

namespace Interval

variable (interval : Interval)

/-- A decimal in units that make it and the interval whole numbers. -/
def ofDecimal (decimal : Decimal) : Nat :=
  decimal.digits * tenTo decimal.exponent.toNat * twoTo (-interval.exponent).toNat

/-- A number of quarters in the units that make a decimal of the given power whole. -/
def ofQuarters (quarters : Nat) (exponent : Int) : Nat :=
  quarters * twoTo interval.exponent.toNat * tenTo (-exponent).toNat

/-- Whether a decimal lies in the interval. -/
def contains (decimal : Decimal) : Bool :=
  let point := interval.ofDecimal decimal
  let low := interval.ofQuarters interval.low decimal.exponent
  let high := interval.ofQuarters interval.high decimal.exponent
  if interval.closed then low ≤ point && point ≤ high else low < point && point < high

/-- The place of the first digit of the value: the greatest power of ten that is at most it. -/
def leadingPower : Int :=
  let shifted := interval.value * twoTo interval.exponent.toNat * tenTo 400
    / twoTo (-interval.exponent).toNat
  (Nat.toDigits 10 shifted).length - 401

/-- The decimal with its last digit at the given power of ten that is nearest to the value, if it
is in the interval. -/
def nearestAt (exponent : Int) : Option Decimal :=
  let value := interval.ofQuarters interval.value exponent
  let unit := interval.ofDecimal ⟨1, exponent⟩
  let below : Decimal := ⟨value / unit, exponent⟩
  let above : Decimal := ⟨value / unit + 1, exponent⟩
  let twice := 2 * (value % unit)
  let preferBelow := twice < unit || (twice == unit && below.digits % 2 == 0)
  match interval.contains below, interval.contains above with
  | true, true => some (if preferBelow then below else above)
  | true, false => some below
  | false, true => some above
  | false, false => none

/-- The first of the given numbers of digits for which a decimal is in the interval. -/
def shortest : Decimal :=
  let top := interval.leadingPower
  ((List.range 17).findSome? fun (more : Nat) => interval.nearestAt (top - more)).getD ⟨0, 0⟩

end Interval

/-- A decimal without zeros at its end; `fuel` bounds their number. -/
def dropZeros : Nat → Decimal → Decimal
  | 0, decimal => decimal
  | fuel + 1, ⟨digits, exponent⟩ =>
    if digits ≠ 0 ∧ digits % 10 = 0 then dropZeros fuel ⟨digits / 10, exponent + 1⟩
    else ⟨digits, exponent⟩

/-- The shortest decimal of a positive number. -/
def ofNumber (mantissa : Nat) (exponent : Int) : Decimal :=
  dropZeros 20 (Interval.ofNumber mantissa exponent).shortest

/-- How decimals are laid out: which powers of ten of the first digit are written out in full. -/
structure Layout where
  /-- The least such power. -/
  least : Int
  /-- The first power that is too great. -/
  tooGreat : Int
  /-- The fewest digits of an exponent. -/
  exponentDigits : Nat

/-- Numbers from a ten-thousandth up to ten quadrillions are written out, and exponents have two
digits at least. -/
def layout : Layout := ⟨-4, 16, 2⟩

/-- Digits written out with a decimal point after `places` of them. -/
def positional (digits : List Char) (places : Int) : List Char :=
  if places ≤ 0 then '0' :: '.' :: List.replicate (-places).toNat '0' ++ digits
  else
    let whole := digits.take places.toNat
    let padded := whole ++ List.replicate (places.toNat - digits.length) '0'
    let fraction := digits.drop places.toNat
    padded ++ '.' :: (if fraction.isEmpty then ['0'] else fraction)

/-- Digits with an exponent. -/
def scientific (layout : Layout) (digits : List Char) (power : Int) : List Char :=
  let written := Nat.toDigits 10 power.natAbs
  let exponent := List.replicate (layout.exponentDigits - written.length) '0' ++ written
  let fraction := digits.drop 1
  digits.take 1 ++ (if fraction.isEmpty then [] else '.' :: fraction)
    ++ 'e' :: (if power < 0 then '-' else '+') :: exponent

/-- The text of a decimal. -/
def text (layout : Layout) (decimal : Decimal) : List Char :=
  let digits := Nat.toDigits 10 decimal.digits
  let power := decimal.exponent + digits.length - 1
  if layout.least ≤ power ∧ power < layout.tooGreat then positional digits (power + 1)
  else scientific layout digits power

end Decimal

namespace Double

/-- The spellings of what is not a finite number. -/
structure Names where
  /-- An infinite number, without its sign. -/
  infinite : String
  /-- No number at all. -/
  nan : String

/-- The text of a number: a minus sign, and the shortest decimal that is read back as it. -/
def text (names : Names) : Double → String
  | .finite negative mantissa exponent =>
    let digits := if mantissa = 0 then ['0', '.', '0']
      else (Decimal.ofNumber mantissa exponent).text Decimal.layout
    String.ofList (if negative then '-' :: digits else digits)
  | .infinite negative => (if negative then "-" else "") ++ names.infinite
  | .nan => names.nan

end Double

end LintBench
