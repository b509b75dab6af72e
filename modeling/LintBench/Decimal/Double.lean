/-!
# Numbers of double precision

A finite number is a sign, a whole mantissa below 2^53 and a power of two, so a
decimal is rounded and a number is cut to a whole one in exact arithmetic. Main
rule: a decimal becomes the nearest number, and of two equally near the one with
the even mantissa.
-/

namespace LintBench

/-- A power of two. -/
def twoTo (power : Nat) : Nat := Nat.pow 2 power

/-- A power of ten. -/
def tenTo (power : Nat) : Nat := Nat.pow 10 power

/-- A number of double precision. -/
inductive Double where
  /-- The number `mantissa * 2 ^ exponent`, or its opposite; zero has a sign too. -/
  | finite (negative : Bool) (mantissa : Nat) (exponent : Int)
  /-- An infinite number. -/
  | infinite (negative : Bool)
  /-- No number at all. -/
  | nan
deriving DecidableEq, Repr, Inhabited

namespace Double

/-- The least power of two that a finite number may have. -/
def leastExponent : Int := -1074

/-- The greatest power of two that a finite number may have. -/
def greatestExponent : Int := 971

/-- Zero, with a sign. -/
def zero (negative : Bool) : Double := .finite negative 0 leastExponent

/-- `n * 2 ^ e` over `d * 2 ^ f` as a fraction of whole numbers. -/
def scaled (n : Nat) (exponent : Int) : Nat := n * twoTo exponent.toNat

/-- The greatest power of two that is at most a positive fraction. -/
def floorLog2 (numerator denominator : Nat) : Int :=
  let guess : Int := (numerator.log2 : Int) - denominator.log2
  if scaled denominator guess ≤ scaled numerator (-guess) then guess else guess - 1

/-- Divide and round to the nearest whole number, a half to the even neighbour. -/
def roundQuotient (numerator denominator : Nat) : Nat :=
  let quotient := numerator / denominator
  let twice := 2 * (numerator % denominator)
  if twice < denominator then quotient
  else if denominator < twice then quotient + 1
  else quotient + quotient % 2

/-- The number nearest to a fraction. -/
def nearest (negative : Bool) (numerator denominator : Nat) : Double :=
  if numerator = 0 then zero negative
  else
    let exponent := max leastExponent (floorLog2 numerator denominator - 52)
    let mantissa := roundQuotient (scaled numerator (-exponent)) (scaled denominator exponent)
    let (mantissa, exponent) :=
      if mantissa = twoTo 53 then (twoTo 52, exponent + 1) else (mantissa, exponent)
    if greatestExponent < exponent then .infinite negative
    else .finite negative mantissa exponent

/-- The number nearest to a decimal, given by its digits as one number and the power of ten of the
last of them. Powers far outside the range decide the answer without being computed. -/
def ofDecimal (negative : Bool) (digits : Nat) (exponent : Int) : Double :=
  let magnitude := (Nat.toDigits 10 digits).length + exponent
  if digits = 0 ∨ magnitude < -400 then zero negative
  else if 400 < magnitude then .infinite negative
  else nearest negative (digits * tenTo exponent.toNat) (tenTo (-exponent).toNat)

/-- The number that 64 bits stand for. -/
def ofBits64 (bits : Nat) : Double :=
  let negative := twoTo 63 ≤ bits
  let fraction := bits % twoTo 52
  match bits / twoTo 52 % twoTo 11 with
  | 0 => .finite negative fraction leastExponent
  | 2047 => if fraction = 0 then .infinite negative else .nan
  | power => .finite negative (twoTo 52 + fraction) (power - 1075)

/-- The number that 32 bits stand for. -/
def ofBits32 (bits : Nat) : Double :=
  let negative := twoTo 31 ≤ bits
  let fraction := bits % twoTo 23
  match bits / twoTo 23 % twoTo 8 with
  | 0 => nearest negative fraction (twoTo 149)
  | 255 => if fraction = 0 then .infinite negative else .nan
  | power =>
    let mantissa := twoTo 23 + fraction
    nearest negative (mantissa * twoTo (power - 150)) (twoTo (150 - power))

/-- Whether the number is zero, of either sign. -/
def isZero : Double → Bool
  | .finite _ 0 _ => true
  | _ => false

/-- The whole part of a finite number. -/
def truncate? : Double → Option Int
  | .finite negative mantissa exponent =>
    let magnitude := scaled mantissa exponent / twoTo (-exponent).toNat
    some (if negative then -(magnitude : Int) else magnitude)
  | _ => none

end Double

end LintBench
