namespace AnalyzerSessions.Number

/-!
# Binary64 numbers

Double precision numbers as sign, significand and exponent, without the
machine's floating point.  Reading a decimal rounds to nearest, ties to even;
writing takes the fewest digits that read back as the same number and, of those,
the nearest to it.
-/

/-- A double precision number; a finite one is `significand * 2 ^ exponent`. -/
inductive Binary64 where
  | finite (negative : Bool) (significand : Nat) (exponent : Int)
  | infinite (negative : Bool)
  | nan
  deriving Repr, DecidableEq, Inhabited

namespace Binary64

/-- The number of values of a full significand. -/
def significandLimit : Nat := Nat.pow 2 53

/-- The smallest exponent. -/
def minExponent : Int := -1074

/-- The largest exponent of a finite number. -/
def maxExponent : Int := 971

/-- Multiply by a power of two, given as numerator and denominator. -/
def shiftRatio (numerator denominator : Nat) (power : Int) : Nat × Nat :=
  if 0 ≤ power then (numerator * Nat.pow 2 power.toNat, denominator)
  else (numerator, denominator * Nat.pow 2 (-power).toNat)

/-- Round a quotient to the nearest integer, a tie to the even one. -/
def roundHalfEven (numerator denominator : Nat) : Nat :=
  let quotient := numerator / denominator
  let double := 2 * (numerator % denominator)
  if double > denominator || (double = denominator && quotient % 2 = 1) then quotient + 1
  else quotient

/-- The exponent at which a positive ratio has a full significand, or the smallest one. -/
def exponentOf (numerator denominator : Nat) : Int :=
  let guess := max minExponent ((numerator.log2 : Int) - (denominator.log2 : Int) - 52)
  let scaled := shiftRatio numerator denominator (-guess)
  if scaled.1 / scaled.2 < Nat.pow 2 52 && minExponent < guess then guess - 1 else guess

/-- The double nearest to a ratio of natural numbers. -/
def ofRatio (negative : Bool) (numerator denominator : Nat) : Binary64 :=
  if numerator = 0 then .finite negative 0 minExponent
  else
    let exponent := exponentOf numerator denominator
    let scaled := shiftRatio numerator denominator (-exponent)
    let rounded := roundHalfEven scaled.1 scaled.2
    let significand := if rounded = significandLimit then significandLimit / 2 else rounded
    let exponent := if rounded = significandLimit then exponent + 1 else exponent
    if maxExponent < exponent then .infinite negative else .finite negative significand exponent

/-- The number of decimal digits of a natural number; zero has none. -/
def digitCount (value : Nat) : Nat :=
  if value = 0 then 0 else (Nat.toDigits 10 value).length

/-- The double nearest to `digits * 10 ^ power`. -/
def ofDecimal (negative : Bool) (digits : Nat) (power : Int) : Binary64 :=
  if digits = 0 then .finite negative 0 minExponent
  else if power + digitCount digits > 310 then .infinite negative
  else if power + digitCount digits < -330 then .finite negative 0 minExponent
  else if 0 ≤ power then ofRatio negative (digits * Nat.pow 10 power.toNat) 1
  else ofRatio negative digits (Nat.pow 10 (-power).toNat)

/-- The double nearest to an integer. -/
def ofInt (value : Int) : Binary64 :=
  ofRatio (value < 0) value.natAbs 1

/-- The exact value of a finite double. -/
def toRat? : Binary64 → Option Rat
  | .finite negative significand exponent =>
    let ratio := shiftRatio significand 1 exponent
    let magnitude : Rat := (ratio.1 : Rat) / (ratio.2 : Rat)
    some (if negative then -magnitude else magnitude)
  | _ => none

/-- The exact integer that a double is, if it is one. -/
def toInt? : Binary64 → Option Int
  | .finite negative significand exponent =>
    let ratio := shiftRatio significand 1 exponent
    let magnitude := Int.ofNat (ratio.1 / ratio.2)
    if ratio.1 % ratio.2 = 0 then some (if negative then -magnitude else magnitude) else none
  | _ => none

/-- Zero of either sign. -/
def isZero : Binary64 → Bool
  | .finite _ significand _ => significand == 0
  | _ => false

/-- A significand in decimal, `digits * 10 ^ power`. -/
structure Decimal where
  digits : Nat
  power : Int
  deriving Repr, DecidableEq

/-- The exponent of the leading decimal digit of a positive ratio, found from an estimate. -/
def leadingPower (numerator denominator : Nat) : Int :=
  let estimate : Int := (digitCount numerator : Int) - (digitCount denominator : Int)
  let reached (power : Int) : Bool :=
    if 0 ≤ power then denominator * Nat.pow 10 power.toNat ≤ numerator
    else denominator ≤ numerator * Nat.pow 10 (-power).toNat
  if reached estimate then estimate else estimate - 1

/-- The two decimals with a given number of digits next to a positive ratio, nearer first. -/
def decimalNeighbours (numerator denominator : Nat) (count : Nat) : Decimal × Decimal :=
  let power := leadingPower numerator denominator - (count - 1)
  let top := if 0 ≤ power then numerator else numerator * Nat.pow 10 (-power).toNat
  let bottom := if 0 ≤ power then denominator * Nat.pow 10 power.toNat else denominator
  let low := top / bottom
  let double := 2 * (top % bottom)
  let upFirst := double > bottom || (double = bottom && low % 2 = 1)
  if upFirst then (⟨low + 1, power⟩, ⟨low, power⟩) else (⟨low, power⟩, ⟨low + 1, power⟩)

/-- The first decimal, by growing digit counts, that reads back as the given number. -/
def searchDecimal (value : Binary64) (numerator denominator : Nat) :
    (remaining count : Nat) → Decimal
  | 0, count => (decimalNeighbours numerator denominator count).1
  | remaining + 1, count =>
    let neighbours := decimalNeighbours numerator denominator count
    if ofDecimal false neighbours.1.digits neighbours.1.power = value then neighbours.1
    else if ofDecimal false neighbours.2.digits neighbours.2.power = value then neighbours.2
    else searchDecimal value numerator denominator remaining (count + 1)

/-- The shortest decimal that reads back as a positive finite number. -/
def shortest (significand : Nat) (exponent : Int) : Decimal :=
  let ratio := shiftRatio significand 1 exponent
  searchDecimal (.finite false significand exponent) ratio.1 ratio.2 16 1

/-- Drop the zeros at the end of a decimal. -/
def Decimal.normalize (fuel : Nat) (decimal : Decimal) : Decimal :=
  match fuel with
  | 0 => decimal
  | fuel + 1 =>
    if decimal.digits ≠ 0 && decimal.digits % 10 = 0 then
      Decimal.normalize fuel ⟨decimal.digits / 10, decimal.power + 1⟩
    else decimal

/-- How numbers are written: which leading powers are positional, and the special texts. -/
structure Layout where
  /-- The smallest power of the leading digit that is written without an exponent. -/
  smallest : Int
  /-- The first power of the leading digit that needs an exponent. -/
  large : Int
  /-- The least number of digits in an exponent. -/
  exponentDigits : Nat
  deriving Repr, DecidableEq

/-- Numbers from `1e-04` up to below `1e16` are positional; exponents have two digits or more. -/
def standardLayout : Layout := ⟨-4, 16, 2⟩

/-- Zeros in front of a text up to a given length. -/
def padZeros (length : Nat) (digits : List Char) : List Char :=
  List.replicate (length - digits.length) '0' ++ digits

/-- The text of a positive decimal in a layout, always with a point or an exponent. -/
def Layout.text (layout : Layout) (decimal : Decimal) : List Char :=
  let digits := Nat.toDigits 10 decimal.digits
  let leading := decimal.power + (digits.length : Int) - 1
  if layout.smallest ≤ leading && leading < layout.large then
    if 0 ≤ decimal.power then
      digits ++ List.replicate decimal.power.toNat '0' ++ ['.', '0']
    else
      let places := (-decimal.power).toNat
      let padded := padZeros (places + 1) digits
      padded.take (padded.length - places) ++ '.' :: padded.drop (padded.length - places)
  else
    let mantissa :=
      match digits with
      | [] => []
      | first :: [] => [first]
      | first :: rest => first :: '.' :: rest
    let sign := if leading < 0 then '-' else '+'
    mantissa ++ 'e' :: sign :: padZeros layout.exponentDigits (Nat.toDigits 10 leading.natAbs)

/-- The text of a number that has no special name. -/
def finiteText (negative : Bool) (significand : Nat) (exponent : Int) : List Char :=
  let sign := if negative then ['-'] else []
  if significand = 0 then sign ++ ['0', '.', '0']
  else sign ++ standardLayout.text ((shortest significand exponent).normalize 20)

/-- The text of a number in logs and messages. -/
def text : Binary64 → String
  | .finite negative significand exponent =>
    String.ofList (finiteText negative significand exponent)
  | .infinite negative => if negative then "-inf" else "inf"
  | .nan => "nan"

end Binary64

end AnalyzerSessions.Number
