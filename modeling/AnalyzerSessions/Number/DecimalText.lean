import AnalyzerSessions.Number.Binary64
import AnalyzerSessions.Text.Class

namespace AnalyzerSessions.Number

/-!
# Decimal numbers in text

Reading a number that may have a fraction and an exponent: blanks around it, a
sign, digits of any script with single underscores between them, or the name of
infinity or of the undefined number.
-/

/-- The digits after a digit, where a single underscore may stand before each. -/
def moreDigits : List Char → List Nat × List Char
  | [] => ([], [])
  | '_' :: char :: rest =>
    match Text.decimalValue? char with
    | some digit =>
      let (digits, after) := moreDigits rest
      (digit :: digits, after)
    | none => ([], '_' :: char :: rest)
  | char :: rest =>
    match Text.decimalValue? char with
    | some digit =>
      let (digits, after) := moreDigits rest
      (digit :: digits, after)
    | none => ([], char :: rest)

/-- A run of digits, which may be empty. -/
def digitRun : List Char → List Nat × List Char
  | [] => ([], [])
  | char :: rest =>
    match Text.decimalValue? char with
    | some digit =>
      let (digits, after) := moreDigits rest
      (digit :: digits, after)
    | none => ([], char :: rest)

/-- The value of digits. -/
def digitsValue (digits : List Nat) : Nat :=
  digits.foldl (fun value digit => value * 10 + digit) 0

/-- A sign, if there is one, and what follows: whether it is a minus. -/
def cutSign : List Char → Bool × List Char
  | '-' :: rest => (true, rest)
  | '+' :: rest => (false, rest)
  | chars => (false, chars)

/-- The digits after a decimal point, if there is one. -/
def decimals : List Char → List Nat × List Char
  | '.' :: rest => digitRun rest
  | chars => ([], chars)

/-- The exponent at the end of a number; there may be none. -/
def exponentEnd? : List Char → Option Int
  | [] => some 0
  | char :: rest =>
    if char = 'e' ∨ char = 'E' then
      let (negative, unsigned) := cutSign rest
      match digitRun unsigned with
      | (digit :: digits, []) =>
        let value : Int := digitsValue (digit :: digits)
        some (if negative then -value else value)
      | _ => none
    else none

/-- A number without its sign. -/
def unsigned? (negative : Bool) (chars : List Char) : Option Binary64 :=
  let (whole, afterWhole) := digitRun chars
  let (fraction, afterFraction) := decimals afterWhole
  if whole.isEmpty && fraction.isEmpty then none
  else
    (exponentEnd? afterFraction).map fun exponent =>
      .ofDecimal negative (digitsValue (whole ++ fraction)) (exponent - fraction.length)

/-- A number that has a name. -/
def named? (negative : Bool) (name : String) : Option Binary64 :=
  if name = "inf" ∨ name = "infinity" then some (.infinite negative)
  else if name = "nan" then some .nan
  else none

/-- Read a number. -/
def decimal? (chars : List Char) : Option Binary64 :=
  let (negative, rest) := cutSign (Text.trim chars)
  match named? negative (String.ofList (rest.map Text.lowerAscii)) with
  | some value => some value
  | none => unsigned? negative rest

end AnalyzerSessions.Number
