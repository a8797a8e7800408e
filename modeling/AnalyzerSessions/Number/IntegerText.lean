import AnalyzerSessions.Text.Class

namespace AnalyzerSessions.Number

/-!
# Integers in text

Reading an integer: blanks around it, a sign, and digits of any script with
single underscores between them.
-/

/-- The value of digits with single underscores between them, added to a value read so far. -/
def digitsFrom? (value : Nat) : List Char → Option Nat
  | [] => some value
  | '_' :: char :: rest =>
    match Text.decimalValue? char with
    | some digit => digitsFrom? (value * 10 + digit) rest
    | none => none
  | char :: rest =>
    match Text.decimalValue? char with
    | some digit => digitsFrom? (value * 10 + digit) rest
    | none => none

/-- The value of a nonempty run of digits with single underscores between them. -/
def digits? : List Char → Option Nat
  | [] => none
  | char :: rest =>
    match Text.decimalValue? char with
    | some digit => digitsFrom? digit rest
    | none => none

/-- The largest number of digits that is read. -/
def maxDigits : Nat := 4300

/-- Read an integer; texts with too many digits are refused. -/
def integer? (chars : List Char) : Option Int :=
  let trimmed := Text.trim chars
  if (trimmed.filter Text.isDecimal).length > maxDigits then none
  else
    match trimmed with
    | '-' :: rest => (digits? rest).map fun value => -(value : Int)
    | '+' :: rest => (digits? rest).map Int.ofNat
    | rest => (digits? rest).map Int.ofNat

end AnalyzerSessions.Number
