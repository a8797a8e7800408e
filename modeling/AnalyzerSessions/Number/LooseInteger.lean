import AnalyzerSessions.Number.IntegerText

namespace AnalyzerSessions.Number

/-!
# Loosely spelled integers

An integer in a message may be a text.  A plain integer is read as it stands.  Any other
text is cleaned in steps: a sign is set aside, leading zeros go, a fraction of zeros goes,
single underscores go.  What is left, with a minus in front if there was one, has to be a
plain integer without leading zeros.  Only a text that was not cleaned is called too long.
-/

/-- What a text spells. -/
inductive LooseInteger where
  | value (integer : Int)
  | tooLong
  | malformed
  deriving Repr, DecidableEq

namespace LooseInteger

/-- A digit other than zero, or a minus. -/
def startsNumber (char : Char) : Bool :=
  ('1' ≤ char && char ≤ '9') || char == '-'

/-- What follows a run of zeros and underscores that ends in a character; a point keeps that
character in front, and without anything behind the run it is what is left. -/
def afterZeros? (last : Char) : List Char → Option (List Char)
  | [] => some [last]
  | char :: rest =>
    if char = '0' || char = '_' then afterZeros? char rest
    else if char = '.' then some (last :: char :: rest)
    else if startsNumber char then some (char :: rest)
    else none

/-- A number without its leading zeros, if it starts like one. -/
def withoutLeadingZeros? : List Char → Option (List Char)
  | [] => none
  | char :: rest =>
    if char = '0' then afterZeros? char rest
    else if startsNumber char then some (char :: rest)
    else none

/-- Drop a fraction that has digits, all of them zero. -/
def withoutZeroFraction (chars : List Char) : List Char :=
  match Text.cutAt? '.' chars with
  | some (whole, decimals) =>
    if !decimals.isEmpty && decimals.all (· == '0') then whole else chars
  | none => chars

/-- Whether two underscores stand side by side. -/
def hasDoubleUnderscore : List Char → Bool
  | '_' :: '_' :: _ => true
  | _ :: rest => hasDoubleUnderscore rest
  | [] => false

/-- Drop underscores that stand singly between other characters. -/
def withoutUnderscores? (chars : List Char) : Option (List Char) :=
  if chars.head? == some '_' || chars.getLast? == some '_' || hasDoubleUnderscore chars then none
  else some (chars.filter (· != '_'))

/-- The value of a nonempty run of digits without leading zeros; of a longer text that starts
with too many digits it is known only that it is too long. -/
def plainNatural : List Char → LooseInteger
  | ['0'] => .value 0
  | chars =>
    if !(chars.head?.any fun first => '1' ≤ first && first ≤ '9') then .malformed
    else if maxDigits < (chars.takeWhile Text.isAsciiDigit).length then .tooLong
    else
      match (chars.all Text.isAsciiDigit, digits? chars) with
      | (true, some number) => .value number
      | _ => .malformed

/-- The value of digits without leading zeros behind an optional minus. -/
def plain : List Char → LooseInteger
  | '-' :: rest =>
    match plainNatural rest with
    | .value integer => .value (-integer)
    | other => other
  | chars => plainNatural chars

/-- Clean a number behind its sign and read it. -/
def ofUnsigned (sign : List Char) (chars : List Char) : LooseInteger :=
  match (withoutLeadingZeros? chars).bind fun rest =>
      withoutUnderscores? (withoutZeroFraction rest) with
  | none => .malformed
  | some cleaned =>
    match plain (sign ++ cleaned) with
    | .tooLong => .malformed
    | result => result

/-- Clean a text and read it; white space around it does not count. -/
def cleaned (chars : List Char) : LooseInteger :=
  match Text.trimBoth Text.isWhiteSpace chars with
  | '-' :: rest => ofUnsigned ['-'] rest
  | '+' :: '-' :: _ => .malformed
  | '+' :: rest => ofUnsigned [] rest
  | trimmed => ofUnsigned [] trimmed

/-- Read an integer. -/
def ofText (text : String) : LooseInteger :=
  match plain text.toList with
  | .malformed => cleaned text.toList
  | result => result

end LooseInteger

end AnalyzerSessions.Number
