import AnalyzerSessions.Json.Basic
import AnalyzerSessions.Number.IntegerText

namespace AnalyzerSessions.Json

open Number Text

/-!
# Reading JSON

Reading one value from a text, with the place and the reason of the first
fault.  The names `NaN`, `Infinity` and `-Infinity` are numbers, a name written
twice in an object has its last value, and a lone surrogate escape is read as
U+FFFD.  Arrays and objects may stand inside each other up to a given depth.
-/

/-- Why a text is no JSON value. -/
inductive Reason where
  | expectingValue
  | expectingName
  | expectingColon
  | expectingComma
  | extraData
  | unterminatedString
  | controlCharacter
  | badEscape
  | badUnicodeEscape
  | byteOrderMark
  deriving Repr, DecidableEq

/-- The words for a reason. -/
def Reason.text : Reason → String
  | .expectingValue => "Expecting value"
  | .expectingName => "Expecting property name enclosed in double quotes"
  | .expectingColon => "Expecting ':' delimiter"
  | .expectingComma => "Expecting ',' delimiter"
  | .extraData => "Extra data"
  | .unterminatedString => "Unterminated string starting at"
  | .controlCharacter => "Invalid control character at"
  | .badEscape => "Invalid \\escape"
  | .badUnicodeEscape => "Invalid \\uXXXX escape"
  | .byteOrderMark => "Unexpected UTF-8 BOM (decode using utf-8-sig)"

/-- The kinds of values that hold other values. -/
inductive Container where
  | array
  | object
  deriving Repr, DecidableEq

/-- The word for a kind of container. -/
def Container.text : Container → String
  | .array => "array"
  | .object => "object"

/-- A fault at a place, an integer with more digits than are read, or a container too deep inside
others. -/
inductive ParseError where
  | malformed (reason : Reason) (line column position : Nat)
  | tooManyDigits (count : Nat)
  | tooDeep (container : Container)
  deriving Repr, DecidableEq

/-- The message of a parse error. -/
def ParseError.message : ParseError → String
  | .malformed reason line column position =>
    reason.text ++ ": line " ++ toString line ++ " column " ++ toString column ++
      " (char " ++ toString position ++ ")"
  | .tooManyDigits count =>
    "Exceeds the limit (4300 digits) for integer string conversion: value has " ++
      toString count ++ " digits; use sys.set_int_max_str_digits() to increase the limit"
  | .tooDeep container =>
    "maximum recursion depth exceeded while decoding a JSON " ++ container.text ++
      " from a unicode string"

/-- A fault, placed by the number of characters from it to the end of the text. -/
inductive Fault where
  | at (reason : Reason) (left : Nat)
  | tooManyDigits (count : Nat)
  | tooDeep (container : Container)
  deriving Repr, DecidableEq

/-- What a reader gives: a value and the rest of the text, or a fault. -/
abbrev Parsed (α : Type) := Except Fault (α × List Char)

/-- A blank between tokens. -/
def isSpace (char : Char) : Bool :=
  char == ' ' || char == '\t' || char == '\n' || char == '\r'

/-- Drop the blanks in front of a token. -/
def skipSpace (chars : List Char) : List Char :=
  chars.dropWhile isSpace

/-- The value of four hexadecimal digits, if more text follows them. -/
def unit? : List Char → Option (Nat × List Char)
  | first :: second :: third :: fourth :: next :: rest =>
    match hexValue? first, hexValue? second, hexValue? third, hexValue? fourth with
    | some a, some b, some c, some d => some (a * 4096 + b * 256 + c * 16 + d, next :: rest)
    | _, _, _, _ => none
  | _ => none

/-- A high surrogate unit. -/
def isHigh (unit : Nat) : Bool := 0xd800 ≤ unit && unit < 0xdc00

/-- A low surrogate unit. -/
def isLow (unit : Nat) : Bool := 0xdc00 ≤ unit && unit < 0xe000

/-- The character of a single unit; a surrogate alone gives U+FFFD. -/
def unitChar (unit : Nat) : Char :=
  if isHigh unit || isLow unit then Char.ofNat 0xfffd else Char.ofNat unit

/-- The character that a letter after a backslash stands for. -/
def simpleEscape? : Char → Option Char
  | '"' => some '"'
  | '\\' => some '\\'
  | '/' => some '/'
  | 'b' => some (Char.ofNat 8)
  | 'f' => some (Char.ofNat 12)
  | 'n' => some '\n'
  | 'r' => some '\r'
  | 't' => some '\t'
  | _ => none

/-- The fault of a string without end, by the text after its opening quote. -/
def unterminated (content : List Char) : Fault :=
  .at .unterminatedString (content.length + 1)

/-- One character of a string after the backslash of an escape, and the rest. -/
def escape (content : List Char) (chars : List Char) : Parsed Char :=
  match chars with
  | [] => .error (unterminated content)
  | 'u' :: rest =>
    match unit? rest with
    | none => .error (.at .badUnicodeEscape chars.length)
    | some (high, remaining) =>
      match remaining with
      | '\\' :: 'u' :: second =>
        if isHigh high && 4 < second.length then
          match unit? second with
          | none => .error (.at .badUnicodeEscape (second.length + 1))
          | some (low, afterPair) =>
            if isLow low then
              .ok (Char.ofNat (0x10000 + (high - 0xd800) * 1024 + (low - 0xdc00)), afterPair)
            else .ok (unitChar high, remaining)
        else .ok (unitChar high, remaining)
      | _ => .ok (unitChar high, remaining)
  | char :: rest =>
    match simpleEscape? char with
    | some escaped => .ok (escaped, rest)
    | none => .error (.at .badEscape (chars.length + 1))

/-- The rest of a string whose content begins with a given text. -/
def stringTail (content : List Char) : (fuel : Nat) → List Char → Parsed (List Char)
  | 0, _ => .error (unterminated content)
  | _ + 1, [] => .error (unterminated content)
  | _ + 1, '"' :: rest => .ok ([], rest)
  | fuel + 1, '\\' :: rest =>
    match escape content rest with
    | .error fault => .error fault
    | .ok (char, remaining) =>
      match stringTail content fuel remaining with
      | .error fault => .error fault
      | .ok (chars, final) => .ok (char :: chars, final)
  | fuel + 1, char :: rest =>
    if char.toNat < 32 then .error (.at .controlCharacter (rest.length + 1))
    else
      match stringTail content fuel rest with
      | .error fault => .error fault
      | .ok (chars, final) => .ok (char :: chars, final)

/-- A string, read from the text after its opening quote; `fuel` bounds its length. -/
def string (fuel : Nat) (chars : List Char) : Parsed String :=
  match stringTail chars fuel chars with
  | .error fault => .error fault
  | .ok (content, rest) => .ok (String.ofList content, rest)

/-- The value of a run of ASCII digits. -/
def decimalValue (digits : List Char) : Nat :=
  digits.foldl (fun value digit => value * 10 + (digit.toNat - 48)) 0

/-- The longest run of ASCII digits, and the rest. -/
def spanDigits (chars : List Char) : List Char × List Char :=
  (chars.takeWhile isAsciiDigit, chars.dropWhile isAsciiDigit)

/-- The fraction after the integer part: the digits after a point, if there is one. -/
def fraction (chars : List Char) : Option (List Char) × List Char :=
  match chars with
  | '.' :: rest =>
    match spanDigits rest with
    | ([], _) => (none, chars)
    | (digits, remaining) => (some digits, remaining)
  | _ => (none, chars)

/-- The exponent after a mantissa, if there is one. -/
def exponent (chars : List Char) : Option Int × List Char :=
  match chars with
  | mark :: rest =>
    if mark = 'e' || mark = 'E' then
      let (negative, afterSign) :=
        match rest with
        | '-' :: remaining => (true, remaining)
        | '+' :: remaining => (false, remaining)
        | _ => (false, rest)
      match spanDigits afterSign with
      | ([], _) => (none, chars)
      | (digits, remaining) =>
        (some (if negative then -(decimalValue digits : Int) else decimalValue digits), remaining)
    else (none, chars)
  | [] => (none, chars)

/-- The integer part of a number: a zero, or digits that do not begin with one. -/
def integerPart? (chars : List Char) : Option (List Char × List Char) :=
  match chars with
  | '0' :: rest => some (['0'], rest)
  | char :: _ => if isAsciiDigit char then some (spanDigits chars) else none
  | [] => none

/-- Whether there is a minus sign, and what stands behind it. -/
def sign : List Char → Bool × List Char
  | '-' :: rest => (true, rest)
  | chars => (false, chars)

/-- A number, or the fault that there is no value. -/
def number (chars : List Char) : Parsed Json :=
  let (negative, unsigned) := sign chars
  match integerPart? unsigned with
  | none => .error (.at .expectingValue chars.length)
  | some (digits, afterInteger) =>
    let (fractionDigits, afterFraction) := fraction afterInteger
    let (power, rest) := exponent afterFraction
    if fractionDigits.isNone && power.isNone then
      if maxDigits < digits.length then .error (.tooManyDigits digits.length)
      else
        let value := decimalValue digits
        .ok (.int (if negative then -(value : Int) else value), rest)
    else
      let decimals := fractionDigits.getD []
      .ok (.float (Binary64.ofDecimal negative (decimalValue (digits ++ decimals))
        (power.getD 0 - decimals.length)), rest)

/-- Drop a word from the front of a text. -/
def dropWord? : List Char → List Char → Option (List Char)
  | [], chars => some chars
  | _ :: _, [] => none
  | expected :: word, char :: rest => if expected = char then dropWord? word rest else none

/-- The named values. -/
def names : List (String × Json) := [
  ("null", .null), ("true", .bool true), ("false", .bool false), ("NaN", .float .nan),
  ("Infinity", .float (.infinite false)), ("-Infinity", .float (.infinite true))]

/-- A named value at the front of a text. -/
def named? (chars : List Char) : Option (Json × List Char) :=
  names.findSome? fun entry => (dropWord? entry.1.toList chars).map fun rest => (entry.2, rest)

mutual

/-- One value at the front of a text; `room` is the number of containers that may still be
entered.  A container takes two steps of `fuel` for one character, and nothing takes more. -/
def value : (room fuel : Nat) → List Char → Parsed Json
  | _, 0, chars => .error (.at .expectingValue chars.length)
  | room, fuel + 1, chars =>
    match chars with
    | '"' :: rest =>
      match string fuel rest with
      | .error fault => .error fault
      | .ok (text, remaining) => .ok (.str text, remaining)
    | '[' :: rest =>
      match room, skipSpace rest with
      | 0, _ => .error (.tooDeep .array)
      | _ + 1, ']' :: remaining => .ok (.arr [], remaining)
      | room + 1, start =>
        match items room fuel start with
        | .error fault => .error fault
        | .ok (values, remaining) => .ok (.arr values, remaining)
    | '{' :: rest =>
      match room, skipSpace rest with
      | 0, _ => .error (.tooDeep .object)
      | _ + 1, '}' :: remaining => .ok (.obj [], remaining)
      | room + 1, start =>
        match fields room fuel [] start with
        | .error fault => .error fault
        | .ok (entries, remaining) => .ok (.obj entries, remaining)
    | _ =>
      match named? chars with
      | some found => .ok found
      | none => number chars

/-- The items of an array up to its closing bracket. -/
def items : (room fuel : Nat) → List Char → Parsed (List Json)
  | _, 0, chars => .error (.at .expectingValue chars.length)
  | room, fuel + 1, chars =>
    match value room fuel chars with
    | .error fault => .error fault
    | .ok (first, remaining) =>
      match skipSpace remaining with
      | ']' :: rest => .ok ([first], rest)
      | ',' :: rest =>
        match items room fuel (skipSpace rest) with
        | .error fault => .error fault
        | .ok (others, final) => .ok (first :: others, final)
      | rest => .error (.at .expectingComma rest.length)

/-- The fields of an object up to its closing brace, added to those read so far. -/
def fields : (room fuel : Nat) → List (String × Json) → List Char →
    Parsed (List (String × Json))
  | _, 0, _, chars => .error (.at .expectingName chars.length)
  | room, fuel + 1, done, chars =>
    match chars with
    | '"' :: rest =>
      match string fuel rest with
      | .error fault => .error fault
      | .ok (name, afterName) =>
        match skipSpace afterName with
        | ':' :: afterColon =>
          match value room fuel (skipSpace afterColon) with
          | .error fault => .error fault
          | .ok (content, remaining) =>
            let extended := insertField name content done
            match skipSpace remaining with
            | '}' :: final => .ok (extended, final)
            | ',' :: final => fields room fuel extended (skipSpace final)
            | final => .error (.at .expectingComma final.length)
        | other => .error (.at .expectingColon other.length)
    | _ => .error (.at .expectingName chars.length)

end

/-- The line and column of a place, both counted from one. -/
def lineColumn (before : List Char) : Nat × Nat :=
  ((before.filter (· == '\n')).length + 1, (before.reverse.takeWhile (· != '\n')).length + 1)

/-- A fault as an error in the whole text. -/
def Fault.toError (whole : List Char) : Fault → ParseError
  | .tooManyDigits count => .tooManyDigits count
  | .tooDeep container => .tooDeep container
  | .at reason left =>
    let position := whole.length - left
    let place := lineColumn (whole.take position)
    .malformed reason place.1 place.2 position

/-- Read a text that is one value with blanks around it, with containers up to a depth. -/
def parseWithin (depth : Nat) (chars : List Char) : Except ParseError Json :=
  if chars.head? = some (Char.ofNat 0xfeff) then
    .error ((Fault.at .byteOrderMark chars.length).toError chars)
  else
    match value depth (2 * chars.length + 2) (skipSpace chars) with
    | .error fault => .error (fault.toError chars)
    | .ok (result, remaining) =>
      match skipSpace remaining with
      | [] => .ok result
      | rest => .error ((Fault.at .extraData rest.length).toError chars)

/-- Read a text that is one value with blanks around it, of any depth. -/
def parse (text : String) : Except ParseError Json :=
  parseWithin text.toList.length text.toList

end AnalyzerSessions.Json
