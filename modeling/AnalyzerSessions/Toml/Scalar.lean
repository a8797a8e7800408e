import AnalyzerSessions.Number.IntegerText
import AnalyzerSessions.Toml.Value

namespace AnalyzerSessions.Toml

open Number Text

/-!
# Scalars of configuration files

Strings, numbers, dates and times of TOML.  Every reader takes the text at a
place and gives a value with the text after it.
-/

/-- Why a text is no TOML document. -/
inductive Fault where
  | malformed
  | tooManyDigits (count : Nat)
  /-- An array or an inline table too deep inside others. -/
  | tooDeep
  deriving Repr, DecidableEq

/-- What a reader gives: a value and the rest of the text. -/
abbrev Parsed (α : Type) := Except Fault (α × List Char)

/-- A blank inside a line. -/
def isSpace (char : Char) : Bool :=
  char == ' ' || char == '\t'

/-- A blank or the end of a line. -/
def isSpaceOrNewline (char : Char) : Bool :=
  isSpace char || char == '\n'

/-- Drop the blanks in front of a text. -/
def skipSpace (chars : List Char) : List Char :=
  chars.dropWhile isSpace

/-- A control character that no comment and no one-line string may hold. -/
def isIllegal (char : Char) : Bool :=
  (char.toNat < 32 || char.toNat == 127) && char != '\t'

/-- A control character that no string over several lines may hold. -/
def isIllegalInLines (char : Char) : Bool :=
  isIllegal char && char != '\n'

/-- A character of a key without quotes. -/
def isBareKeyChar (char : Char) : Bool :=
  isAsciiLetter char || isAsciiDigit char || char == '-' || char == '_'

/-- The value of hexadecimal digits. -/
def hexDigitsValue? (digits : List Char) : Option Nat :=
  digits.foldl (fun value digit =>
    match value, hexValue? digit with
    | some value, some digit => some (value * 16 + digit)
    | _, _ => none) (some 0)

/-- The character with a number of given length in hexadecimal digits. -/
def hexChar (length : Nat) (chars : List Char) : Parsed Char :=
  if (chars.take length).length < length then .error .malformed
  else
    match hexDigitsValue? (chars.take length) with
    | none => .error .malformed
    | some code =>
      if code < 0xd800 || (0xe000 ≤ code && code < 0x110000) then
        .ok (Char.ofNat code, chars.drop length)
      else .error .malformed

/-- The character that a letter after a backslash stands for. -/
def simpleEscape? : Char → Option Char
  | 'b' => some (Char.ofNat 8)
  | 't' => some '\t'
  | 'n' => some '\n'
  | 'f' => some (Char.ofNat 12)
  | 'r' => some '\r'
  | 'e' => some (Char.ofNat 27)
  | '"' => some '"'
  | '\\' => some '\\'
  | _ => none

/-- A backslash at the end of a line joins it with the next text. -/
def joinLines (chars : List Char) : Parsed (List Char) :=
  match skipSpace chars with
  | [] => .ok ([], [])
  | '\n' :: rest => .ok ([], rest.dropWhile isSpaceOrNewline)
  | _ => .error .malformed

/-- What follows a backslash in a string. -/
def escape (overLines : Bool) (chars : List Char) : Parsed (List Char) :=
  match chars with
  | [] => .error .malformed
  | char :: rest =>
    if overLines && isSpaceOrNewline char then
      if char = '\n' then .ok ([], rest.dropWhile isSpaceOrNewline) else joinLines rest
    else if char = 'x' then (hexChar 2 rest).map fun found => ([found.1], found.2)
    else if char = 'u' then (hexChar 4 rest).map fun found => ([found.1], found.2)
    else if char = 'U' then (hexChar 8 rest).map fun found => ([found.1], found.2)
    else
      match simpleEscape? char with
      | some escaped => .ok ([escaped], rest)
      | none => .error .malformed

/-- The rest of a string between double quotes. -/
def basicTail (overLines : Bool) : (fuel : Nat) → List Char → Parsed (List Char)
  | 0, _ => .error .malformed
  | _ + 1, [] => .error .malformed
  | fuel + 1, '"' :: rest =>
    if overLines then
      match rest with
      | '"' :: '"' :: remaining => .ok ([], remaining)
      | _ => (basicTail overLines fuel rest).map fun found => ('"' :: found.1, found.2)
    else .ok ([], rest)
  | fuel + 1, '\\' :: rest =>
    match escape overLines rest with
    | .error fault => .error fault
    | .ok (escaped, remaining) =>
      (basicTail overLines fuel remaining).map fun found => (escaped ++ found.1, found.2)
  | fuel + 1, char :: rest =>
    if (if overLines then isIllegalInLines char else isIllegal char) then .error .malformed
    else (basicTail overLines fuel rest).map fun found => (char :: found.1, found.2)

/-- A one-line string after its opening double quote. -/
def basicString (chars : List Char) : Parsed (List Char) :=
  basicTail false (chars.length + 1) chars

/-- A one-line string after its opening apostrophe. -/
def literalString (chars : List Char) : Parsed (List Char) :=
  match cutAt? '\'' chars with
  | none => .error .malformed
  | some (content, rest) => if content.any isIllegal then .error .malformed else .ok (content, rest)

/-- The text before three apostrophes and the text after them. -/
def cutTriple? : List Char → Option (List Char × List Char)
  | '\'' :: '\'' :: '\'' :: rest => some ([], rest)
  | char :: rest => (cutTriple? rest).map fun found => (char :: found.1, found.2)
  | [] => none

/-- Up to two more delimiters after the closing ones belong to the string. -/
def extraDelimiters (delimiter : Char) (content rest : List Char) : List Char × List Char :=
  match rest with
  | first :: afterFirst =>
    if first = delimiter then
      match afterFirst with
      | second :: afterSecond =>
        if second = delimiter then (content ++ [delimiter, delimiter], afterSecond)
        else (content ++ [delimiter], afterFirst)
      | [] => (content ++ [delimiter], [])
    else (content, rest)
  | [] => (content, [])

/-- The end of a line directly after the opening delimiters is dropped. -/
def dropFirstNewline : List Char → List Char
  | '\n' :: rest => rest
  | chars => chars

/-- A string over several lines after its opening delimiters. -/
def linesString (delimiter : Char) (chars : List Char) : Parsed (List Char) :=
  let start := dropFirstNewline chars
  if delimiter = '\'' then
    match cutTriple? start with
    | none => .error .malformed
    | some (content, rest) =>
      if content.any isIllegalInLines then .error .malformed
      else .ok (extraDelimiters delimiter content rest)
  else
    match basicTail true (start.length + 1) start with
    | .error fault => .error fault
    | .ok (content, rest) => .ok (extraDelimiters delimiter content rest)

/-- The digits of a class with single underscores between them, added to those read so far. -/
def digitsTail (isDigit : Char → Bool) (done : List Char) : List Char → List Char × List Char
  | '_' :: char :: rest =>
    if isDigit char then digitsTail isDigit (char :: done) rest
    else (done.reverse, '_' :: char :: rest)
  | char :: rest =>
    if isDigit char then digitsTail isDigit (char :: done) rest else (done.reverse, char :: rest)
  | [] => (done.reverse, [])

/-- A nonempty run of digits with single underscores between them, without the underscores. -/
def digitRun? (isDigit : Char → Bool) : List Char → Option (List Char × List Char)
  | char :: rest => if isDigit char then some (digitsTail isDigit [char] rest) else none
  | [] => none

/-- The value of digits in a base. -/
def digitsValue (base : Nat) (digits : List Char) : Nat :=
  digits.foldl (fun value digit => value * base + (hexValue? digit).getD 0) 0

/-- A hexadecimal digit. -/
def isHexDigit (char : Char) : Bool :=
  (hexValue? char).isSome

/-- An octal digit. -/
def isOctalDigit (char : Char) : Bool :=
  '0' ≤ char && char ≤ '7'

/-- A binary digit. -/
def isBinaryDigit (char : Char) : Bool :=
  char == '0' || char == '1'

/-- An integer with a base mark. -/
def basedInteger? (chars : List Char) : Option (Value × List Char) :=
  match chars with
  | '0' :: 'x' :: rest =>
    (digitRun? isHexDigit rest).map fun found => (.integer (digitsValue 16 found.1), found.2)
  | '0' :: 'b' :: rest =>
    (digitRun? isBinaryDigit rest).map fun found => (.integer (digitsValue 2 found.1), found.2)
  | '0' :: 'o' :: rest =>
    (digitRun? isOctalDigit rest).map fun found => (.integer (digitsValue 8 found.1), found.2)
  | _ => none

/-- A sign, if there is one: whether it is negative, and the text after it. -/
def cutSign : List Char → Bool × List Char
  | '-' :: rest => (true, rest)
  | '+' :: rest => (false, rest)
  | chars => (false, chars)

/-- The integer part of a decimal number: a zero, or digits that do not begin with one. -/
def integerPart? : List Char → Option (List Char × List Char)
  | '0' :: rest => some (['0'], rest)
  | chars => digitRun? isAsciiDigit chars

/-- The fraction after an integer part, if there is one. -/
def fraction? : List Char → Option (List Char × List Char)
  | '.' :: rest => digitRun? isAsciiDigit rest
  | _ => none

/-- The exponent after a mantissa, if there is one. -/
def exponent? : List Char → Option (Int × List Char)
  | mark :: rest =>
    if mark = 'e' || mark = 'E' then
      let (negative, digits) := cutSign rest
      (digitRun? isAsciiDigit digits).map fun found =>
        let value : Int := digitsValue 10 found.1
        (if negative then -value else value, found.2)
    else none
  | [] => none

/-- A decimal number. -/
def decimal? (chars : List Char) : Option (Parsed Value) :=
  let (negative, unsigned) := cutSign chars
  match integerPart? unsigned with
  | none => none
  | some (digits, afterInteger) =>
    let fractionPart := fraction? afterInteger
    let afterFraction := (fractionPart.map Prod.snd).getD afterInteger
    let exponentPart := exponent? afterFraction
    let rest := (exponentPart.map Prod.snd).getD afterFraction
    if fractionPart.isNone && exponentPart.isNone then
      if maxDigits < digits.length then some (.error (.tooManyDigits digits.length))
      else
        let value : Int := digitsValue 10 digits
        some (.ok (.integer (if negative then -value else value), rest))
    else
      let decimals := (fractionPart.map Prod.fst).getD []
      let power := (exponentPart.map Prod.fst).getD 0
      some (.ok (.decimal (Binary64.ofDecimal negative (digitsValue 10 (digits ++ decimals))
        (power - decimals.length)), rest))

/-- Infinity or the undefined number, with an optional sign. -/
def special? (chars : List Char) : Option (Value × List Char) :=
  let (negative, unsigned) := cutSign chars
  match unsigned with
  | 'i' :: 'n' :: 'f' :: rest => some (.decimal (.infinite negative), rest)
  | 'n' :: 'a' :: 'n' :: rest => some (.decimal .nan, rest)
  | _ => none

/-- A fixed number of ASCII digits with a value in a range. -/
def fixedNumber? (length low high : Nat) (chars : List Char) : Option (Nat × List Char) :=
  let digits := chars.take length
  if digits.length = length && digits.all isAsciiDigit then
    let value := digitsValue 10 digits
    if low ≤ value && value ≤ high then some (value, chars.drop length) else none
  else none

/-- A time of the day, in microseconds for the part below a second. -/
structure ClockTime where
  hour : Nat
  minute : Nat
  second : Nat
  micro : Nat
  deriving Repr, DecidableEq

/-- Drop one expected character. -/
def dropChar? (expected : Char) : List Char → Option (List Char)
  | char :: rest => if char = expected then some rest else none
  | [] => none

/-- The part of a time below a second, in microseconds; digits after the sixth are dropped. -/
def microseconds (chars : List Char) : Nat × List Char :=
  match chars with
  | '.' :: rest =>
    let digits := rest.takeWhile isAsciiDigit
    if digits = [] then (0, chars)
    else
      let kept := digits.take 6
      (digitsValue 10 kept * Nat.pow 10 (6 - kept.length), rest.drop digits.length)
  | _ => (0, chars)

/-- The seconds of a time and the part below a second. -/
def seconds? (chars : List Char) : Option ((Nat × Nat) × List Char) := do
  let (second, afterSecond) ← fixedNumber? 2 0 59 (← dropChar? ':' chars)
  let (micro, rest) := microseconds afterSecond
  return ((second, micro), rest)

/-- A time of the day; seconds may be left out. -/
def clockTime? (chars : List Char) : Option (ClockTime × List Char) := do
  let (hour, afterHour) ← fixedNumber? 2 0 23 chars
  let (minute, afterMinute) ← fixedNumber? 2 0 59 (← dropChar? ':' afterHour)
  let ((second, micro), rest) := (seconds? afterMinute).getD ((0, 0), afterMinute)
  return (⟨hour, minute, second, micro⟩, rest)

/-- A date. -/
structure CalendarDate where
  year : Nat
  month : Nat
  day : Nat
  deriving Repr, DecidableEq

/-- A date, whose day may be too large for its month. -/
def calendarDate? (chars : List Char) : Option (CalendarDate × List Char) := do
  let (year, afterYear) ← fixedNumber? 4 0 9999 chars
  let (month, afterMonth) ← fixedNumber? 2 1 12 (← dropChar? '-' afterYear)
  let (day, rest) ← fixedNumber? 2 1 31 (← dropChar? '-' afterMonth)
  return (⟨year, month, day⟩, rest)

/-- The number of days of a month. -/
def daysOfMonth (year month : Nat) : Nat :=
  if month = 2 then
    if year % 4 = 0 && (year % 100 ≠ 0 || year % 400 = 0) then 29 else 28
  else if month = 4 || month = 6 || month = 9 || month = 11 then 30 else 31

/-- Whether a date exists. -/
def CalendarDate.isValid (date : CalendarDate) : Bool :=
  date.year ≠ 0 && date.day ≤ daysOfMonth date.year date.month

/-- A number with zeros in front up to a given length. -/
def padded (length value : Nat) : String :=
  let digits := Nat.toDigits 10 value
  String.ofList (List.replicate (length - digits.length) '0' ++ digits)

/-- The written form of a date. -/
def CalendarDate.text (date : CalendarDate) : String :=
  padded 4 date.year ++ "-" ++ padded 2 date.month ++ "-" ++ padded 2 date.day

/-- The written form of a time. -/
def ClockTime.text (time : ClockTime) : String :=
  padded 2 time.hour ++ ":" ++ padded 2 time.minute ++ ":" ++ padded 2 time.second ++
    (if time.micro = 0 then "" else "." ++ padded 6 time.micro)

/-- The written form of an offset from universal time, empty when there is none. -/
def zone (chars : List Char) : String × List Char :=
  match chars with
  | [] => ("", [])
  | mark :: rest =>
    if mark = 'Z' || mark = 'z' then ("+00:00", rest)
    else if mark = '+' || mark = '-' then
      let found : Option (Nat × Nat × List Char) := do
        let (hour, afterHour) ← fixedNumber? 2 0 23 rest
        let (minute, remaining) ← fixedNumber? 2 0 59 (← dropChar? ':' afterHour)
        return (hour, minute, remaining)
      match found with
      | none => ("", chars)
      | some (hour, minute, remaining) =>
        let sign := if mark = '-' && (hour ≠ 0 || minute ≠ 0) then "-" else "+"
        (sign ++ padded 2 hour ++ ":" ++ padded 2 minute, remaining)
    else ("", chars)

/-- The time after a date, behind a `T` or a blank. -/
def timeAfterDate? : List Char → Option (ClockTime × List Char)
  | mark :: rest => if mark = 'T' || mark = 't' || mark = ' ' then clockTime? rest else none
  | [] => none

/-- A date, alone or with a time and an offset. -/
def dateTime? (chars : List Char) : Option (Parsed Value) :=
  match calendarDate? chars with
  | none => none
  | some (date, afterDate) =>
    if !date.isValid then some (.error .malformed)
    else
      match timeAfterDate? afterDate with
      | none => some (.ok (.moment date.text, afterDate))
      | some (time, afterTime) =>
        let (zoneText, rest) := zone afterTime
        some (.ok (.moment (date.text ++ " " ++ time.text ++ zoneText), rest))

/-- A date, a time or a number. -/
def unquoted (chars : List Char) : Parsed Value :=
  match dateTime? chars with
  | some result => result
  | none =>
    match clockTime? chars with
    | some (time, rest) => .ok (.moment time.text, rest)
    | none =>
      match basedInteger? chars with
      | some found => .ok found
      | none =>
        match decimal? chars with
        | some result => result
        | none =>
          match special? chars with
          | some found => .ok found
          | none => .error .malformed

end AnalyzerSessions.Toml
