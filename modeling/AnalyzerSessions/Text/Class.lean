namespace AnalyzerSessions.Text

/-!
# Character classes

Blanks and decimal digits by Unicode 14.0.0, and ASCII letters and digits.
Trimming is defined by a class, since two notions of blank are in use: the
general one, which counts the information separators U+001C to U+001F, and the
Unicode `White_Space` property, which does not.
-/

/-- The Unicode property `White_Space`. -/
def isWhiteSpace (char : Char) : Bool :=
  let code := char.toNat
  (9 ≤ code && code ≤ 13) || code == 32 || code == 0x85 || code == 0xa0 || code == 0x1680 ||
    (0x2000 ≤ code && code ≤ 0x200a) || code == 0x2028 || code == 0x2029 || code == 0x202f ||
    code == 0x205f || code == 0x3000

/-- A blank: white space or one of the information separators U+001C to U+001F. -/
def isBlank (char : Char) : Bool :=
  isWhiteSpace char || (0x1c ≤ char.toNat && char.toNat ≤ 0x1f)

/-- The zero of every run of ten decimal digits (general category `Nd`). -/
def digitZeros : List Nat := [
    48, 1632, 1776, 1984, 2406, 2534, 2662, 2790, 2918, 3046, 3174, 3302, 3430, 3558, 3664, 3792,
    3872, 4160, 4240, 6112, 6160, 6470, 6608, 6784, 6800, 6992, 7088, 7232, 7248, 42528, 43216,
    43264, 43472, 43504, 43600, 44016, 65296, 66720, 68912, 69734, 69872, 69942, 70096, 70384,
    70736, 70864, 71248, 71360, 71472, 71904, 72016, 72784, 73040, 73120, 92768, 92864, 93008,
    120782, 120792, 120802, 120812, 120822, 123200, 123632, 125264, 130032]

/-- The value of a decimal digit of any script. -/
def decimalValue? (char : Char) : Option Nat :=
  digitZeros.findSome? fun first =>
    if first ≤ char.toNat && char.toNat ≤ first + 9 then some (char.toNat - first) else none

/-- A decimal digit of any script. -/
def isDecimal (char : Char) : Bool :=
  (decimalValue? char).isSome

/-- An ASCII decimal digit. -/
def isAsciiDigit (char : Char) : Bool :=
  '0' ≤ char && char ≤ '9'

/-- An ASCII letter. -/
def isAsciiLetter (char : Char) : Bool :=
  ('a' ≤ char && char ≤ 'z') || ('A' ≤ char && char ≤ 'Z')

/-- The value of an ASCII hexadecimal digit. -/
def hexValue? (char : Char) : Option Nat :=
  if '0' ≤ char && char ≤ '9' then some (char.toNat - 48)
  else if 'a' ≤ char && char ≤ 'f' then some (char.toNat - 87)
  else if 'A' ≤ char && char ≤ 'F' then some (char.toNat - 55)
  else none

/-- The digit of a value below sixteen, in lower case. -/
def hexDigit (value : Nat) : Char :=
  if value < 10 then Char.ofNat (48 + value) else Char.ofNat (87 + value)

/-- Lower case of an ASCII letter; every other character is kept. -/
def lowerAscii (char : Char) : Char :=
  if 'A' ≤ char && char ≤ 'Z' then Char.ofNat (char.toNat + 32) else char

/-- Upper case of an ASCII letter; every other character is kept. -/
def upperAscii (char : Char) : Char :=
  if 'a' ≤ char && char ≤ 'z' then Char.ofNat (char.toNat - 32) else char

/-- Drop the characters of a class from both ends. -/
def trimBoth (drops : Char → Bool) (chars : List Char) : List Char :=
  (((chars.dropWhile drops).reverse).dropWhile drops).reverse

/-- Drop the blanks at both ends. -/
def trim (chars : List Char) : List Char :=
  trimBoth isBlank chars

/-- The pieces between the occurrences of a separator; there is always at least one. -/
def splitOn (separator : Char) : List Char → List (List Char)
  | [] => [[]]
  | char :: rest =>
    match splitOn separator rest with
    | [] => [[char]]
    | piece :: pieces =>
      if char = separator then [] :: piece :: pieces else (char :: piece) :: pieces

/-- Split at the first occurrence of a separator, which belongs to neither part. -/
def cutAt? (separator : Char) : List Char → Option (List Char × List Char)
  | [] => none
  | char :: rest =>
    if char = separator then some ([], rest)
    else (cutAt? separator rest).map fun parts => (char :: parts.1, parts.2)

/-- The strings with a separator between neighbours. -/
def joinWith (separator : String) : List String → String
  | [] => ""
  | [last] => last
  | first :: rest => first ++ separator ++ joinWith separator rest

end AnalyzerSessions.Text
