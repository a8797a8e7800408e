import AnalyzerSessions.Json.Basic
import AnalyzerSessions.Number.IntegerText

namespace AnalyzerSessions.Json

open Number Text

/-!
# Writing JSON

One line with a blank after every comma and colon, or one item a line with an
indentation.  Everything outside ASCII is escaped in UTF-16 units, so the text
has as many bytes as characters.
-/

/-- The escape of one UTF-16 unit. -/
def escapeUnit (unit : Nat) : List Char :=
  ['\\', 'u', hexDigit (unit / 4096 % 16), hexDigit (unit / 256 % 16), hexDigit (unit / 16 % 16),
    hexDigit (unit % 16)]

/-- One character inside a string. -/
def stringChar (char : Char) : List Char :=
  if char = '"' then ['\\', '"']
  else if char = '\\' then ['\\', '\\']
  else if char = '\n' then ['\\', 'n']
  else if char = '\r' then ['\\', 'r']
  else if char = '\t' then ['\\', 't']
  else if char.toNat = 8 then ['\\', 'b']
  else if char.toNat = 12 then ['\\', 'f']
  else if char.toNat < 32 || (126 < char.toNat && char.toNat < 0x10000) then escapeUnit char.toNat
  else if char.toNat < 127 then [char]
  else
    escapeUnit (0xd800 + (char.toNat - 0x10000) / 1024) ++
      escapeUnit (0xdc00 + (char.toNat - 0x10000) % 1024)

/-- A string with its quotes. -/
def stringText (text : String) : List Char :=
  '"' :: text.toList.flatMap stringChar ++ ['"']

/-- An integer in decimal. -/
def intText (value : Int) : List Char :=
  if value < 0 then '-' :: Nat.toDigits 10 value.natAbs else Nat.toDigits 10 value.natAbs

/-- A number with a fraction; infinities and the undefined number have names. -/
def floatText : Binary64 → List Char
  | .finite negative significand exponent => Binary64.finiteText negative significand exponent
  | .infinite false => "Infinity".toList
  | .infinite true => "-Infinity".toList
  | .nan => "NaN".toList

mutual

/-- A value on one line. -/
def compactChars : Json → List Char
  | .null => "null".toList
  | .bool true => "true".toList
  | .bool false => "false".toList
  | .int value => intText value
  | .float value => floatText value
  | .str text => stringText text
  | .arr [] => ['[', ']']
  | .arr (first :: rest) => '[' :: compactChars first ++ compactItems rest
  | .obj [] => ['{', '}']
  | .obj ((name, value) :: rest) =>
    '{' :: stringText name ++ ':' :: ' ' :: compactChars value ++ compactFields rest

/-- The items after the first, and the closing bracket. -/
def compactItems : List Json → List Char
  | [] => [']']
  | item :: rest => ',' :: ' ' :: compactChars item ++ compactItems rest

/-- The fields after the first, and the closing brace. -/
def compactFields : List (String × Json) → List Char
  | [] => ['}']
  | (name, value) :: rest =>
    ',' :: ' ' :: stringText name ++ ':' :: ' ' :: compactChars value ++ compactFields rest

end

/-- A value on one line. -/
def compact (value : Json) : String :=
  String.ofList (compactChars value)

mutual

/-- Whether a value has an integer with more digits than are written. -/
def hasLongInteger : Json → Bool
  | .int value => Nat.pow 10 maxDigits ≤ value.natAbs
  | .arr items => anyLongItem items
  | .obj fields => anyLongField fields
  | _ => false

/-- Whether an item has an integer with more digits than are written. -/
def anyLongItem : List Json → Bool
  | [] => false
  | item :: rest => hasLongInteger item || anyLongItem rest

/-- Whether a field has an integer with more digits than are written. -/
def anyLongField : List (String × Json) → Bool
  | [] => false
  | (_, value) :: rest => hasLongInteger value || anyLongField rest

end

/-- A new line with a given number of two-blank indentations. -/
def newline (depth : Nat) : List Char :=
  '\n' :: List.replicate (2 * depth) ' '

mutual

/-- A value over several lines, inside a given number of brackets. -/
def indentedChars (depth : Nat) : Json → List Char
  | .null => "null".toList
  | .bool true => "true".toList
  | .bool false => "false".toList
  | .int value => intText value
  | .float value => floatText value
  | .str text => stringText text
  | .arr [] => ['[', ']']
  | .arr (first :: rest) =>
    '[' :: newline (depth + 1) ++ indentedChars (depth + 1) first ++ indentedItems depth rest
  | .obj [] => ['{', '}']
  | .obj ((name, value) :: rest) =>
    '{' :: newline (depth + 1) ++ stringText name ++ ':' :: ' ' ::
      indentedChars (depth + 1) value ++ indentedFields depth rest

/-- The items after the first, and the closing bracket on its own line. -/
def indentedItems (depth : Nat) : List Json → List Char
  | [] => newline depth ++ [']']
  | item :: rest =>
    ',' :: newline (depth + 1) ++ indentedChars (depth + 1) item ++ indentedItems depth rest

/-- The fields after the first, and the closing brace on its own line. -/
def indentedFields (depth : Nat) : List (String × Json) → List Char
  | [] => newline depth ++ ['}']
  | (name, value) :: rest =>
    ',' :: newline (depth + 1) ++ stringText name ++ ':' :: ' ' ::
      indentedChars (depth + 1) value ++ indentedFields depth rest

end

/-- A value with two blanks of indentation. -/
def indented (value : Json) : String :=
  String.ofList (indentedChars 0 value)

end AnalyzerSessions.Json
