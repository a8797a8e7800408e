import AnalyzerSessions.Json.Basic
import AnalyzerSessions.Text.Quoted

namespace AnalyzerSessions.Json

open Number Text

/-!
# Values in logs

The text of a value inside a log line: quoted strings, `None`, `True` and
`False`.  A string that is the whole message part stands without quotes.
-/

mutual

/-- A value as it stands inside another. -/
def logText : Json → String
  | .null => "None"
  | .bool true => "True"
  | .bool false => "False"
  | .int value => toString value
  | .float value => value.text
  | .str text => quoted text
  | .arr [] => "[]"
  | .arr (first :: rest) => "[" ++ logText first ++ logItems rest ++ "]"
  | .obj [] => "\x7b\x7d"
  | .obj ((name, value) :: rest) =>
    "\x7b" ++ quoted name ++ ": " ++ logText value ++ logFields rest ++ "\x7d"

/-- The items after the first. -/
def logItems : List Json → String
  | [] => ""
  | item :: rest => ", " ++ logText item ++ logItems rest

/-- The fields after the first. -/
def logFields : List (String × Json) → String
  | [] => ""
  | (name, value) :: rest => ", " ++ quoted name ++ ": " ++ logText value ++ logFields rest

end

/-- A value as a part of a message: a string stands as it is. -/
def messageText : Json → String
  | .str text => text
  | value => logText value

/-- Arguments as they stand between parentheses; a single one is followed by a comma. -/
def argumentsText : List Json → String
  | [] => "()"
  | [only] => "(" ++ logText only ++ ",)"
  | first :: rest => "(" ++ logText first ++ logItems rest ++ ")"

end AnalyzerSessions.Json
