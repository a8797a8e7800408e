import AnalyzerSessions.Json.Basic

namespace AnalyzerSessions.Toml

open Number

/-!
# Values of configuration files

What a TOML document holds.  Dates and times are kept as the text that shows them,
apart from strings.
-/

/-- A value of a document. -/
inductive Value where
  | text (content : String)
  | integer (value : Int)
  | decimal (value : Binary64)
  | truth (value : Bool)
  | moment (shown : String)
  | array (items : List Value)
  | table (fields : List (String × Value))
  deriving Repr, Inhabited

/-- The fields of a table. -/
abbrev Fields := List (String × Value)

namespace Value

/-- The value of a name in a table. -/
def lookup? (name : String) : Fields → Option Value
  | [] => none
  | (field, value) :: rest => if field = name then some value else lookup? name rest

/-- Give a name a value: in its place if it is there, else at the end. -/
def insertField (name : String) (value : Value) : Fields → Fields
  | [] => [(name, value)]
  | (field, old) :: rest =>
    if field = name then (field, value) :: rest else (field, old) :: insertField name value rest

/-- Whether a value is closed for additions once it is written. -/
def isContainer : Value → Bool
  | .array _ => true
  | .table _ => true
  | _ => false

mutual

/-- A value as JSON; a date or a time is the string that shows it. -/
def toJson : Value → Json
  | .text content => .str content
  | .integer value => .int value
  | .decimal value => .float value
  | .truth value => .bool value
  | .moment shown => .str shown
  | .array items => .arr (itemsToJson items)
  | .table fields => .obj (fieldsToJson fields)

/-- The items of an array as JSON. -/
def itemsToJson : List Value → List Json
  | [] => []
  | item :: rest => toJson item :: itemsToJson rest

/-- The fields of a table as JSON. -/
def fieldsToJson : Fields → List (String × Json)
  | [] => []
  | (name, value) :: rest => (name, toJson value) :: fieldsToJson rest

end

end Value

end AnalyzerSessions.Toml
