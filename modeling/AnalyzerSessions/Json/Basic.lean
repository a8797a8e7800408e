import AnalyzerSessions.Number.Binary64

namespace AnalyzerSessions

open Number

/-!
# JSON values

Values of the wire and of the configuration.  Integers are unbounded and
distinct from numbers with a fraction or an exponent; the fields of an object
keep the order in which they were first written.
-/

/-- A JSON value. -/
inductive Json where
  | null
  | bool (value : Bool)
  | int (value : Int)
  | float (value : Binary64)
  | str (value : String)
  | arr (items : List Json)
  | obj (fields : List (String × Json))
  deriving Repr, Inhabited

namespace Json

mutual

/-- Equality of values, with fields in the same order. -/
def decEq : (left right : Json) → Decidable (left = right)
  | .null, .null => isTrue rfl
  | .bool left, .bool right =>
    if same : left = right then isTrue (by rw [same]) else isFalse (by simpa using same)
  | .int left, .int right =>
    if same : left = right then isTrue (by rw [same]) else isFalse (by simpa using same)
  | .float left, .float right =>
    if same : left = right then isTrue (by rw [same]) else isFalse (by simpa using same)
  | .str left, .str right =>
    if same : left = right then isTrue (by rw [same]) else isFalse (by simpa using same)
  | .arr left, .arr right =>
    match decEqItems left right with
    | isTrue same => isTrue (by rw [same])
    | isFalse different => isFalse (by simpa using different)
  | .obj left, .obj right =>
    match decEqFields left right with
    | isTrue same => isTrue (by rw [same])
    | isFalse different => isFalse (by simpa using different)
  | .null, .bool _ | .null, .int _ | .null, .float _ | .null, .str _ | .null, .arr _
  | .null, .obj _ | .bool _, .null | .bool _, .int _ | .bool _, .float _ | .bool _, .str _
  | .bool _, .arr _ | .bool _, .obj _ | .int _, .null | .int _, .bool _ | .int _, .float _
  | .int _, .str _ | .int _, .arr _ | .int _, .obj _ | .float _, .null | .float _, .bool _
  | .float _, .int _ | .float _, .str _ | .float _, .arr _ | .float _, .obj _ | .str _, .null
  | .str _, .bool _ | .str _, .int _ | .str _, .float _ | .str _, .arr _ | .str _, .obj _
  | .arr _, .null | .arr _, .bool _ | .arr _, .int _ | .arr _, .float _ | .arr _, .str _
  | .arr _, .obj _ | .obj _, .null | .obj _, .bool _ | .obj _, .int _ | .obj _, .float _
  | .obj _, .str _ | .obj _, .arr _ => isFalse (by simp)

/-- Equality of the items of two arrays. -/
def decEqItems : (left right : List Json) → Decidable (left = right)
  | [], [] => isTrue rfl
  | [], _ :: _ => isFalse (by simp)
  | _ :: _, [] => isFalse (by simp)
  | left :: lefts, right :: rights =>
    match decEq left right with
    | isFalse different => isFalse (by simp [different])
    | isTrue same =>
      match decEqItems lefts rights with
      | isFalse different => isFalse (by simp [different])
      | isTrue sameRest => isTrue (by rw [same, sameRest])

/-- Equality of the fields of two objects. -/
def decEqFields : (left right : List (String × Json)) → Decidable (left = right)
  | [], [] => isTrue rfl
  | [], _ :: _ => isFalse (by simp)
  | _ :: _, [] => isFalse (by simp)
  | (leftName, left) :: lefts, (rightName, right) :: rights =>
    if sameName : leftName = rightName then
      match decEq left right with
      | isFalse different => isFalse (by simp [different])
      | isTrue same =>
        match decEqFields lefts rights with
        | isFalse different => isFalse (by simp [different])
        | isTrue sameRest => isTrue (by rw [sameName, same, sameRest])
    else isFalse (by simp [sameName])

end

instance : DecidableEq Json := decEq

/-- The value of a name in a list of fields. -/
def lookup? (name : String) : List (String × Json) → Option Json
  | [] => none
  | (field, value) :: rest => if field = name then some value else lookup? name rest

/-- Give a name a value: in its place if it is there, else at the end. -/
def insertField (name : String) (value : Json) : List (String × Json) → List (String × Json)
  | [] => [(name, value)]
  | (field, old) :: rest =>
    if field = name then (field, value) :: rest else (field, old) :: insertField name value rest

/-- The fields of an object written one after the other; a name written again keeps its place. -/
def ofFields (fields : List (String × Json)) : Json :=
  .obj (fields.foldl (fun done field => insertField field.1 field.2 done) [])

/-- The field of an object; other values have none. -/
def get? (name : String) : Json → Option Json
  | .obj fields => lookup? name fields
  | _ => none

/-- The field of an object, or null. -/
def getD (name : String) (value : Json) : Json :=
  (value.get? name).getD .null

/-- The text of a string. -/
def str? : Json → Option String
  | .str text => some text
  | _ => none

/-- The fields of an object. -/
def fields? : Json → Option (List (String × Json))
  | .obj fields => some fields
  | _ => none

/-- The items of an array. -/
def items? : Json → Option (List Json)
  | .arr items => some items
  | _ => none

/-- The integer of an integer value. -/
def int? : Json → Option Int
  | .int value => some value
  | _ => none

/-- The truth value of a Boolean. -/
def bool? : Json → Option Bool
  | .bool value => some value
  | _ => none

/-- The numeric value of an integer, a float or a Boolean. -/
def rat? : Json → Option Rat
  | .int value => some value
  | .float value => value.toRat?
  | .bool value => some (if value then 1 else 0)
  | _ => none

/-- The double nearest to an integer, a float or a Boolean. -/
def double? : Json → Option Binary64
  | .int value => some (.ofInt value)
  | .float value => some value
  | .bool value => some (.ofInt (if value then 1 else 0))
  | _ => none

/-- Whether a value counts as present: null, false, zero and everything empty do not. -/
def isTruthy : Json → Bool
  | .null => false
  | .bool value => value
  | .int value => value != 0
  | .float value => !value.isZero
  | .str text => !text.isEmpty
  | .arr items => !items.isEmpty
  | .obj fields => !fields.isEmpty

mutual

/-- How deeply arrays and objects are nested in a value. -/
def depth : Json → Nat
  | .arr items => depthOfItems items + 1
  | .obj fields => depthOfFields fields + 1
  | _ => 0

/-- The depth of the deepest item. -/
def depthOfItems : List Json → Nat
  | [] => 0
  | item :: rest => max (depth item) (depthOfItems rest)

/-- The depth of the deepest field. -/
def depthOfFields : List (String × Json) → Nat
  | [] => 0
  | (_, value) :: rest => max (depth value) (depthOfFields rest)

end

/-- A natural number as a value. -/
def nat (value : Nat) : Json :=
  .int value

/-- An optional value, null when absent. -/
def ofOption {α : Type} (toJson : α → Json) : Option α → Json
  | none => .null
  | some value => toJson value

end Json

end AnalyzerSessions
