import AnalyzerSessions.Json.Basic
import AnalyzerSessions.Number.LooseInteger

namespace AnalyzerSessions.Schema

open Number Text

/-!
# Reading typed values

Messages are JSON values whose parts have types.  Reading is lenient about
spelling (`"3"` and `3.0` are integers) and complete about faults: every part
that does not fit gives an issue with its place, in the order of the parts.
-/

/-- What is wrong with a value. -/
inductive Complaint where
  | missing
  | intType
  | intParsing
  | intParsingSize
  | intFromFloat
  | finiteNumber
  | stringType
  | boolType
  | boolParsing
  | enumValue
  | literalValue
  | dictType
  | listType
  | modelType
  deriving Repr, DecidableEq

/-- The name of a complaint in reports. -/
def Complaint.name : Complaint → String
  | .missing => "missing"
  | .intType => "int_type"
  | .intParsing => "int_parsing"
  | .intParsingSize => "int_parsing_size"
  | .intFromFloat => "int_from_float"
  | .finiteNumber => "finite_number"
  | .stringType => "string_type"
  | .boolType => "bool_type"
  | .boolParsing => "bool_parsing"
  | .enumValue => "enum"
  | .literalValue => "literal_error"
  | .dictType => "dict_type"
  | .listType => "list_type"
  | .modelType => "model_type"

/-- One step from a value to a part of it. -/
inductive Step where
  | field (name : String)
  | item (index : Int)
  deriving Repr, DecidableEq

/-- A complaint and the place of the value it is about. -/
structure Issue where
  complaint : Complaint
  place : List Step
  deriving Repr, DecidableEq

/-- The result of reading: a value, or every issue that was found. -/
inductive Checked (α : Type) where
  | accepted (value : α)
  | rejected (issues : List Issue)
  deriving Repr, DecidableEq

namespace Checked

/-- Apply a function to an accepted value. -/
def map {α β : Type} (change : α → β) : Checked α → Checked β
  | .accepted value => .accepted (change value)
  | .rejected issues => .rejected issues

/-- Both parts of a value; the issues of the first part come first. -/
def both {α β : Type} : Checked α → Checked β → Checked (α × β)
  | .accepted left, .accepted right => .accepted (left, right)
  | .accepted _, .rejected issues => .rejected issues
  | .rejected issues, .accepted _ => .rejected issues
  | .rejected left, .rejected right => .rejected (left ++ right)

/-- Reject with one complaint about the value itself. -/
def refuse {α : Type} (complaint : Complaint) : Checked α :=
  .rejected [⟨complaint, []⟩]

/-- The issues of a part, seen from the value around it. -/
def within {α : Type} (step : Step) : Checked α → Checked α
  | .accepted value => .accepted value
  | .rejected issues => .rejected (issues.map fun issue => ⟨issue.complaint, step :: issue.place⟩)

/-- Add issues that were found elsewhere. -/
def withIssues {α : Type} (more : List Issue) : Checked α → Checked α
  | .accepted value => if more.isEmpty then .accepted value else .rejected more
  | .rejected issues => .rejected (issues ++ more)

/-- The accepted value, if there is one. -/
def value? {α : Type} : Checked α → Option α
  | .accepted value => some value
  | .rejected _ => none

/-- The issues found. -/
def issues {α : Type} : Checked α → List Issue
  | .accepted _ => []
  | .rejected issues => issues

instance : Applicative Checked where
  pure := .accepted
  map := map
  seq change value := (both change (value ())).map fun pair => pair.1 pair.2

end Checked

/-- How values of a type are read. -/
abbrev Reader (α : Type) := Json → Checked α

/-- A rejected value, with the name of the type it was read as. -/
structure Rejection where
  model : String
  issues : List Issue
  deriving Repr, DecidableEq

/-- The first line of the report of a rejection. -/
def Rejection.message (rejection : Rejection) : String :=
  let count := rejection.issues.length
  toString count ++ (if count = 1 then " validation error for " else " validation errors for ") ++
    rejection.model

/-- Read a whole value as a named type. -/
def check {α : Type} (model : String) (read : Reader α) (value : Json) : Except Rejection α :=
  match read value with
  | .accepted result => .ok result
  | .rejected issues => .error ⟨model, issues⟩

/-- A string. -/
def string : Reader String
  | .str text => .accepted text
  | _ => .refuse .stringType

/-- Read an integer from a text. -/
def integerOfText (text : String) : Checked Int :=
  match LooseInteger.ofText text with
  | .value integer => .accepted integer
  | .tooLong => .refuse .intParsingSize
  | .malformed => .refuse .intParsing

/-- Whether an integer fits into 64 bits. -/
def fitsWord (value : Int) : Bool :=
  -(Nat.pow 2 63 : Int) ≤ value && value < (Nat.pow 2 63 : Int)

/-- Read an integer from a number with a fraction or an exponent. -/
def integerOfFloat (value : Binary64) : Checked Int :=
  match value with
  | .finite _ _ _ =>
    match value.toInt? with
    | none => .refuse .intFromFloat
    | some integer =>
      if integer.natAbs < Nat.pow 2 63 then .accepted integer else .refuse .intParsingSize
  | _ => .refuse .finiteNumber

/-- An integer, spelled as a number, a truth value or a text. -/
def integer : Reader Int
  | .int value => .accepted value
  | .float value => integerOfFloat value
  | .bool value => .accepted (if value then 1 else 0)
  | .str text => integerOfText text
  | _ => .refuse .intType

/-- The texts that stand for true. -/
def trueTexts : List String := ["1", "on", "t", "true", "y", "yes"]

/-- The texts that stand for false. -/
def falseTexts : List String := ["0", "off", "f", "false", "n", "no"]

/-- The truth value of a number; what does not fit into 64 bits is not taken for a number. -/
def booleanOfInteger (value : Int) : Checked Bool :=
  if value = 0 then .accepted false
  else if value = 1 then .accepted true
  else if fitsWord value then .refuse .boolParsing
  else .refuse .boolType

/-- The truth value of a number with a fraction or an exponent. -/
def booleanOfFloat (value : Binary64) : Checked Bool :=
  match integerOfFloat value with
  | .accepted integer => booleanOfInteger integer
  | .rejected _ => .refuse .boolType

/-- A truth value, spelled as such, as zero or one, or as a text. -/
def boolean : Reader Bool
  | .bool value => .accepted value
  | .int value => booleanOfInteger value
  | .float value => booleanOfFloat value
  | .str text =>
    let lower := String.ofList (text.toList.map lowerAscii)
    if trueTexts.contains lower then .accepted true
    else if falseTexts.contains lower then .accepted false
    else .refuse .boolParsing
  | _ => .refuse .boolType

/-- One of a few strings, spelled exactly. -/
def literal (options : List String) : Reader String
  | .str text => if options.contains text then .accepted text else .refuse .literalValue
  | _ => .refuse .literalValue

/-- Null, or a value of a type. -/
def nullable {α : Type} (read : Reader α) : Reader (Option α)
  | .null => .accepted none
  | value => (read value).map some

/-- Any object, as it is. -/
def anyObject : Reader Json
  | .obj fields => .accepted (.obj fields)
  | _ => .refuse .dictType

/-- The items of an array from an index on. -/
def itemsFrom {α : Type} (read : Reader α) : (index : Nat) → List Json → Checked (List α)
  | _, [] => .accepted []
  | index, item :: rest =>
    (Checked.both ((read item).within (.item index)) (itemsFrom read (index + 1) rest)).map
      fun pair => pair.1 :: pair.2

/-- An array of values of a type. -/
def array {α : Type} (read : Reader α) : Reader (List α)
  | .arr items => itemsFrom read 0 items
  | _ => .refuse .listType

/-- The fields of an object, each read as the same type. -/
def eachField {α : Type} (read : Reader α) : List (String × Json) → Checked (List (String × α))
  | [] => .accepted []
  | (name, value) :: rest =>
    (Checked.both ((read value).within (.field name)) (eachField read rest)).map
      fun pair => (name, pair.1) :: pair.2

/-- An object whose values have the same type. -/
def dictionary {α : Type} (read : Reader α) : Reader (List (String × α))
  | .obj fields => eachField read fields
  | _ => .refuse .dictType

/-- An object with named fields; fields that nobody asks for are ignored. -/
def model {α : Type} (read : List (String × Json) → Checked α) : Reader α
  | .obj fields => read fields
  | _ => .refuse .modelType

/-- A field that has to be there. -/
def required {α : Type} (fields : List (String × Json)) (name : String) (read : Reader α) :
    Checked α :=
  match Json.lookup? name fields with
  | some value => (read value).within (.field name)
  | none => .rejected [⟨.missing, [.field name]⟩]

/-- A field that stands for a default when it is not there. -/
def optional {α : Type} (fields : List (String × Json)) (name : String) (default : α)
    (read : Reader α) : Checked α :=
  match Json.lookup? name fields with
  | some value => (read value).within (.field name)
  | none => .accepted default

/-- The number of given names that an object has as fields. -/
def fieldCount (names : List String) (value : Json) : Nat :=
  (names.filter fun name => (value.get? name).isSome).length

/-- Which absent parts a written value shows. -/
inductive Nulls where
  | kept
  | dropped
  deriving Repr, DecidableEq

/-- The written form of an object with named fields. -/
def record (nulls : Nulls) (fields : List (String × Json)) : Json :=
  match nulls with
  | .kept => .obj fields
  | .dropped => .obj (fields.filter fun field => field.2 != .null)

end AnalyzerSessions.Schema
