import AnalyzerSessions.Schema.Basic

namespace AnalyzerSessions

open Schema

/-!
# Text edits

A text edit replaces the text between two positions.  Servers may mark the new
text of an edit as a snippet.
-/

/-- A place in a document. -/
structure Position where
  line : Int
  character : Int
  deriving Repr, DecidableEq, Inhabited

/-- The text from one place to another. -/
structure Range where
  start : Position
  stop : Position
  deriving Repr, DecidableEq, Inhabited

/-- What the new text of an edit is. -/
inductive InsertTextFormat where
  | plainText
  | snippet
  deriving Repr, DecidableEq

/-- The number of a format in messages. -/
def InsertTextFormat.number : InsertTextFormat → Int
  | .plainText => 1
  | .snippet => 2

/-- What an edit may say beyond range and text. -/
structure EditExtension where
  format : Option InsertTextFormat
  annotation : Option String
  deriving Repr, DecidableEq

/-- An edit; one that was received from a server has an extension, with or without content. -/
structure TextEdit where
  range : Range
  newText : String
  extension : Option EditExtension
  deriving Repr, DecidableEq

namespace Position

/-- Read a position. -/
def read : Reader Position :=
  model fun fields =>
    Position.mk <$> required fields "line" integer <*> required fields "character" integer

/-- The written form of a position. -/
def toJson (position : Position) : Json :=
  .obj [("line", .int position.line), ("character", .int position.character)]

end Position

namespace Range

/-- Read a range. -/
def read : Reader Range :=
  model fun fields =>
    Range.mk <$> required fields "start" Position.read <*> required fields "end" Position.read

/-- The written form of a range. -/
def toJson (range : Range) : Json :=
  .obj [("start", range.start.toJson), ("end", range.stop.toJson)]

/-- The number of fields that a range and its positions have. -/
def fieldCount : Nat := 6

end Range

/-- Read a format; whatever spells the integer 1 or 2 is one. -/
def InsertTextFormat.read : Reader InsertTextFormat := fun value =>
  match integer value with
  | .accepted 1 => .accepted .plainText
  | .accepted 2 => .accepted .snippet
  | .accepted number => .refuse (if fitsWord number then .enumValue else .intParsingSize)
  | .rejected _ => .refuse .enumValue

namespace TextEdit

/-- Read an edit without extension. -/
def readBare : Reader TextEdit :=
  model fun fields =>
    (fun range newText => ⟨range, newText, none⟩) <$> required fields "range" Range.read
      <*> required fields "newText" string

/-- Read an edit that may be a snippet. -/
def read : Reader TextEdit :=
  model fun fields =>
    (fun range newText format annotation => ⟨range, newText, some ⟨format, annotation⟩⟩)
      <$> required fields "range" Range.read
      <*> required fields "newText" string
      <*> optional fields "insertTextFormat" none (nullable InsertTextFormat.read)
      <*> optional fields "annotationId" none (nullable string)

/-- The fields that an edit has beyond range and text. -/
def extensionFields (extension : EditExtension) : List (String × Json) :=
  [("insertTextFormat", Json.ofOption (fun format => .int format.number) extension.format),
    ("annotationId", Json.ofOption .str extension.annotation)]

/-- The written form of an edit. -/
def toJson (nulls : Nulls) (edit : TextEdit) : Json :=
  record nulls (("range", edit.range.toJson) :: ("newText", .str edit.newText) ::
    (edit.extension.map extensionFields).getD [])

/-- The number of fields that the written form of an edit sets, with those of its range. -/
def fieldCount (value : Json) : Nat :=
  Schema.fieldCount ["range", "newText", "insertTextFormat", "annotationId"] value +
    Range.fieldCount

/-- Whether the new text of an edit is a snippet. -/
def isSnippet (edit : TextEdit) : Bool :=
  edit.extension.bind EditExtension.format == some .snippet

end TextEdit

end AnalyzerSessions
