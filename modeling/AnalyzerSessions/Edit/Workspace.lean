import AnalyzerSessions.Edit.Basic

namespace AnalyzerSessions

open Schema

/-!
# Workspace edits

A workspace edit holds edits of several documents, either by document or as a
list of changes that may also create, rename and delete files.  An entry of that
list is read as the kind of change of which it sets the most fields; among kinds of
which it sets equally many, the one that takes its values most literally wins.
-/

/-- A document and the version that the server knows. -/
structure VersionedDocument where
  uri : String
  version : Option Int
  deriving Repr, DecidableEq

/-- The edits of one document. -/
structure TextDocumentEdit where
  document : VersionedDocument
  edits : List TextEdit
  deriving Repr, DecidableEq

/-- What is done to a file as a whole. -/
inductive ResourceOperation where
  | create (uri : String) (options : Option Json)
  | rename (oldUri newUri : String) (options : Option Json)
  | delete (uri : String) (options : Option Json)
  deriving Repr, DecidableEq

/-- The kind that an operation carries in messages. -/
def ResourceOperation.kind : ResourceOperation → String
  | .create _ _ => "create"
  | .rename _ _ _ => "rename"
  | .delete _ _ => "delete"

/-- One entry of a list of changes. -/
inductive DocumentChange where
  | edits (edit : TextDocumentEdit)
  | resource (operation : ResourceOperation)
  deriving Repr, DecidableEq

/-- Edits by document in written order, and a list of changes. -/
structure WorkspaceEdit where
  changes : Option (List (String × List TextEdit))
  documentChanges : Option (List DocumentChange)
  deriving Repr, DecidableEq

namespace VersionedDocument

/-- Read a document with its version. -/
def read : Reader VersionedDocument :=
  model fun fields =>
    VersionedDocument.mk <$> required fields "uri" string
      <*> optional fields "version" none (nullable integer)

/-- The written form of a document with its version. -/
def toJson (nulls : Nulls) (document : VersionedDocument) : Json :=
  record nulls [("uri", .str document.uri), ("version", Json.ofOption .int document.version)]

end VersionedDocument

namespace TextDocumentEdit

/-- Read the edits of a document. -/
def read : Reader TextDocumentEdit :=
  model fun fields =>
    TextDocumentEdit.mk <$> required fields "textDocument" VersionedDocument.read
      <*> required fields "edits" (array TextEdit.read)

/-- The written form of the edits of a document. -/
def toJson (nulls : Nulls) (edit : TextDocumentEdit) : Json :=
  .obj [("textDocument", edit.document.toJson nulls),
    ("edits", .arr (edit.edits.map (TextEdit.toJson nulls)))]

/-- The number of fields that the edits of a document set, with those of every part. -/
def fieldCount (value : Json) : Nat :=
  Schema.fieldCount ["textDocument", "edits"] value +
    Schema.fieldCount ["uri", "version"] (value.getD "textDocument") +
    (((value.getD "edits").items?).getD []).foldl
      (fun total edit => total + TextEdit.fieldCount edit) 0

end TextDocumentEdit

namespace ResourceOperation

/-- Read the creation of a file. -/
def readCreate : Reader ResourceOperation :=
  model fun fields =>
    (fun _ uri options => .create uri options)
      <$> optional fields "kind" "create" (literal ["create"])
      <*> required fields "uri" string
      <*> optional fields "options" none (nullable anyObject)

/-- Read the renaming of a file. -/
def readRename : Reader ResourceOperation :=
  model fun fields =>
    (fun _ oldUri newUri options => .rename oldUri newUri options)
      <$> optional fields "kind" "rename" (literal ["rename"])
      <*> required fields "oldUri" string
      <*> required fields "newUri" string
      <*> optional fields "options" none (nullable anyObject)

/-- Read the deletion of a file. -/
def readDelete : Reader ResourceOperation :=
  model fun fields =>
    (fun _ uri options => .delete uri options)
      <$> optional fields "kind" "delete" (literal ["delete"])
      <*> required fields "uri" string
      <*> optional fields "options" none (nullable anyObject)

/-- The written form of an operation. -/
def toJson (nulls : Nulls) : ResourceOperation → Json
  | .create uri options =>
    record nulls [("kind", .str "create"), ("uri", .str uri), ("options", Json.ofOption id options)]
  | .rename oldUri newUri options =>
    record nulls [("kind", .str "rename"), ("oldUri", .str oldUri), ("newUri", .str newUri),
      ("options", Json.ofOption id options)]
  | .delete uri options =>
    record nulls [("kind", .str "delete"), ("uri", .str uri), ("options", Json.ofOption id options)]

/-- The number of fields that a creation or a deletion sets. -/
def fileFieldCount (value : Json) : Nat :=
  Schema.fieldCount ["kind", "uri", "options"] value

/-- The number of fields that a renaming sets. -/
def renameFieldCount (value : Json) : Nat :=
  Schema.fieldCount ["kind", "oldUri", "newUri", "options"] value

end ResourceOperation

namespace DocumentChange

/-- How literally a kind of change takes the values of an entry. -/
inductive Fidelity where
  | converted
  | untyped
  | literal
  deriving Repr, DecidableEq

/-- The rank of a fidelity; a higher one is preferred. -/
def Fidelity.rank : Fidelity → Nat
  | .converted => 0
  | .untyped => 1
  | .literal => 2

/-- How literally the edits of a document are taken: a version that is not written as an integer
is converted.  The edits themselves do not count, since no other kind of change has as many
fields as one edit sets. -/
def editsFidelity (value : Json) : Fidelity :=
  match (value.getD "textDocument").get? "version" with
  | none | some .null | some (.int _) => .literal
  | some _ => .converted

/-- How literally an operation on a file is taken: the values of its options have no type. -/
def operationFidelity (value : Json) : Fidelity :=
  match value.get? "options" with
  | some (.obj (_ :: _)) => .untyped
  | _ => .literal

/-- One kind of change: its name in reports, how it is read, how many fields it sets, and how
literally it takes them. -/
structure Kind where
  name : String
  read : Reader DocumentChange
  fieldCount : Json → Nat
  fidelity : Json → Fidelity

/-- The kinds of changes in the order in which they are tried. -/
def kinds : List Kind := [
  ⟨"TextDocumentEdit", fun value => (TextDocumentEdit.read value).map .edits,
    TextDocumentEdit.fieldCount, editsFidelity⟩,
  ⟨"CreateFile", fun value => (ResourceOperation.readCreate value).map .resource,
    ResourceOperation.fileFieldCount, operationFidelity⟩,
  ⟨"RenameFile", fun value => (ResourceOperation.readRename value).map .resource,
    ResourceOperation.renameFieldCount, operationFidelity⟩,
  ⟨"DeleteFile", fun value => (ResourceOperation.readDelete value).map .resource,
    ResourceOperation.fileFieldCount, operationFidelity⟩]

/-- What an entry is when it is read as one kind of change, and how well that kind suits it. -/
structure Candidate where
  fieldCount : Nat
  fidelity : Fidelity
  change : DocumentChange

/-- Whether a candidate suits better: it sets more fields, or as many and takes them more
literally. -/
def Candidate.betterThan (next current : Candidate) : Bool :=
  current.fieldCount < next.fieldCount ||
    (current.fieldCount == next.fieldCount && current.fidelity.rank < next.fidelity.rank)

/-- The best candidate so far and one more; the earlier one stays unless the next is better. -/
def better (best : Option Candidate) (next : Candidate) : Option Candidate :=
  match best with
  | none => some next
  | some current => if next.betterThan current then some next else some current

/-- Read a change as the kind that suits it best. -/
def read : Reader DocumentChange := fun value =>
  let readings := kinds.map fun kind => (kind, (kind.read value).within (.field kind.name))
  let fitting := readings.filterMap fun reading =>
    reading.2.value?.map fun change =>
      ⟨reading.1.fieldCount value, reading.1.fidelity value, change⟩
  match fitting.foldl better none with
  | some best => .accepted best.change
  | none => .rejected (readings.flatMap fun reading => reading.2.issues)

/-- The written form of a change. -/
def toJson (nulls : Nulls) : DocumentChange → Json
  | .edits edit => edit.toJson nulls
  | .resource operation => operation.toJson nulls

/-- The name of the kind of a change. -/
def kindName : DocumentChange → String
  | .edits _ => "TextDocumentEdit"
  | .resource (.create _ _) => "CreateFile"
  | .resource (.rename _ _ _) => "RenameFile"
  | .resource (.delete _ _) => "DeleteFile"

end DocumentChange

namespace WorkspaceEdit

/-- Read a workspace edit. -/
def read : Reader WorkspaceEdit :=
  model fun fields =>
    WorkspaceEdit.mk
      <$> optional fields "changes" none (nullable (dictionary (array TextEdit.read)))
      <*> optional fields "documentChanges" none (nullable (array DocumentChange.read))

/-- The written form of the edits of one document. -/
def changeToJson (nulls : Nulls) (change : String × List TextEdit) : String × Json :=
  (change.1, .arr (change.2.map (TextEdit.toJson nulls)))

/-- The written form of a workspace edit. -/
def toJson (nulls : Nulls) (edit : WorkspaceEdit) : Json :=
  record nulls [
    ("changes",
      Json.ofOption (fun changes => .obj (changes.map (changeToJson nulls))) edit.changes),
    ("documentChanges",
      Json.ofOption (fun changes => .arr (changes.map (DocumentChange.toJson nulls)))
        edit.documentChanges)]

end WorkspaceEdit

/-- A server's request to apply a workspace edit. -/
structure ApplyRequest where
  label : Option String
  edit : WorkspaceEdit
  deriving Repr, DecidableEq

namespace ApplyRequest

/-- Read a request to apply an edit. -/
def read : Reader ApplyRequest :=
  model fun fields =>
    ApplyRequest.mk <$> optional fields "label" none (nullable string)
      <*> required fields "edit" WorkspaceEdit.read

/-- The written form of a request to apply an edit. -/
def toJson (nulls : Nulls) (request : ApplyRequest) : Json :=
  record nulls [("label", Json.ofOption .str request.label), ("edit", request.edit.toJson nulls)]

end ApplyRequest

end AnalyzerSessions
