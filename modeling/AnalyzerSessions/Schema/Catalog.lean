import AnalyzerSessions.Edit.Workspace
import AnalyzerSessions.Root.Metadata
import AnalyzerSessions.Server.Handshake
import AnalyzerSessions.Server.Status

namespace AnalyzerSessions.Schema

/-!
# Model catalog

The models by name.  Each reads a value and gives its written form, in which every
declared field stands, with or without those that are null.
-/

/-- Read a value and give its written form. -/
def normalizing {α : Type} (read : Reader α) (toJson : α → Json) : Reader Json := fun value =>
  (read value).map toJson

/-- Read an object that names a document. -/
def documentUri : Reader String :=
  model fun fields => required fields "uri" string

/-- The models by name. -/
def catalog (nulls : Nulls) : List (String × Reader Json) := [
  ("Position", normalizing Position.read Position.toJson),
  ("Range", normalizing Range.read Range.toJson),
  ("TextEdit", normalizing TextEdit.readBare (TextEdit.toJson nulls)),
  ("SnippetTextEdit", normalizing TextEdit.read (TextEdit.toJson nulls)),
  ("TextDocumentIdentifier", normalizing documentUri fun uri => .obj [("uri", .str uri)]),
  ("OptionalVersionedTextDocumentIdentifier",
    normalizing VersionedDocument.read (VersionedDocument.toJson nulls)),
  ("TextDocumentEdit", normalizing TextDocumentEdit.read (TextDocumentEdit.toJson nulls)),
  ("CreateFile", normalizing ResourceOperation.readCreate (ResourceOperation.toJson nulls)),
  ("RenameFile", normalizing ResourceOperation.readRename (ResourceOperation.toJson nulls)),
  ("DeleteFile", normalizing ResourceOperation.readDelete (ResourceOperation.toJson nulls)),
  ("WorkspaceEdit", normalizing WorkspaceEdit.read (WorkspaceEdit.toJson nulls)),
  ("ApplyWorkspaceEditParams", normalizing ApplyRequest.read (ApplyRequest.toJson nulls)),
  ("ServerStatus", normalizing ServerStatus.read (ServerStatus.toJson nulls)),
  ("ServerCapabilities", normalizing (model .accepted) (record nulls)),
  ("ServerInfo", normalizing ServerInfo.read (ServerInfo.toJson nulls)),
  ("InitializeResult", normalizing InitializeResult.read (InitializeResult.toJson nulls)),
  ("WorkspaceFolder", normalizing WorkspaceFolder.read WorkspaceFolder.toJson),
  ("InitializeParams", normalizing InitializeParams.read (InitializeParams.toJson nulls)),
  ("CargoMetadata", normalizing CargoMetadata.read (CargoMetadata.toJson nulls))]

/-- Read a value as a model with a name, and give its written form; the name has to be known. -/
def normalize? (nulls : Nulls) (name : String) (value : Json) : Option (Except Rejection Json) :=
  ((catalog nulls).find? fun entry => entry.1 == name).map fun entry =>
    check name entry.2 value

end AnalyzerSessions.Schema
