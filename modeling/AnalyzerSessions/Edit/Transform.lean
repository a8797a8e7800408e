import AnalyzerSessions.Edit.Workspace
import AnalyzerSessions.Log
import AnalyzerSessions.Snippet.Plain

namespace AnalyzerSessions

/-!
# Edit transforms

Every batch of edits runs through a chain of transforms before it is applied.
A transform is installed once, however often that is asked for.  The transform
that sessions install turns snippets into plain text.
-/

/-- A named change of a batch of edits; the name tells transforms apart. -/
structure Transform where
  name : String
  /-- The changed batch, unless a snippet in it is nested too deeply. -/
  run : List TextEdit → Option (List TextEdit)

/-- An edit with its snippet turned into plain text; any other edit stays as it is. -/
def TextEdit.withoutSnippet (edit : TextEdit) : TextEdit :=
  if edit.isSnippet then
    { edit with
      newText := Snippet.plainText edit.newText
      extension := edit.extension.map fun extension => { extension with format := none } }
  else edit

/-- A batch with every snippet turned into plain text. -/
def stripSnippets (edits : List TextEdit) : List TextEdit :=
  edits.map TextEdit.withoutSnippet

/-- Whether the snippet of an edit is nested too deeply to be turned into plain text. -/
def TextEdit.isTooDeep (edit : TextEdit) : Bool :=
  edit.isSnippet && (Snippet.plainText? edit.newText).isNone

/-- A batch with every snippet turned into plain text, unless one is nested too deeply. -/
def stripSnippets? (edits : List TextEdit) : Option (List TextEdit) :=
  if edits.any TextEdit.isTooDeep then none else some (stripSnippets edits)

/-- The transform that turns snippets into plain text. -/
def plainSnippets : Transform :=
  ⟨"snippet_text_edits_to_text_edits", stripSnippets?⟩

/-- A chain of installed transforms, in order of installation. -/
abbrev TransformChain := List Transform

namespace TransformChain

/-- Whether a transform is installed. -/
def contains (chain : TransformChain) (transform : Transform) : Bool :=
  List.any chain fun installed => installed.name == transform.name

/-- Install a transform at the end; whether it was not there before. -/
def install (chain : TransformChain) (transform : Transform) : Bool × TransformChain :=
  if chain.contains transform then (false, chain) else (true, chain ++ [transform])

/-- The record of an installation. -/
def record (transform : Transform) : Record :=
  ⟨.debug, "Installed edit transform " ++ transform.name⟩

/-- Run a batch through the chain, unless a snippet in it is nested too deeply. -/
def run? (chain : TransformChain) (edits : List TextEdit) : Option (List TextEdit) :=
  chain.foldlM (fun batch transform => transform.run batch) edits

end TransformChain

/-- Read the edits of a batch, up to the first that is none. -/
def readEdits : List Json → Except Schema.Rejection (List TextEdit)
  | [] => .ok []
  | value :: rest =>
    match Schema.check "SnippetTextEdit" TextEdit.read value with
    | .error rejection => .error rejection
    | .ok edit => (readEdits rest).map (edit :: ·)

/-- Why a workspace edit is not applied. -/
inductive UnsupportedEdit where
  | noBuffers
  | resourceOperation (kind : String)
  deriving Repr, DecidableEq

/-- The message of a refusal. -/
def UnsupportedEdit.message : UnsupportedEdit → String
  | .noBuffers => "No buffer lookup available for workspace edits"
  | .resourceOperation kind => "Resource operation '" ++ kind ++ "' is not supported"

/-- The edits of a list of changes, unless one of them is about a file as a whole. -/
def onlyEdits : List DocumentChange → Except UnsupportedEdit (List TextDocumentEdit)
  | [] => .ok []
  | .edits edit :: rest => (onlyEdits rest).map (edit :: ·)
  | .resource operation :: _ => .error (.resourceOperation operation.kind)

/-- The batches of a workspace edit in the order in which they are applied, each with its URI. -/
def WorkspaceEdit.batches (edit : WorkspaceEdit) :
    Except UnsupportedEdit (List (String × List TextEdit)) :=
  match edit.documentChanges with
  | some (first :: rest) =>
    (onlyEdits (first :: rest)).map fun edits =>
      edits.map fun change => (change.document.uri, change.edits)
  | _ => .ok (edit.changes.getD [])

end AnalyzerSessions
