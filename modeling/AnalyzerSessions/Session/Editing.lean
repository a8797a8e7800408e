import AnalyzerSessions.Server.Status
import AnalyzerSessions.Session.Desk

namespace AnalyzerSessions.Act

/-!
# Edits at the desk

Batches of edits are read, run through the installed transforms and spliced into
a buffer.  A server's request to edit the workspace is answered whether it
succeeds or is refused; edits that were applied before a refusal stay applied.
-/

/-- Install a transform; whether it was not there before. -/
def installTransform (transform : Transform) : Act Bool := do
  let (added, transforms) := (← get).transforms.install transform
  modify fun desk => { desk with transforms }
  if added then note (TransformChain.record transform)
  return added

/-- Apply edits to a buffer as they are. -/
def applyToBuffer (edits : List TextEdit) (number : Int) (encoding : Text.Encoding) : Act Unit := do
  match (← get).host.applyEdits? edits number encoding with
  | none => throw (.noKey (.int number))
  | some (host, record) =>
    setHost host
    note record

/-- Apply edits to a buffer after the installed transforms. -/
def applyBatch (edits : List TextEdit) (number : Int) (encoding : Text.Encoding) : Act Unit := do
  match (← get).transforms.run? edits with
  | none => throw .tooDeep
  | some changed => applyToBuffer changed number encoding

/-- Apply the batches of several documents, one after the other. -/
def applyBatches (encoding : Text.Encoding) : List (String × List TextEdit) → Act Unit
  | [] => pure ()
  | (uri, edits) :: rest => do
    let number ← bufferForUri uri
    applyBatch edits number encoding
    applyBatches encoding rest

/-- Apply a workspace edit, unless part of it is about files as a whole. -/
def applyWorkspaceEdit (edit : WorkspaceEdit) (encoding : Text.Encoding) : Act Unit := do
  applyBatches encoding (← ofExcept .unsupported edit.batches)

/-- Apply a workspace edit where it may not be possible to look up buffers.  Then it is refused
whatever it holds. -/
def applyWorkspaceEditWith (hasLookup : Bool) (edit : WorkspaceEdit) (encoding : Text.Encoding) :
    Act Unit := do
  if hasLookup then applyWorkspaceEdit edit encoding else throw (.unsupported .noBuffers)

/-- Parameters that are absent stand for an empty object. -/
def presentParams (params : Json) : Json :=
  if params.isTruthy then params else .obj []

/-- Carry out a server's request to edit the workspace. -/
def applyRequest (session : Session) (params : Json) : Act Unit := do
  let request ← ofExcept .rejected
    (Schema.check "ApplyWorkspaceEditParams" ApplyRequest.read (presentParams params))
  applyWorkspaceEditWith true request.edit session.encoding

/-- The answer to a request that was carried out. -/
def appliedAnswer : Json :=
  .obj [("applied", .bool true)]

/-- The answer to a request that was refused. -/
def refusedAnswer (reason : String) : Json :=
  .obj [("applied", .bool false), ("failureReason", .str reason)]

/-- Answer a server's request to edit the workspace. -/
def answerApplyEdit (session : Session) (params : Json) : Act Json :=
  tryCatch (do applyRequest session params; return appliedAnswer) fun failure => do
    if failure.isRefusal then
      say .warning ("Could not apply workspace edit from session " ++ toString session.id ++ ": " ++
        failure.message)
      return refusedAnswer failure.message
    else throw failure

/-- The line that a status which is not well is worth. -/
def statusLine (session : Session) (status : ServerStatus) (fallback : String) : String :=
  let message := (status.message.filter fun text => !text.isEmpty).getD fallback
  "rust-analyzer (" ++ Session.rootText session.root ++ "): " ++ message

/-- Take note of a server's status report; a malformed one changes nothing. -/
def noteStatus (session : Session) (params : Json) : Act Unit := do
  match Schema.check "ServerStatus" ServerStatus.read (presentParams params) with
  | .error rejection =>
    say .warning ("Ignoring malformed serverStatus from session " ++ toString session.id ++ ": " ++
      rejection.message)
  | .ok status =>
    modifySession session.id fun current => { current with status := some status }
    match status.health with
    | .error => say .error (statusLine session status "error")
    | .warning => say .warning (statusLine session status "warning")
    | .ok => pure ()
    if status.quiescent && !(session.status.map ServerStatus.quiescent).getD false then
      say .info ("Session " ++ toString session.id ++ " is quiescent (health=" ++
        status.health.name ++ ")")

end AnalyzerSessions.Act
