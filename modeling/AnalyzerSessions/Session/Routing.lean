import AnalyzerSessions.Session.Lifecycle

namespace AnalyzerSessions.Act

/-!
# Commands of sessions

A command of the catalog goes to the running session of the current buffer that
was registered last, or else to the running session that was registered last.
-/

/-- The running session that was registered last, among given ones. -/
def lastRunning? (sessions : List Session) : Option Session :=
  (sessions.filter fun session => session.state == .running).getLast?

/-- The session that a command goes to. -/
def targetSession : Act Session := do
  let number ← currentBuffer
  let registry := (← get).registry
  match lastRunning? (registry.active (some serverName) (some number)) with
  | some session => return session
  | none =>
    match lastRunning? (registry.active (some serverName) none) with
    | some session => return session
    | none => throw (.unavailable .noSession)

/-- The action of a leaf that is called with a number of arguments. -/
def leafAction (leaf : String) (arguments : Nat) : Act LeafAction := do
  match findLeaf? (← get).setup.actions leaf with
  | none => throw (.unavailable (.unknownLeaf leaf))
  | some action =>
    if action.takesArguments || arguments = 0 then return action
    else throw (.misuse (.argumentCount leaf 2 (2 + arguments)))

/-- Whether a saved manifest makes a session reload its workspace. -/
def concernsManifest (id : Nat) (file : Path) : Act Bool := do
  match (← get).registry.get? id with
  | none => return false
  | some session =>
    if session.state ≠ .running then return false
    else
      match session.root with
      | none => return true
      | some root => return (← resolvePath file).isWithin root

/-- The parameters that name the file of the current buffer; there may be none. -/
def currentDocument? : Act (Option Json) := do
  let name ← bufferName (← currentBuffer)
  if name.isEmpty then return none
  else
    let uri ← ofExcept .file (FileUri.ofPath (← get).disk (Path.ofText name))
    return some (.obj [("uri", .str uri)])

/-- The parameters that name the file of the current buffer, which has to have one. -/
def currentDocument : Act Json := do
  match ← currentDocument? with
  | some document => return document
  | none => throw (.unavailable .noFile)

/-- A message that a leaf sends, and whether it waits for an answer. -/
structure LeafMessage where
  isRequest : Bool
  method : String
  params : Json

/-- What a built-in leaf sends to the server of a session. -/
def leafMessage (session : Session) (action : LeafAction) (arguments : List Json) :
    Act LeafMessage := do
  match action with
  | .reloadWorkspace =>
    say .info ("Reloading workspace " ++ Session.rootText session.root)
    return ⟨true, "rust-analyzer/reloadWorkspace", .null⟩
  | .flyCheck =>
    return ⟨false, "rust-analyzer/runFlycheck",
      .obj [("textDocument", (← currentDocument?).getD .null)]⟩
  | .crateGraph =>
    if arguments ≠ [] then
      say .debug ("Crate graph backends requested: " ++ Json.argumentsText arguments)
    return ⟨true, "rust-analyzer/viewCrateGraph", .obj [("full", .bool false)]⟩
  | .syntaxTree =>
    return ⟨true, "rust-analyzer/syntaxTree", .obj [("textDocument", ← currentDocument)]⟩
  | .openManifest =>
    return ⟨true, "experimental/openCargoToml", .obj [("textDocument", ← currentDocument)]⟩
  | .runnables =>
    return ⟨true, "experimental/runnables",
      .obj [("textDocument", ← currentDocument), ("position", .null)]⟩
  | .supplied _ => return ⟨false, "", .null⟩

/-- The path of a location that a server names by a URI. -/
def locationPath (uri : Json) : Except Failure Json :=
  match uri with
  | .str text =>
    match FileUri.toPath text with
    | .ok path => .ok (.str path.text)
    | .error fault => .error (.uri fault)
  | value =>
    if value.isTruthy then .error (.misuse (.noMember value "decode"))
    else .error (.uri (.notFile value.messageText))

/-- What a built-in leaf makes of the answer of the server. -/
def leafAnswer (action : LeafAction) (answer : Json) : Except Failure Json :=
  match action with
  | .reloadWorkspace => .ok .null
  | .flyCheck => .ok .null
  | .openManifest =>
    if !answer.isTruthy then .ok .null
    else
      match answer with
      | .obj fields =>
        match Json.lookup? "uri" fields with
        | some uri => locationPath uri
        | none => .error (.noKey (.str "uri"))
      | value => .error (.misuse (.notIndexed value))
  | .runnables => .ok (if answer.isTruthy then answer else .arr [])
  | _ => .ok answer

end AnalyzerSessions.Act
