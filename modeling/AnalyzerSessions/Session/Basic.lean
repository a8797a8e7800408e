import AnalyzerSessions.Failure
import AnalyzerSessions.Server.Status
import AnalyzerSessions.Session.Options
import AnalyzerSessions.Supplied

namespace AnalyzerSessions

/-!
# Sessions

A session is one server for one project root, from the moment it is asked for
until the server has exited.
-/

/-- Where a session is in its life. -/
inductive SessionState where
  | unstarted
  | starting
  | initialized
  | running
  | stopping
  | stopped
  deriving Repr, DecidableEq, Inhabited

namespace SessionState

/-- The name of a state. -/
def name : SessionState → String
  | .unstarted => "unstarted"
  | .starting => "starting"
  | .initialized => "initialized"
  | .running => "running"
  | .stopping => "stopping"
  | .stopped => "stopped"

/-- The state with a name. -/
def ofName? (name : String) : Option SessionState :=
  [unstarted, starting, initialized, running, stopping, stopped].find? fun state =>
    state.name == name

/-- Between its start and its end. -/
def isActive : SessionState → Bool
  | .unstarted => false
  | .stopped => false
  | _ => true

/-- Active and not shutting down: such a session may take on new buffers. -/
def isServing (state : SessionState) : Bool :=
  state.isActive && state != .stopping

end SessionState

/-- What handles a method that a server calls. -/
inductive Handler where
  | status
  | applyEdit
  | supplied (code : Code)
  /-- A configured value that cannot be called. -/
  | value (value : Json)

/-- Whether a handler is configured as null. -/
def Handler.isNull : Handler → Bool
  | value .null => true
  | _ => false

/-- How a session talks to its server. -/
inductive Connection where
  /-- A prepared answer for every method; other methods are answered with null. -/
  | prepared (responses : List (String × Json))
  /-- The client that runs the session's server. -/
  | client

/-- A session. -/
structure Session where
  id : Nat
  name : String
  root : Option Path
  command : List Json
  capabilities : Json
  /-- The handlers by the methods that they handle. -/
  handlers : Keyed Handler
  settings : Options
  initOptions : Options
  initListeners : List Listener
  exitListeners : List Listener
  state : SessionState
  /-- The states that it has been in, the present one last. -/
  trail : List SessionState
  pid : Option Int
  client : Option Connection
  serverCapabilities : Json
  offsetEncoding : Json
  status : Option ServerStatus
  commands : List String
  group : Option Int
  buffers : List Int
  exitCode : Json

namespace Session

/-- A session that has not been started. -/
def fresh (id : Nat) (name : String) (root : Option Path) (command : List Json) : Session where
  id
  name
  root
  command
  capabilities := .obj []
  handlers := []
  settings := .value (.obj [])
  initOptions := .value (.obj [])
  initListeners := []
  exitListeners := []
  state := .unstarted
  trail := [.unstarted]
  pid := none
  client := none
  serverCapabilities := .obj []
  offsetEncoding := .str "utf-16"
  status := none
  commands := []
  group := none
  buffers := []
  exitCode := .null

/-- The written form of a root in logs. -/
def rootText : Option Path → String
  | none => "None"
  | some root => root.text

/-- Move to another state, with the record of it. -/
def transition (session : Session) (state : SessionState) : Session × Record :=
  ({ session with state, trail := session.trail ++ [state] },
    ⟨.debug, "Session " ++ toString session.id ++ ": " ++ session.state.name ++ " -> " ++
      state.name⟩)

/-- Attach a buffer; attaching it again changes nothing. -/
def attach (session : Session) (buffer : Int) : Session :=
  if session.buffers.contains buffer then session
  else { session with buffers := session.buffers ++ [buffer] }

/-- The handler of a method. -/
def handler? (session : Session) (method : Json) : Option Handler :=
  session.handlers.find? method

/-- The encoding in which positions are counted. -/
def encoding (session : Session) : Text.Encoding :=
  match session.offsetEncoding with
  | .str name => Text.Encoding.ofName name
  | _ => .unknown

/-- The buffers in ascending order. -/
def sortedBuffers (session : Session) : List Int :=
  session.buffers.mergeSort fun left right => left ≤ right

/-- What is told about a session. -/
def toJson (session : Session) : Json :=
  .obj [
    ("id", .nat session.id),
    ("name", .str session.name),
    ("root", Json.ofOption (fun root => .str root.text) session.root),
    ("state", .str session.state.name),
    ("pid", Json.ofOption .int session.pid),
    ("buffers", .arr (session.sortedBuffers.map .int)),
    ("commands", .arr (session.commands.map .str)),
    ("health", Json.ofOption (fun status => .str status.health.name) session.status),
    ("quiescent", Json.ofOption (fun status => .bool status.quiescent) session.status),
    ("exit_code", session.exitCode)]

/-- The methods that a session handles, in the order of their names; all have to be texts. -/
def handledMethods (session : Session) : Except Misuse (List String) :=
  match session.handlers.unnamed? with
  | some key => .error (.notOrdered key)
  | none => .ok ((session.handlers.named.map Prod.fst).mergeSort fun left right => left ≤ right)

/-- How a session is set up and what is known of its server. -/
def details (session : Session) : Except Misuse Json :=
  session.handledMethods.map fun methods => .obj [
    ("cmd", .arr session.command),
    ("settings", session.settings.toJson),
    ("init_options", session.initOptions.toJson),
    ("handlers", .arr (methods.map .str)),
    ("commands", .arr (session.commands.map .str)),
    ("server_capabilities", session.serverCapabilities),
    ("offset_encoding", session.offsetEncoding),
    ("has_client", .bool session.client.isSome),
    ("listeners", .arr [.nat session.initListeners.length, .nat session.exitListeners.length]),
    ("active", .bool session.state.isActive),
    ("serving", .bool session.state.isServing)]

end Session

end AnalyzerSessions
