import AnalyzerSessions.Root.Metadata
import AnalyzerSessions.Root.Search
import AnalyzerSessions.Server.Capabilities
import AnalyzerSessions.Session.Catalog
import AnalyzerSessions.Session.Registry

namespace AnalyzerSessions

open Config

/-!
# The desk of a manager

Everything that a session manager works with: the files, the host, the sessions,
the transforms, its configuration, and what has been observed and logged.  An
act changes the desk and gives a value or fails; what it changed before failing
stays changed.
-/

/-- A leaf of the configuration of a server, where code may stand beside plain values. -/
inductive Setting where
  | plain (value : Json)
  /-- Code that gives the command line. -/
  | program (command : Json)
  | listener (listener : Listener)
  | listeners (listeners : List Listener)
  | handler (code : Code)

/-- Who is asked for the workspace of a manifest. -/
inductive Probe where
  | fixed (answer : Option String)
  | program (settings : ProbeSettings) (outcome : ProbeOutcome)

/-- A question that was put to the probe. -/
inductive ProbeQuestion where
  | fixed (manifest directory : Option Path)
  | program (call : ProbeCall)

/-- What a transport is told to do. -/
inductive Order where
  | launch (session : Nat)
  | terminate (session : Nat)
  deriving Repr, DecidableEq

/-- What a manager is set up with. -/
structure Setup where
  config : Entries Json
  toolchain : Toolchain
  probe : Probe
  actions : List (String × Code)
  bindings : List CommandBinding
  /-- The name of the sessions that serve sources of dependencies. -/
  served : String

/-- The state of a manager and of the host it works for. -/
structure Desk where
  disk : Disk
  host : Host Action
  registry : Registry
  nextSession : Nat
  transforms : TransformChain
  setup : Setup
  questions : List ProbeQuestion
  orders : List Order
  history : History
  log : Log

/-- Whether the transport launched the server of a session. -/
def Desk.hasLaunched (desk : Desk) (id : Nat) : Bool :=
  desk.history.any fun event =>
    match event with
    | .launched session => session == id
    | _ => false

/-- Something that is done at a desk. -/
abbrev Act (α : Type) := ExceptT Failure (StateM Desk) α

namespace Act

/-- Fail. -/
def refuse {α : Type} (failure : Failure) : Act α :=
  throw failure

/-- Take the value of a result, or fail with its cause. -/
def ofExcept {ε α : Type} (cause : ε → Failure) : Except ε α → Act α
  | .ok value => pure value
  | .error error => throw (cause error)

/-- Add a record to the log. -/
def note (record : Record) : Act Unit :=
  modify fun desk => { desk with log := desk.log ++ [record] }

/-- Add a line to the log. -/
def say (level : Level) (text : String) : Act Unit :=
  note ⟨level, text⟩

/-- Add an event to the history. -/
def observe (event : Event) : Act Unit :=
  modify fun desk => { desk with history := desk.history ++ [event] }

/-- Tell the transport what to do. -/
def order (order : Order) : Act Unit :=
  modify fun desk => { desk with orders := desk.orders ++ [order] }

/-- Change the host. -/
def setHost (host : Host Action) : Act Unit :=
  modify fun desk => { desk with host }

/-- Change the session with a number. -/
def modifySession (id : Nat) (change : Session → Session) : Act Unit :=
  modify fun desk => { desk with registry := desk.registry.modify id change }

/-- Move a session to another state. -/
def transition (id : Nat) (state : SessionState) : Act Unit := do
  match (← get).registry.get? id with
  | none => pure ()
  | some session =>
    note (session.transition state).2
    modifySession id fun current => (current.transition state).1

/-- The current buffer of the host. -/
def currentBuffer : Act Int := do
  let (number, host) := (← get).host.currentBuffer
  setHost host
  return number

/-- The buffer that is meant: a given one, or the current one. -/
def chosenBuffer : Option Int → Act Int
  | some number => pure number
  | none => currentBuffer

/-- The buffer with a number. -/
def buffer (number : Int) : Act Buffer := do
  match (← get).host.buffer? number with
  | some buffer => pure buffer
  | none => throw (.noKey (.int number))

/-- The name of a buffer. -/
def bufferName (number : Int) : Act String := do
  return (← buffer number).name

/-- Open the buffer of a file. -/
def openBuffer (path : Path) (text : Option String) (focus : Bool) : Act Int := do
  let desk ← get
  let (number, host) ← ofExcept .file (desk.host.openBuffer desk.disk path text focus)
  setHost host
  return number

/-- The buffer of a file URI, opened behind the current one if it is not open. -/
def bufferForUri (uri : String) : Act Int := do
  openBuffer (← ofExcept .uri (FileUri.toPath uri)) none false

/-- The absolute place that a path leads to. -/
def resolvePath (path : Path) : Act Path := do
  ofExcept .file ((← get).disk.resolve path)

end Act

end AnalyzerSessions
