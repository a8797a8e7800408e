import AnalyzerSessions.Failure
import AnalyzerSessions.Number.Arithmetic
import AnalyzerSessions.Wire.Frame

namespace AnalyzerSessions

/-!
# Server processes

A running server as its client sees it: two streams of bytes, what it does on a
signal, and its exit code once it has exited.  A server may follow a script that
says how it answers.
-/

/-- A signal that ends a process. -/
inductive Signal where
  | terminate
  | kill
  deriving Repr, DecidableEq

/-- The name of a signal. -/
def Signal.name : Signal → String
  | .terminate => "terminate"
  | .kill => "kill"

/-- The exit code of a process that a signal ends. -/
def Signal.exitCode : Signal → Int
  | .terminate => -15
  | .kill => -9

/-- A stream of bytes, and the promise of the reader that waits for more. -/
structure Channel where
  stream : Wire.Stream
  reader : Option Nat
  deriving Repr

/-- A channel before its first byte. -/
def Channel.empty : Channel := ⟨.empty, none⟩

/-- How a server answers by itself. -/
structure Script where
  /-- The answer to the handshake; without one the server stays silent. -/
  handshake : Option (Except Json Json)
  /-- The status reports after the handshake. -/
  statuses : List Json
  /-- The code with which the server exits when it is asked to. -/
  exitCode : Int

/-- What a server does. -/
inductive Reaction where
  | send (message : Json)
  | exit (code : Int)

namespace Script

/-- An answer to a request. -/
def reply (message : Json) (body : Except Json Json) : Reaction :=
  let id := message.getD "id"
  match body with
  | .ok value => .send (.obj [("jsonrpc", .str "2.0"), ("id", id), ("result", value)])
  | .error error => .send (.obj [("jsonrpc", .str "2.0"), ("id", id), ("error", error)])

/-- A status report. -/
def report (status : Json) : Reaction :=
  .send (.obj [("jsonrpc", .str "2.0"), ("method", .str "experimental/serverStatus"),
    ("params", status)])

/-- What a server does when it gets a message. -/
def react (script : Script) (message : Json) : List Reaction :=
  match message.get? "method" with
  | some (.str "initialize") =>
    match script.handshake with
    | some body => [reply message body]
    | none => []
  | some (.str "initialized") => script.statuses.map report
  | some (.str "shutdown") => [reply message (.ok .null)]
  | some (.str "exit") => [.exit script.exitCode]
  | _ => []

end Script

/-- Why a program cannot be started. -/
inductive SpawnFault where
  | missing
  | forbidden
  deriving Repr, DecidableEq

/-- What happens when a program is started. -/
structure SpawnPlan where
  fault : Option SpawnFault
  /-- The seconds that it takes to start. -/
  delay : Number.Binary64
  hasErrorStream : Bool
  ignored : List Signal
  isBroken : Bool
  script : Option Script
  /-- The code with which the server exits as soon as it is started. -/
  immediateExit : Option Int

/-- A program that starts at once and does nothing by itself. -/
def SpawnPlan.plain : SpawnPlan := ⟨none, .zero, false, [], false, none, none⟩

/-- A server process. -/
structure ServerProcess where
  pid : Int
  output : Channel
  /-- The stream of its log, if it has one. -/
  errors : Option Channel
  exitCode : Option Int
  /-- The promises of those who wait for its exit. -/
  exitWaiters : List Nat
  ignored : List Signal
  received : List Signal
  /-- Nothing can be written to it any more. -/
  isBroken : Bool
  script : Option Script

namespace ServerProcess

/-- A process that has just been started. -/
def ofPlan (pid : Int) (plan : SpawnPlan) : ServerProcess where
  pid
  output := .empty
  errors := if plan.hasErrorStream then some .empty else none
  exitCode := none
  exitWaiters := []
  ignored := plan.ignored
  received := []
  isBroken := plan.isBroken
  script := plan.script

/-- Whether a process has exited. -/
def hasExited (process : ServerProcess) : Bool :=
  process.exitCode.isSome

end ServerProcess

end AnalyzerSessions
