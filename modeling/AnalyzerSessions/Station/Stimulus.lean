import AnalyzerSessions.Session.Setup
import AnalyzerSessions.Station.Step

namespace AnalyzerSessions

/-!
# What happens to a station

From outside a station is told to do jobs, servers do something, and time passes.
-/

namespace Station

/-- A station where nothing has happened. -/
def fresh (desk : Desk) (environment : Environment) (processId : Int) (transport : Transport)
    (requestTimeout : Json) (plans : List SpawnPlan) : Station where
  desk
  loop := .empty
  environment
  processId
  transport
  requestTimeout
  plans
  launches := 0
  processes := []
  runs := []
  chronicle := []

/-- Put a session with its client and its server in place. -/
def withClient (station : Station) (session : Session) (logFile : Option Path)
    (process : ServerProcess) : Station :=
  let number := station.launches + 1
  { station with
    desk := { station.desk with
      registry := station.desk.registry.add session
      nextSession := max station.desk.nextSession (session.id + 1) }
    launches := number
    processes := station.processes ++ [(number, process)]
    runs := station.runs ++ [⟨session.id, none, .lowered,
      some (Client.fresh number logFile station.requestTimeout), true⟩] }

end Station

/-- What a server does by itself. -/
inductive ServerAct where
  | send (bytes : List UInt8)
  | endOutput
  | log (bytes : List UInt8)
  | exit (code : Int)
  /-- It cannot be written to any more. -/
  | breakPipe

/-- Why a server cannot do something. -/
inductive Obstacle where
  | noProcess
  | noLogStream
  | streamEnded
  deriving Repr, DecidableEq

namespace Station

/-- Why a server cannot do something, if it cannot. -/
def obstacle? (process : ServerProcess) : ServerAct → Option Obstacle
  | .send _ => if process.output.stream.ended then some .streamEnded else none
  | .log _ =>
    match process.errors with
    | none => some .noLogStream
    | some errors => if errors.stream.ended then some .streamEnded else none
  | _ => none

/-- Let a server do something. -/
def doServerAct (station : Station) (number : Nat) : ServerAct → Station
  | .send bytes => station.changeOutput number fun stream => stream.feed bytes
  | .endOutput => station.changeOutput number .finish
  | .log bytes => station.changeErrors number fun stream => stream.feed bytes
  | .exit code => station.exitProcess number code
  | .breakPipe => station.modifyProcess number fun process => { process with isBroken := true }

/-- Let a server do something, and then what can go on without time passing. -/
def serverActs (station : Station) (number : Nat) (act : ServerAct) :
    Except Obstacle Station :=
  match station.process? number with
  | none => .error .noProcess
  | some process =>
    match obstacle? process act with
    | some obstacle => .error obstacle
    | none => .ok (station.doServerAct number act).settle

end Station

end AnalyzerSessions
