import AnalyzerSessions.Client.Basic
import AnalyzerSessions.Config.Places
import AnalyzerSessions.Server.Process
import AnalyzerSessions.Session.Lifecycle
import AnalyzerSessions.Task.Loop

namespace AnalyzerSessions

/-!
# Stations

A station is a manager at its desk together with everything that goes on beside
it: the tasks that run and talk to servers, the server processes, and the clients
of the sessions.  A job is what a task is asked to do; a frame is a place where
a task goes on with an outcome.
-/

/-- A flag of a session. -/
inductive Signpost where
  /-- The server of a session is initialized, or will never be. -/
  | settled (session : Nat)
  /-- The server of a session has nothing left to do. -/
  | quiescent (session : Nat)
  deriving Repr, DecidableEq

/-- What a task can be asked to do. -/
inductive Job where
  | request (session : Nat) (method : String) (params timeout : Json)
  | notify (session : Nat) (method : String) (params : Json)
  | awaitExit (process : Nat)
  | awaitFlag (signpost : Signpost)
  | readMessages (session : Nat)
  | drainErrors (session : Nat)
  | startClient (session : Nat)
  | stopClient (session : Nat)
  | closeClient (session : Nat)
  | handleMessage (session : Nat) (message : Json)
  | runServer (session : Nat)
  | awaitReady (session : Nat) (timeout : Json)
  | awaitQuiescent (session : Nat) (timeout : Json)
  | awaitClosed (session : Nat)
  | command (name : String) (arguments : List Json)
  | leaf (session : Nat) (leaf : String) (arguments : List Json)
  | handler (session : Nat) (method : String) (params : Json)
  | fire (event file : String)
  | write (buffer : Option Int)
  | check (path : Path) (timeout : Json)

/-- What the outcome of a job tells. -/
def Job.topic : Job → Topic
  | request session method _ _ => .reply session method
  | startClient session => .greeting session
  | stopClient _ => .stopping
  | awaitExit process => .exit process
  | readMessages _ => .reading
  | drainErrors _ => .draining
  | handleMessage _ _ => .handling
  | runServer session => .run session
  | _ => .work

/-- Where a task goes on. -/
inductive Frame where
  | begin (job : Job)
  /-- After waiting for a promise or for the end of its time, which is another promise. -/
  | deadline (promise time : Nat)
  /-- After cancelling a promise whose time is over. -/
  | expired (promise : Nat)
  /-- After cancelling a promise that is not wanted any more, before the end of its time. -/
  | abandoned (time : Nat)
  | requested (session number : Nat) (method : String) (limit : Json)
  | handshaken (session : Nat)
  | reading (session : Nat) (phase : Wire.ReadPhase)
  | handled (session : Nat)
  | answering (session : Nat) (method id : Json)
  | noted (session : Nat) (method : Json)
  | draining (session : Nat)
  | shutDown (session : Nat)
  | grace (session : Nat)
  | lastGrace (session : Nat)
  | closing (session : Nat) (rest : List Nat)
  | spawned (session number : Nat) (plan : SpawnPlan) (time : Nat)
  | greeted (session : Nat)
  | gaveUp (session : Nat)
  | exited (session : Nat)
  | killed (session : Nat)
  | parted (session : Nat) (code : Json) (outcome : Outcome)
  | readySettled (session : Nat) (deadline : Number.Binary64)
  | readyQuiescent (session : Nat)
  | becameQuiescent (session : Nat)
  | ignoringCancellation
  | slept (code : Code) (arguments : List Json) (time : Option Nat)
  | leafAnswered (action : LeafAction)
  | firing (rest : List (AutoCommand Action)) (path : String) (count : Nat)
  | discarding
  | checkedReady (session : Nat) (buffer : Int)
  | checkedClosed (report : Json)

/-- A server that is or was run for a session. -/
structure Run where
  session : Nat
  /-- The task that runs the server. -/
  task : Option Nat
  settled : Flag
  client : Option Client
  /-- Whether the client is in use: from its creation until it is closed. -/
  isAttached : Bool

/-- What is done with the orders of the manager. -/
inductive Transport where
  /-- They are only put on record. -/
  | recorded
  /-- They are carried out. -/
  | live
  deriving Repr, DecidableEq

/-- Something that happened between the clients, their servers and the manager. -/
inductive Occurrence where
  /-- A request was given its number. -/
  | issued (session number : Nat)
  /-- A message was written to the server of a session. -/
  | sent (session : Nat) (message : Json)
  /-- The message of a request was written. -/
  | written (session number : Nat)
  /-- A message of the server began to be handled. -/
  | arrived (session : Nat) (message : Json)
  /-- The call that made a request came to its end. -/
  | settled (session number : Nat) (outcome : Outcome)
  /-- The stop of a client came to its end. -/
  | stopped (session : Nat) (outcome : Outcome)
  /-- The server of a session was started. -/
  | spawned (session process : Nat)
  /-- The manager was told that a session is over, by a run that ends with an outcome. -/
  | parted (session : Nat) (code : Json) (outcome : Outcome)
  /-- The run of a session ended, and the manager was not told. -/
  | forsaken (session : Nat) (failure : Failure)
  /-- Nothing more is expected from the server of a session: its client was closed, or reading ended
  with a failure. -/
  | hungUp (session : Nat) (cause : Option Failure)

/-- A manager with everything that goes on beside it. -/
structure Station where
  desk : Desk
  loop : Loop Frame
  environment : Environment
  /-- The number of the process of the manager itself. -/
  processId : Int
  transport : Transport
  /-- The seconds that requests of new clients may take. -/
  requestTimeout : Json
  /-- What happens when programs are started, in order. -/
  plans : List SpawnPlan
  /-- How many programs it was tried to start. -/
  launches : Nat
  /-- The server processes by number. -/
  processes : List (Nat × ServerProcess)
  runs : List Run
  /-- What happened, the oldest first; nothing that is done depends on it. -/
  chronicle : List Occurrence

namespace Station

/-- The process with a number. -/
def process? (station : Station) (number : Nat) : Option ServerProcess :=
  (station.processes.find? fun entry => entry.1 == number).map Prod.snd

/-- Change the process with a number. -/
def modifyProcess (station : Station) (number : Nat) (change : ServerProcess → ServerProcess) :
    Station :=
  { station with processes := station.processes.map fun entry =>
      if entry.1 = number then (entry.1, change entry.2) else entry }

/-- The run of a session. -/
def run? (station : Station) (session : Nat) : Option Run :=
  station.runs.find? fun run => run.session == session

/-- Change the run of a session. -/
def modifyRun (station : Station) (session : Nat) (change : Run → Run) : Station :=
  { station with runs := station.runs.map fun run =>
      if run.session = session then change run else run }

/-- The client of a session, in use or not. -/
def client? (station : Station) (session : Nat) : Option Client :=
  (station.run? session).bind Run.client

/-- The client of a session that is in use. -/
def attachedClient? (station : Station) (session : Nat) : Option Client :=
  (station.run? session).bind fun run => if run.isAttached then run.client else none

/-- Change the client of a session. -/
def modifyClient (station : Station) (session : Nat) (change : Client → Client) : Station :=
  station.modifyRun session fun run => { run with client := run.client.map change }

/-- Put a process and the client that talks to it in their places. -/
def seat (station : Station) (session number : Nat) (process : ServerProcess) (client : Client) :
    Station :=
  { station.modifyRun session fun run => { run with client := some client, isAttached := true } with
    processes := station.processes ++ [(number, process)]
    chronicle := station.chronicle ++ [.spawned session number] }

/-- The session with a number. -/
def session? (station : Station) (session : Nat) : Option Session :=
  station.desk.registry.get? session

/-- The process that a client talks to. -/
def clientProcess? (station : Station) (session : Nat) : Option ServerProcess :=
  (station.client? session).bind fun client => station.process? client.process

/-- The flag at a signpost. -/
def flag (station : Station) : Signpost → Flag
  | .settled session => ((station.run? session).map Run.settled).getD .lowered
  | .quiescent session => ((station.client? session).map Client.quiescent).getD .lowered

/-- Change the flag at a signpost. -/
def setFlag (station : Station) (signpost : Signpost) (flag : Flag) : Station :=
  match signpost with
  | .settled session => station.modifyRun session fun run => { run with settled := flag }
  | .quiescent session =>
    station.modifyClient session fun client => { client with quiescent := flag }

/-- Set a flag; everyone who waits for it goes on. -/
def raise (station : Station) (signpost : Signpost) : Station :=
  let waiters := (station.flag signpost).waiters
  let raised := station.setFlag signpost ⟨true, []⟩
  { raised with loop := raised.loop.settleAll waiters (.ok (.json (.bool true))) }

/-- Clear a flag. -/
def lower (station : Station) (signpost : Signpost) : Station :=
  station.setFlag signpost { station.flag signpost with isSet := false }

/-- Let the reader of a channel go on. -/
def wakeReader (station : Station) (channel : Channel) : Station × Channel :=
  match channel.reader with
  | none => (station, channel)
  | some promise =>
    ({ station with loop := station.loop.settle promise .done }, { channel with reader := none })

/-- Change the stream of what a process sends; its reader goes on. -/
def changeOutput (station : Station) (number : Nat) (change : Wire.Stream → Wire.Stream) :
    Station :=
  match station.process? number with
  | none => station
  | some process =>
    let (woken, channel) := station.wakeReader process.output
    woken.modifyProcess number fun process =>
      { process with output := { channel with stream := change channel.stream } }

/-- Change the stream of what a process logs; its reader goes on. -/
def changeErrors (station : Station) (number : Nat) (change : Wire.Stream → Wire.Stream) :
    Station :=
  match (station.process? number).bind ServerProcess.errors with
  | none => station
  | some errors =>
    let (woken, channel) := station.wakeReader errors
    woken.modifyProcess number fun process =>
      { process with errors := some { channel with stream := change channel.stream } }

/-- Let a process exit; its streams end, and everyone who waits for its exit goes on. -/
def exitProcess (station : Station) (number : Nat) (code : Int) : Station :=
  match station.process? number with
  | none => station
  | some process =>
    if process.hasExited then station
    else
      let marked := station.modifyProcess number fun process =>
        { process with exitCode := some code, exitWaiters := [] }
      let ended := (marked.changeOutput number .finish).changeErrors number .finish
      { ended with loop := ended.loop.settleAll process.exitWaiters (.ok (.json (.int code))) }

/-- Send a signal to a process; one that has exited receives it too, without effect. -/
def signal (station : Station) (number : Nat) (sent : Signal) : Station :=
  match station.process? number with
  | none => station
  | some process =>
    let noted := station.modifyProcess number fun process =>
      { process with received := process.received ++ [sent] }
    if process.ignored.contains sent then noted else noted.exitProcess number sent.exitCode

/-- Let a process do something. -/
def doReaction (station : Station) (number : Nat) : Reaction → Station
  | .send message => station.changeOutput number fun stream => stream.feed (Wire.frame message)
  | .exit code => station.exitProcess number code

/-- Let a process that follows a script react to a message. -/
def react (station : Station) (number : Nat) (message : Json) : Station :=
  match (station.process? number).bind ServerProcess.script with
  | none => station
  | some script =>
    (script.react message).foldl (fun station reaction => station.doReaction number reaction)
      station

end Station

/-- How a frame ends: with an outcome, by waiting for a promise, or by letting others go first. -/
inductive Pause where
  | give (outcome : Outcome)
  | await (promise : Nat)
  | yield

/-- What comes after a frame: new frames in its place, and how it ends. -/
structure Next where
  frames : List Frame
  pause : Pause

namespace Next

/-- Go on with an outcome. -/
def give (outcome : Outcome) : Next := ⟨[], .give outcome⟩

/-- Go on with a value. -/
def value (value : Json) : Next := give (.ok (.json value))

/-- Go on with nothing to tell. -/
def done : Next := give .done

/-- Go on with a failure. -/
def fail (failure : Failure) : Next := give (.error failure)

/-- Wait for a promise. -/
def await (promise : Nat) : Next := ⟨[], .await promise⟩

/-- Go on when everyone whose turn it is has gone on. -/
def yield : Next := ⟨[], .yield⟩

/-- Do a job. -/
def perform (job : Job) : Next := ⟨[.begin job], .give .done⟩

/-- Go on in a frame afterwards. -/
def into (next : Next) (frame : Frame) : Next :=
  { next with frames := next.frames ++ [frame] }

end Next

/-- Something that is done at a station. -/
abbrev Move (α : Type) := ExceptT Failure (StateM Station) α

namespace Move

/-- Do something, and go on in a frame with what comes of it, also when it fails. -/
def into (move : Move Next) (frame : Frame) : Move Next := do
  let next ← tryCatch move fun failure => return Next.fail failure
  return next.into frame

/-- Change the loop. -/
def modifyLoop (change : Loop Frame → Loop Frame) : Move Unit :=
  modify fun station => { station with loop := change station.loop }

/-- A new promise. -/
def newPromise (topic : Topic) : Move Nat := do
  let (promise, loop) := (← get).loop.newPromise topic
  modifyLoop fun _ => loop
  return promise

/-- A new task for a job. -/
def spawn (job : Job) : Move Nat := do
  let (task, loop) := (← get).loop.spawn job.topic [.begin job]
  modifyLoop fun _ => loop
  return task

/-- Put something that happened on record. -/
def record (occurrence : Occurrence) : Move Unit :=
  modify fun station => { station with chronicle := station.chronicle ++ [occurrence] }

/-- Start the run of a session. -/
def launch (session : Nat) : Move Unit := do
  let task ← spawn (.runServer session)
  modify fun station =>
    { station with runs := station.runs ++ [⟨session, some task, .lowered, none, false⟩] }

/-- End the run of a session: through its client, or by cancelling its task. -/
def terminate (session : Nat) : Move Unit := do
  let station ← get
  if (station.attachedClient? session).isSome then
    let _ ← spawn (.stopClient session)
  else
    match (station.run? session).bind Run.task with
    | some task => modifyLoop fun loop => loop.cancel task
    | none => pure ()

/-- Add an event to the history. -/
def observe (event : Event) : Move Unit :=
  modify fun station =>
    { station with desk := { station.desk with history := station.desk.history ++ [event] } }

/-- Add a line to the log. -/
def say (level : Level) (text : String) : Move Unit :=
  modify fun station =>
    { station with desk := { station.desk with log := station.desk.log ++ [⟨level, text⟩] } }

/-- Carry out an order of the manager. -/
def carryOut (order : Order) : Move Unit := do
  match (← get).transport, order with
  | .recorded, .launch session => observe (.launched session)
  | .recorded, .terminate session => observe (.terminated session)
  | .live, .launch session => launch session
  | .live, .terminate session => terminate session

/-- Carry out orders in turn. -/
def carryOutAll : List Order → Move Unit
  | [] => pure ()
  | order :: rest => do
    carryOut order
    carryOutAll rest

/-- Do something at the desk, and carry out the orders that are given. -/
def atDesk {α : Type} (act : Act α) : Move α := do
  let station ← get
  let (result, desk) := (ExceptT.run act).run { station.desk with orders := [] }
  set { station with desk := { desk with orders := [] } }
  carryOutAll desk.orders
  match result with
  | .ok value => return value
  | .error failure => throw failure

/-- The client of a session. -/
def client (session : Nat) : Move Client := do
  match (← get).client? session with
  | some client => return client
  | none => throw (.misuse (.noMember .null "send_request"))

/-- Change the client of a session. -/
def modifyClient (session : Nat) (change : Client → Client) : Move Unit :=
  modify fun station => station.modifyClient session change

/-- Change a session. -/
def modifySession (session : Nat) (change : Session → Session) : Move Unit :=
  atDesk (Act.modifySession session change)

/-- The session with a number. -/
def session (id : Nat) : Move Session := do
  match (← get).session? id with
  | some session => return session
  | none => throw (.noKey (.nat id))

/-- Write a message to the process of a client.  A pipe takes all that is written to it, so that its
drain never makes anybody wait: a server that does not read what it is sent is left out. -/
def write (session : Nat) (message : Json) : Move Unit := do
  let client ← client session
  if let .error fault := Wire.encode message then throw (.ofWrite fault)
  match (← get).process? client.process with
  | none => pure ()
  | some process =>
    if process.isBroken then throw .brokenPipe
    else
      observe (.sent client.process message)
      record (.sent session message)
      modify fun station => station.react client.process message

/-- Wait until a flag is set. -/
def awaitFlag (signpost : Signpost) : Move Next := do
  let flag := (← get).flag signpost
  if flag.isSet then return Next.value (.bool true)
  else
    let promise ← newPromise .tick
    modify fun station =>
      station.setFlag signpost { flag with waiters := flag.waiters ++ [promise] }
    return Next.await promise

/-- Wait until a process has exited. -/
def awaitExit (number : Nat) : Move Next := do
  match (← get).process? number with
  | none => return Next.value .null
  | some process =>
    match process.exitCode with
    | some code => return Next.value (.int code)
    | none =>
      let promise ← newPromise (.exit number)
      modify fun station => station.modifyProcess number fun process =>
        { process with exitWaiters := process.exitWaiters ++ [promise] }
      return Next.await promise

end Move

end AnalyzerSessions
