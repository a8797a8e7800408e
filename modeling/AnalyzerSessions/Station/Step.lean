import AnalyzerSessions.Station.Check

namespace AnalyzerSessions

/-!
# Steps of a station

A station takes one small step at a time: the innermost frame of the running task
goes on, or the next turn is taken.  When nothing can go on, time may pass.
-/

namespace Move

/-- Begin a job. -/
def begin : Job → Move Next
  | .request session method params timeout => request session method params timeout
  | .notify session method params => notify session method params
  | .awaitExit process => awaitExit process
  | .awaitFlag signpost => awaitFlag signpost
  | .readMessages session => readOn session .initial
  | .drainErrors session => drainOn session
  | .startClient session => startClient session
  | .stopClient session => stopClient session
  | .closeClient session => closeClient session
  | .handleMessage session message => handleMessage session message
  | .runServer session => runServer session
  | .awaitReady session timeout => awaitReady session timeout
  | .awaitQuiescent session timeout => awaitQuiescent session timeout
  | .awaitClosed session => awaitClosed session
  | .command name arguments => runCommand name arguments
  | .leaf session leaf arguments => runLeaf session leaf arguments
  | .handler session method params => runHandler session method params
  | .fire event file => fire event file
  | .write buffer => writeBuffer buffer
  | .check path timeout => check path timeout

/-- Go on in a frame with an outcome; a job that is cancelled before it begins is not begun. -/
def resume : Frame → Outcome → Move Next
  | .begin (.runServer session), .error failure => forsake session failure
  | .begin _, .error failure => return Next.fail failure
  | .begin job, .ok _ => begin job
  | .deadline promise time, outcome => afterDeadline promise time outcome
  | .expired promise, outcome => afterExpiry promise outcome
  | .abandoned time, _ => afterGivingUpOn time
  | .requested session number method limit, outcome =>
    afterRequest session number method limit outcome
  | .handshaken session, outcome => afterHandshake session outcome
  | .reading session phase, outcome => afterBytes session phase outcome
  | .handled session, outcome => afterMessage session outcome
  | .answering session method id, outcome => afterHandler session method id outcome
  | .noted session method, outcome => afterNotification session method outcome
  | .draining session, outcome => afterErrors session outcome
  | .shutDown session, outcome => afterShutdown session outcome
  | .grace session, outcome => afterGrace session outcome
  | .lastGrace session, outcome => afterLastGrace session outcome
  | .closing session rest, outcome => afterClosing session rest outcome
  | .spawned session number plan time, outcome => afterSpawn session number plan time outcome
  | .greeted session, outcome => afterGreeting session outcome
  | .gaveUp session, outcome => afterGivingUp session outcome
  | .exited session, outcome => afterExit session outcome
  | .killed session, outcome => afterKill session outcome
  | .parted session code ended, outcome => afterParting session code ended outcome
  | .readySettled session deadline, outcome => afterSettling session deadline outcome
  | .readyQuiescent session, outcome => afterReadiness session outcome
  | .becameQuiescent session, outcome => afterQuiescent session outcome
  | .ignoringCancellation, outcome => afterCancellation outcome
  | .slept code arguments time, outcome => afterSleep code arguments time outcome
  | .leafAnswered action, outcome => afterLeaf action outcome
  | .firing rest path count, outcome => afterFiring rest path count outcome
  | .discarding, outcome => afterDiscarded outcome
  | .checkedReady session buffer, outcome => afterCheckedReady session buffer outcome
  | .checkedClosed report, outcome => afterCheckedClosed report outcome

/-- Make a move; a failure is what the frame ends with. -/
def make (move : Move Next) (station : Station) : Next × Station :=
  match (ExceptT.run move).run station with
  | (.ok next, moved) => (next, moved)
  | (.error failure, moved) => (.fail failure, moved)

end Move

namespace Station

/-- Change the loop. -/
def modifyLoop (station : Station) (change : Loop Frame → Loop Frame) : Station :=
  { station with loop := change station.loop }

/-- Let a task go on as its innermost frame said, which is not among its frames any more. -/
def follow (station : Station) (task : Nat) (rest : List Frame) (next : Next) : Station :=
  station.modifyLoop fun loop =>
    let framed := loop.setFrames task (next.frames ++ rest)
    match next.pause with
    | .give outcome => framed.letRun task outcome
    | .await promise => framed.await task promise
    | .yield => framed.yieldTurn task

/-- Let the running task go on. -/
def goOn (station : Station) (task : Nat) (outcome : Outcome) : Station :=
  match station.loop.frames task with
  | [] => station.modifyLoop fun loop => loop.finish task outcome
  | frame :: rest =>
    let (next, moved) := (Move.resume frame outcome).make
      (station.modifyLoop fun loop => loop.setFrames task rest)
    moved.follow task rest next

/-- Take one step; a station where nothing can go on stays as it is. -/
def step (station : Station) : Station :=
  match station.loop.running with
  | some (task, outcome) => station.goOn task outcome
  | none => station.modifyLoop Loop.takeTurn

/-- Take steps until nothing can go on, at most as many as `fuel` says. -/
def settleWithin : (fuel : Nat) → Station → Station
  | 0, station => station
  | fuel + 1, station =>
    if station.loop.isIdle then station else settleWithin fuel station.step

/-- A number of steps that no reaction to one event comes near. -/
def stepLimit : Nat := 1000000

/-- Take steps until nothing can go on; cancelled timers are removed then. -/
def settle (station : Station) : Station :=
  (settleWithin stepLimit station).modifyLoop Loop.tidyTimers

/-- Move the clock to a time, and let everything go on that waits for it. -/
def passTo (station : Station) (time : Number.Binary64) : Station :=
  (station.modifyLoop fun loop => loop.moveClock time).settle

/-- Let time pass, timer by timer, until a promise is settled or no timer is left; `fuel` bounds
the number of times at which something happens. -/
def passWithin : (fuel : Nat) → Station → (promise : Nat) → Station
  | 0, station, _ => station
  | fuel + 1, station, promise =>
    match station.loop.isSettled promise, station.loop.timers.nextTime? with
    | false, some time => passWithin fuel (station.passTo time) promise
    | _, _ => station

/-- Let time pass until a promise is settled or no timer is left. -/
def passUntil (station : Station) (promise : Nat) : Station :=
  passWithin stepLimit station promise

/-- Let a number of seconds pass: a timer of its own ends them. -/
def pass (station : Station) (seconds : Number.Binary64) : Station :=
  if seconds.isPositive then
    let (promise, loop) := station.loop.newPromise .tick
    { station with loop := loop.settleAfter promise seconds }.settle.passUntil promise
  else station.settle

/-- A task for a job; what can go on without time passing goes on. -/
def undertake (station : Station) (job : Job) : Nat × Station :=
  let (task, loop) := station.loop.spawn job.topic [.begin job]
  (task, { station with loop }.settle)

/-- Do a job to its end, however long it takes; one that waits in vain has no outcome. -/
def complete (station : Station) (job : Job) : Option Outcome × Station :=
  let (task, begun) := station.undertake job
  let passed := begun.passUntil task
  (passed.loop.outcome? task, passed)

/-- Do something at the desk, and then what can go on without time passing. -/
def act {α : Type} (station : Station) (act : Act α) : Except Failure α × Station :=
  let (result, moved) := (ExceptT.run (Move.atDesk act)).run station
  (result, moved.settle)

end Station

end AnalyzerSessions
