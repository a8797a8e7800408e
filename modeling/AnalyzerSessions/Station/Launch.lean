import AnalyzerSessions.Client.Lifecycle
import AnalyzerSessions.Session.Lifecycle

namespace AnalyzerSessions.Move

/-!
# Running a server

The run of a session starts the program, lets the client introduce itself, tells
the manager, and waits for the exit of the server.  However it ends, the client
is closed and the manager is told; only a run that is cancelled before its first
turn does none of this.
-/

/-- Change the run of a session. -/
def modifyRun (session : Nat) (change : Run → Run) : Move Unit :=
  modify fun station => station.modifyRun session change

/-- Let everyone go on who waits for the start of a session to be settled. -/
def settleStart (session : Nat) : Move Unit :=
  modify fun station => station.raise (.settled session)

/-- Tell the manager that a session is over, and end its run. -/
def endRun (session : Nat) (code : Json) (outcome : Outcome) : Move Next := do
  modifyRun session fun run => { run with isAttached := false }
  settleStart session
  atDesk (Act.onExit session code)
  record (.parted session code outcome)
  return Next.give outcome

/-- End the run of a session without telling the manager. -/
def forsake (session : Nat) (failure : Failure) : Move Next := do
  record (.forsaken session failure)
  return Next.fail failure

/-- Close the client of a run, if there is one, and end the run. -/
def windUp (session : Nat) (code : Json) (outcome : Outcome) : Move Next := do
  if ((← get).client? session).isSome then
    into (closeClient session) (.parted session code outcome)
  else endRun session code outcome

/-- Go on after closing the client of a run. -/
def afterParting (session : Nat) (code : Json) (outcome : Outcome) : Outcome → Move Next
  | .ok _ => endRun session code outcome
  | .error failure => return Next.fail failure

/-- Kill the server of a run that was cancelled, and wait for its exit. -/
def cancelRun (session : Nat) : Move Next := do
  match (← get).client? session with
  | none => windUp session .null .cancelled
  | some client =>
    if ← serverHasExited session then windUp session .null .cancelled
    else
      signal session .kill
      into (awaitExit client.process) (.killed session)

/-- Go on with a failure of a run. -/
def failRun (session : Nat) : Failure → Move Next
  | .cancelled => cancelRun session
  | failure => windUp session .null (.error failure)

/-- What the exit of a process tells. -/
def exitCodeOf : Outcome → Json
  | .ok (.json code) => code
  | _ => .null

/-- Go on after killing the server of a run that was cancelled. -/
def afterKill (session : Nat) : Outcome → Move Next
  | .error failure => windUp session .null (.error failure)
  | outcome => windUp session (exitCodeOf outcome) .cancelled

/-- Go on after the exit of the server. -/
def afterExit (session : Nat) : Outcome → Move Next
  | .error failure => failRun session failure
  | outcome => windUp session (exitCodeOf outcome) .done

/-- Wait for the exit of the server. -/
def awaitServerExit (session : Nat) : Move Next := do
  settleStart session
  let client ← client session
  into (awaitExit client.process) (.exited session)

/-- Go on after stopping a server that failed to start. -/
def afterGivingUp (session : Nat) : Outcome → Move Next
  | .ok _ => awaitServerExit session
  | .error failure => do
    settleStart session
    failRun session failure

/-- Whether a failure of the handshake is logged and does not end the run. -/
def isFailedStart : Failure → Bool
  | .response _ _ _ => true
  | .brokenPipe => true
  | failure => isProtocolFailure failure

/-- The line about a server that failed to start. -/
def failedStartLine (session : Session) (failure : Failure) : String :=
  session.name ++ " failed to initialize at " ++ Session.rootText session.root ++ ": " ++
    failure.message

/-- Go on after a failed handshake. -/
def afterFailedStart (id : Nat) (failure : Failure) : Move Next := do
  if isFailedStart failure then
    say .error (failedStartLine (← session id) failure)
    into (stopClient id) (.gaveUp id)
  else
    settleStart id
    failRun id failure

/-- Tell the manager that the server is there. -/
def welcome (session : Nat) : Move Next := do
  modifySession session fun current => { current with client := some .client }
  let told ← tryCatch (do atDesk (Act.onInit session); return none) fun failure =>
    return some failure
  match told with
  | none => awaitServerExit session
  | some failure =>
    settleStart session
    failRun session failure

/-- Go on after the handshake. -/
def afterGreeting (session : Nat) : Outcome → Move Next
  | .ok _ => welcome session
  | .error failure => afterFailedStart session failure

/-- The log file of a server. -/
def serverLog? (station : Station) (name : String) : Option Path :=
  station.environment.logDirectory?.map fun directory => directory / (name ++ ".log")

/-- The number of the first process, less one. -/
def firstPid : Int := 1000

/-- Put a started process and its client in their places. -/
def settleIn (id : Nat) (plan : SpawnPlan) (number : Nat) : Move Unit := do
  let session ← session id
  let pid := firstPid + number
  modifySession id fun current => { current with pid := some pid }
  modify fun station => station.seat id number (ServerProcess.ofPlan pid plan)
    (Client.fresh number (serverLog? station session.name) station.requestTimeout)
  match plan.immediateExit with
  | some code => modify fun station => station.exitProcess number code
  | none => pure ()

/-- The program that a session runs. -/
def programOf (session : Session) : Json :=
  session.command.head?.getD .null

/-- Go on when the program should have been started. -/
def startProgram (id number : Nat) (plan : SpawnPlan) : Move Next := do
  let session ← session id
  match plan.fault with
  | some .missing =>
    say .error (missingServerLine session.name (session.command.filterMap Json.str?))
    windUp id .null .done
  | some .forbidden => windUp id .null (.error (.programForbidden (programOf session)))
  | none =>
    settleIn id plan number
    into (startClient id) (.greeted id)

/-- Go on after the time that a program takes to start. -/
def afterSpawn (session number : Nat) (plan : SpawnPlan) (time : Nat) : Outcome → Move Next
  | .ok _ => startProgram session number plan
  | .error failure => do
    cancelTimer time
    failRun session failure

/-- Run the server of a session. -/
def runServer (id : Nat) : Move Next := do
  let session ← session id
  let station ← get
  if (searchPath? station.environment).isNone then forsake id (.load .noHome)
  else
    let number := station.launches + 1
    let plan := station.plans[station.launches]?.getD .plain
    modify fun station => { station with launches := number }
    observe (.spawned session.command session.root)
    if plan.delay.isPositive then
      let promise ← newPromise .tick
      modifyLoop fun loop => loop.settleAfter promise plan.delay
      return (Next.await promise).into (.spawned id number plan promise)
    else startProgram id number plan

/-! ## Waiting for a session -/

/-- Wait until a session is running and its server has nothing left to do; the time to wait has to
be a number that is not too large, also when it is not positive. -/
def awaitReady (session : Nat) (timeout : Json) : Move Next := do
  match secondsOf timeout with
  | .error misuse => throw (.misuse misuse)
  | .ok seconds =>
    let station ← get
    if (station.run? session).isNone then return Next.value (.bool false)
    else
      into (performFor (.awaitFlag (.settled session)) (.within seconds))
        (.readySettled session (station.loop.now.add seconds))

/-- Go on when the start of a session is settled. -/
def afterSettling (session : Nat) (deadline : Number.Binary64) : Outcome → Move Next
  | .error .timedOut => return Next.value (.bool false)
  | .error failure => return Next.fail failure
  | .ok _ => do
    let station ← get
    let isKnown := ((station.session? session).bind Session.client).isSome
    if (station.attachedClient? session).isSome && isKnown then
      into (awaitQuiescentFor session (.left station.loop.now deadline)) (.readyQuiescent session)
    else return Next.value (.bool false)

/-- Go on when the server of a session has nothing left to do, or the time is over. -/
def afterReadiness (session : Nat) : Outcome → Move Next
  | .ok (.json (.bool true)) => do
    let state := ((← get).session? session).map Session.state
    return Next.value (.bool (state == some .running))
  | .ok _ => return Next.value (.bool false)
  | .error failure => return Next.fail failure

/-- Wait until the run of a session is over. -/
def awaitClosed (session : Nat) : Move Next := do
  match ((← get).run? session).bind Run.task with
  | none => return Next.done
  | some task => return (Next.await task).into .ignoringCancellation

/-- Go on, whether or not something was cancelled. -/
def afterCancellation : Outcome → Move Next
  | .error .cancelled => return Next.done
  | .error failure => return Next.fail failure
  | .ok _ => return Next.done

end AnalyzerSessions.Move
