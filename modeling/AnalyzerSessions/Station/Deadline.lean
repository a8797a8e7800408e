import AnalyzerSessions.Station.Basic

namespace AnalyzerSessions

open Number

/-!
# Deadlines

Waiting for something, but not for longer than a limit.  When the time is over
what was waited for is cancelled, and only when it has come to its end does the
waiting end: with its outcome, or, if it was cancelled, with the failure that the
time was over.
-/

/-- How long to wait. -/
inductive Limit where
  | none
  | within (seconds : Binary64)
  deriving Repr, DecidableEq

/-- The seconds that a value stands for, which has to be a number that is not too large. -/
def secondsOf (value : Json) : Except Misuse Binary64 :=
  match value with
  | .int whole =>
    match Binary64.ofInt whole with
    | .infinite _ => .error .tooLarge
    | seconds => .ok seconds
  | .float seconds => .ok seconds
  | .bool flag => .ok (.ofInt (if flag then 1 else 0))
  | _ => .error (.notOrdered value)

/-- The limit that a value stands for; one that is not positive may be as large as it likes. -/
def Limit.ofJson : Json → Except Misuse Limit
  | .null => .ok .none
  | .int whole => if whole ≤ 0 then .ok (.within .zero) else (secondsOf (.int whole)).map .within
  | value => (secondsOf value).map .within

/-- What is left of the time until a deadline. -/
def Limit.left (now deadline : Binary64) : Limit :=
  within (Binary64.zero.max (deadline.subtract now))

namespace Move

/-- Cancel a promise, and go on in a frame when it is settled. -/
def cancelAndWait (promise : Nat) (frame : Frame) : Move Next := do
  let waiter ← newPromise .tick
  modifyLoop fun loop => (loop.whenSettled promise (.release waiter)).cancel promise
  return (Next.await waiter).into frame

/-- Wait for a promise for a number of seconds. -/
def awaitFor (promise : Nat) (seconds : Binary64) : Move Next := do
  if Binary64.zero.isAtLeast seconds then
    match (← get).loop.outcome? promise with
    | some outcome => return Next.give outcome
    | none => cancelAndWait promise (.expired promise)
  else
    let waiter ← newPromise .tick
    modifyLoop fun loop =>
      (loop.settleAfter waiter seconds).whenSettled promise (.release waiter)
    return (Next.await waiter).into (.deadline promise waiter)

/-- Wait for a promise within a limit. -/
def awaitWithin (promise : Nat) (limit : Json) : Move Next := do
  match Limit.ofJson limit with
  | .error misuse => throw (.misuse misuse)
  | .ok .none => return Next.await promise
  | .ok (.within seconds) => awaitFor promise seconds

/-- Do a job within a limit, in a task of its own if there is a limit. -/
def performFor (job : Job) : Limit → Move Next
  | .none => return Next.perform job
  | .within seconds => do awaitFor (← spawn job) seconds

/-- Do a job within the limit that a value stands for. -/
def performWithin (job : Job) (limit : Json) : Move Next := do
  match Limit.ofJson limit with
  | .error misuse => throw (.misuse misuse)
  | .ok limit => performFor job limit

/-- The outcome of a promise whose time is over. -/
def expiredOutcome : Outcome → Outcome
  | .error .cancelled => .error .timedOut
  | outcome => outcome

/-- Give up a timer. -/
def cancelTimer (time : Nat) : Move Unit :=
  modifyLoop fun loop => loop.cancelTimer time

/-- Go on after waiting for a promise or for the end of its time. -/
def afterDeadline (promise time : Nat) (outcome : Outcome) : Move Next := do
  match (← get).loop.outcome? promise, outcome with
  | some settled, _ =>
    cancelTimer time
    return Next.give settled
  | none, .ok _ => cancelAndWait promise (.expired promise)
  | none, .error _ => cancelAndWait promise (.abandoned time)

/-- Go on after cancelling a promise whose time was over. -/
def afterExpiry (promise : Nat) : Outcome → Move Next
  | .error failure => return Next.fail failure
  | .ok _ =>
    return Next.give (expiredOutcome (((← get).loop.outcome? promise).getD .cancelled))

/-- Go on after cancelling a promise that was not wanted any more. -/
def afterGivingUpOn (time : Nat) : Move Next := do
  cancelTimer time
  return Next.fail .cancelled

end Move

end AnalyzerSessions
