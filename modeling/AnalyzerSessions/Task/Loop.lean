import AnalyzerSessions.Task.Basic

namespace AnalyzerSessions.Loop

open Number

/-!
# Loops

Turns are taken in rounds, and in the order in which they became due.  A round has
the turns that were due when it began, and behind them those of the timers whose
time had come.  Settling a promise gives everyone who waits for it a turn in the
next round; a promise is settled once.  A cancellation goes to what a task waits
for, and if that is settled already it reaches the task at its next turn.
-/

variable {Frame : Type}

/-- A loop before its first task. -/
def empty : Loop Frame := ⟨[], [], [], [], .empty, .zero, none⟩

/-- The outcome of a promise that is settled. -/
def outcome? (loop : Loop Frame) (promise : Nat) : Option Outcome :=
  loop.promises[promise]?.bind Promise.outcome

/-- Whether a promise is settled. -/
def isSettled (loop : Loop Frame) (promise : Nat) : Bool :=
  (loop.outcome? promise).isSome

/-- The unfinished task with a number. -/
def task? (loop : Loop Frame) (task : Nat) : Option (Task Frame) :=
  (loop.tasks.find? fun entry => entry.1 == task).map Prod.snd

/-- Change an unfinished task. -/
def modifyTask (loop : Loop Frame) (task : Nat) (change : Task Frame → Task Frame) : Loop Frame :=
  { loop with tasks := loop.tasks.map fun entry =>
      if entry.1 = task then (entry.1, change entry.2) else entry }

/-- The turn of someone who waits for a promise. -/
def turnOf (promise : Nat) : Waiter → Turn
  | .wake task => .wake task promise
  | .release other => .release other

/-- A new promise. -/
def newPromise (loop : Loop Frame) (topic : Topic) : Nat × Loop Frame :=
  (loop.promises.length, { loop with promises := loop.promises ++ [⟨topic, none, []⟩] })

/-- Settle a promise; one that is settled stays as it is. -/
def settle (loop : Loop Frame) (promise : Nat) (outcome : Outcome) : Loop Frame :=
  match loop.promises[promise]? with
  | some ⟨topic, none, waiters⟩ =>
    { loop with
      promises := loop.promises.set promise ⟨topic, some outcome, []⟩
      ready := loop.ready ++ waiters.map (turnOf promise) }
  | _ => loop

/-- Settle promises in order. -/
def settleAll (loop : Loop Frame) (promises : List Nat) (outcome : Outcome) : Loop Frame :=
  promises.foldl (fun loop promise => loop.settle promise outcome) loop

/-- Let someone wait for a promise. -/
def whenSettled (loop : Loop Frame) (promise : Nat) (waiter : Waiter) : Loop Frame :=
  match loop.promises[promise]? with
  | some ⟨topic, none, waiters⟩ =>
    { loop with promises := loop.promises.set promise ⟨topic, none, waiters ++ [waiter]⟩ }
  | _ => { loop with ready := loop.ready ++ [turnOf promise waiter] }

/-- A new task, which begins when its turn comes. -/
def spawn (loop : Loop Frame) (topic : Topic) (frames : List Frame) : Nat × Loop Frame :=
  let (task, added) := loop.newPromise topic
  (task, { added with
    tasks := added.tasks ++ [(task, ⟨frames, none, false⟩)]
    ready := added.ready ++ [.begin task] })

/-- Settle a promise after a number of seconds. -/
def settleAfter (loop : Loop Frame) (promise : Nat) (seconds : Binary64) : Loop Frame :=
  { loop with timers := loop.timers.insert ⟨loop.now.add seconds, promise, false⟩ }

/-- Cancel the timer of a promise. -/
def cancelTimer (loop : Loop Frame) (promise : Nat) : Loop Frame :=
  { loop with timers := loop.timers.cancel promise }

/-- Cancel a promise; `depth` bounds the length of a chain of tasks that wait for each other. -/
def cancelWithin : (depth : Nat) → Loop Frame → Nat → Loop Frame
  | 0, loop, _ => loop
  | depth + 1, loop, promise =>
    if loop.isSettled promise then loop
    else
      match loop.task? promise with
      | none => loop.settle promise .cancelled
      | some task =>
        match task.waitingOn with
        | some other =>
          if loop.isSettled other then loop.modifyTask promise Task.doomed
          else cancelWithin depth loop other
        | none => loop.modifyTask promise Task.doomed

/-- Cancel a promise, or the task with that number; what is settled stays as it is. -/
def cancel (loop : Loop Frame) (promise : Nat) : Loop Frame :=
  cancelWithin (loop.tasks.length + 1) loop promise

/-- Let a task run on with an outcome. -/
def letRun (loop : Loop Frame) (task : Nat) (outcome : Outcome) : Loop Frame :=
  { loop with running := some (task, outcome) }

/-- Let nobody run. -/
def pause (loop : Loop Frame) : Loop Frame :=
  { loop with running := none }

/-- Let a task that waits for a promise, or for nothing but its turn, go on with an outcome, or with
a cancellation that is due. -/
def proceed (loop : Loop Frame) (task : Nat) (awaited : Option Nat) (outcome : Outcome) :
    Loop Frame :=
  match loop.task? task with
  | none => loop
  | some state =>
    if state.waitingOn = awaited then
      (loop.modifyTask task Task.awakened).letRun task
        (if state.cancelDue then .cancelled else outcome)
    else loop

/-- Take a turn. -/
def take (loop : Loop Frame) : Turn → Loop Frame
  | .begin task => loop.proceed task none .done
  | .wake task promise =>
    match loop.outcome? promise with
    | some outcome => loop.proceed task (some promise) outcome
    | none => loop
  | .release promise => loop.settle promise .done

/-- Remove cancelled timers. -/
def tidyTimers (loop : Loop Frame) : Loop Frame :=
  { loop with timers := loop.timers.tidy }

/-- Begin a round with the turns that are due. -/
def beginRound (loop : Loop Frame) : Loop Frame :=
  let (due, timers) := loop.timers.tidy.takeDue loop.now
  { loop with
    timers
    current := loop.ready ++ (due.filter fun timer => !timer.isCancelled).map fun timer =>
      .release timer.promise
    ready := [] }

/-- Take the next turn of the round, or begin the next round. -/
def takeTurn (loop : Loop Frame) : Loop Frame :=
  match loop.current with
  | [] => loop.beginRound
  | turn :: rest => { loop with current := rest }.take turn

/-- Give the running task another turn, behind those that are due. -/
def yieldTurn (loop : Loop Frame) (task : Nat) : Loop Frame :=
  ({ loop with ready := loop.ready ++ [.begin task] } : Loop Frame).pause

/-- Let the running task wait for a promise; a settled one lets it go on at once. -/
def await (loop : Loop Frame) (task promise : Nat) : Loop Frame :=
  match loop.outcome? promise with
  | some outcome => loop.letRun task outcome
  | none =>
    let waiting := ((loop.whenSettled promise (.wake task)).modifyTask task
      (Task.waitingFor promise)).pause
    match loop.task? task with
    | some state => if state.cancelDue then waiting.cancel promise else waiting
    | none => waiting

/-- The outcome of a task that has ended: a cancellation that is due takes the place of a value. -/
def finalOutcome (task : Option (Task Frame)) : Outcome → Outcome
  | .ok value =>
    if (task.map Task.cancelDue).getD false then .cancelled else .ok value
  | .error failure => .error failure

/-- Remove a task from the unfinished ones. -/
def dropTask (loop : Loop Frame) (task : Nat) : Loop Frame :=
  { loop with tasks := loop.tasks.filter fun entry => entry.1 != task }

/-- End the running task. -/
def finish (loop : Loop Frame) (task : Nat) (outcome : Outcome) : Loop Frame :=
  ((loop.settle task (finalOutcome (loop.task? task) outcome)).dropTask task).pause

/-- The frames of a task. -/
def frames (loop : Loop Frame) (task : Nat) : List Frame :=
  ((loop.task? task).map Task.frames).getD []

/-- Change the frames of a task. -/
def setFrames (loop : Loop Frame) (task : Nat) (frames : List Frame) : Loop Frame :=
  loop.modifyTask task fun state => { state with frames }

/-- Whether nothing can go on as long as the clock stands still. -/
def isIdle (loop : Loop Frame) : Bool :=
  loop.running.isNone && loop.current.isEmpty && loop.ready.isEmpty &&
    !loop.timers.firstIsDue loop.now

/-- Move the clock to a time, or leave it if it is later. -/
def moveClock (loop : Loop Frame) (time : Binary64) : Loop Frame :=
  { loop with now := loop.now.max time }

end AnalyzerSessions.Loop
