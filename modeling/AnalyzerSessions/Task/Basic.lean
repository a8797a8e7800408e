import AnalyzerSessions.Failure
import AnalyzerSessions.Task.TimerHeap

namespace AnalyzerSessions

/-!
# Tasks and promises

Work that has to wait is a task: a stack of frames, of which the innermost goes
on when what it waits for has an outcome.  A promise is something that has an
outcome at some time; a task is also the promise of its own outcome and has its
number.
-/

/-- What tasks work out. -/
inductive Value where
  | json (value : Json)
  | session (id : Option Nat)
  | sessions (ids : List Nat)
  deriving Repr, DecidableEq

/-- How something ended. -/
abbrev Outcome := Except Failure Value

/-- The outcome of what has nothing to tell. -/
def Outcome.done : Outcome := .ok (.json .null)

/-- The outcome of what was cancelled. -/
def Outcome.cancelled : Outcome := .error .cancelled

/-- What the outcome of a promise tells; this is for the record, and nothing that is done depends
on it. -/
inductive Topic where
  /-- That something has happened. -/
  | tick
  /-- The answer to a request. -/
  | answer (session number : Nat)
  /-- What the call that makes a request comes to. -/
  | reply (session : Nat) (method : String)
  /-- What the start of a client comes to. -/
  | greeting (session : Nat)
  /-- The exit of a process. -/
  | exit (process : Nat)
  /-- The end of the reading of messages. -/
  | reading
  /-- The end of the draining of a log. -/
  | draining
  /-- The end of the handling of a message. -/
  | handling
  /-- What the stop of a client comes to. -/
  | stopping
  /-- The end of the closing of a client. -/
  | closing
  /-- The end of the run of a session. -/
  | run (session : Nat)
  /-- The end of other work. -/
  | work
  deriving Repr, DecidableEq

/-- Who is told that a promise is settled. -/
inductive Waiter where
  /-- A task that goes on. -/
  | wake (task : Nat)
  /-- Another promise, which is settled then. -/
  | release (promise : Nat)
  deriving Repr, DecidableEq

/-- Something that has an outcome at some time, and who waits for it. -/
structure Promise where
  topic : Topic
  outcome : Option Outcome
  waiters : List Waiter

/-- A task that is not finished; its innermost frame comes first. -/
structure Task (Frame : Type) where
  frames : List Frame
  waitingOn : Option Nat
  /-- A cancellation that is still to be delivered. -/
  cancelDue : Bool

namespace Task

variable {Frame : Type}

/-- A task that goes on. -/
def awakened (task : Task Frame) : Task Frame :=
  { task with waitingOn := none, cancelDue := false }

/-- A task that waits for a promise. -/
def waitingFor (promise : Nat) (task : Task Frame) : Task Frame :=
  { task with waitingOn := some promise, cancelDue := false }

/-- A task to which a cancellation is still to be delivered. -/
def doomed (task : Task Frame) : Task Frame :=
  { task with cancelDue := true }

end Task

/-- Something that is done when its turn comes. -/
inductive Turn where
  | begin (task : Nat)
  | wake (task promise : Nat)
  | release (promise : Nat)
  deriving Repr, DecidableEq

/-- A set of tasks of which one at a time goes on. -/
structure Loop (Frame : Type) where
  /-- All promises; the number of a promise is its place. -/
  promises : List Promise
  tasks : List (Nat × Task Frame)
  /-- The turns that are left of this round, the next one first. -/
  current : List Turn
  /-- The turns of the next round. -/
  ready : List Turn
  timers : TimerHeap
  now : Number.Binary64
  /-- The task that is going on, and the outcome with which its innermost frame goes on. -/
  running : Option (Nat × Outcome)

end AnalyzerSessions
