import AnalyzerSessions.Failure

namespace AnalyzerSessions

/-!
# Clients

A client runs the conversation with one server: it numbers its requests, keeps
the promises of those that are not answered, and knows whether the server has
nothing left to do.
-/

/-- Something that is set or not, and the promises of those who wait until it is set. -/
structure Flag where
  isSet : Bool
  waiters : List Nat
  deriving Repr, DecidableEq

/-- A flag that is not set. -/
def Flag.lowered : Flag := ⟨false, []⟩

/-- The client of a session. -/
structure Client where
  /-- The number of its server process. -/
  process : Nat
  logFile : Option Path
  /-- The seconds that a request may take if it does not say otherwise. -/
  requestTimeout : Json
  lastRequest : Nat
  /-- The unanswered requests and their promises, the oldest first. -/
  pending : List (Nat × Nat)
  /-- The task that reads messages. -/
  reader : Option Nat
  /-- The task that reads the server's own log. -/
  drain : Option Nat
  isInitialized : Bool
  logIsOpen : Bool
  quiescent : Flag
  deriving Repr

namespace Client

/-- The seconds that a request may take where nothing is said. -/
def defaultTimeout : Json := .float (Number.Binary64.ofDecimal false 30 0)

/-- A client that has not said anything yet. -/
def fresh (process : Nat) (logFile : Option Path) (requestTimeout : Json) : Client where
  process
  logFile
  requestTimeout := if requestTimeout.isTruthy then requestTimeout else defaultTimeout
  lastRequest := 0
  pending := []
  reader := none
  drain := none
  isInitialized := false
  logIsOpen := false
  quiescent := .lowered

/-- The number of the next request. -/
def nextRequest (client : Client) : Nat := client.lastRequest + 1

/-- Take the next number for a request whose promise is given. -/
def enter (client : Client) (promise : Nat) : Client :=
  { client with
    lastRequest := client.nextRequest
    pending := client.pending ++ [(client.nextRequest, promise)] }

/-- The promise of an unanswered request. -/
def promise? (client : Client) (number : Nat) : Option Nat :=
  (client.pending.find? fun entry => entry.1 == number).map Prod.snd

/-- Forget an unanswered request. -/
def forget (client : Client) (number : Nat) : Client :=
  { client with pending := client.pending.filter fun entry => entry.1 != number }

end Client

/--
The number that the identifier of an answer stands for.  Every value that is
equal to a number stands for it, and a list or an object stands for nothing at
all.
-/
def requestNumber? : Json → Except Misuse (Option Nat)
  | .int number => .ok (if 0 ≤ number then some number.toNat else none)
  | .bool flag => .ok (some (if flag then 1 else 0))
  | .float number =>
    .ok (number.toInt?.bind fun whole => if 0 ≤ whole then some whole.toNat else none)
  | .arr items => .error (.unhashable (.arr items))
  | .obj fields => .error (.unhashable (.obj fields))
  | _ => .ok none

/-- The unanswered request that an answer with an identifier is for, and its promise.  Where nothing
is unanswered the identifier is not looked at. -/
def Client.answered? (client : Client) (id : Json) : Except Misuse (Option (Nat × Nat)) :=
  if client.pending.isEmpty then .ok none
  else
    (requestNumber? id).map fun number =>
      number.bind fun known => (client.promise? known).map fun promise => (known, promise)

end AnalyzerSessions
