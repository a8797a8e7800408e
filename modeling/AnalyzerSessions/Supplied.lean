import AnalyzerSessions.Json.Basic
import AnalyzerSessions.Path.Basic

namespace AnalyzerSessions

/-!
# Supplied code

The editor that embeds a manager supplies code: actions, callbacks and
listeners.  All that is known of such code is what can be observed: that it was
called, with which arguments, and how it ends.  The history of a run lists these
calls together with everything sent to a server, in order.
-/

/-- When supplied code ends. -/
inductive Timing where
  | atOnce
  /-- It has to be waited for, and takes a number of seconds. -/
  | after (seconds : Number.Binary64)
  deriving Repr, DecidableEq

/-- Code that is called with arguments and returns a value or fails with a text. -/
structure Code where
  name : String
  outcome : Except String Json
  timing : Timing

/-- Something that is told about the beginning or the end of a session. -/
inductive Listener where
  | supplied (name : String) (failure : Option String)
  /-- A configured value that cannot be called. -/
  | value (value : Json)
  deriving Repr, DecidableEq

/-- What can be observed of a run. -/
inductive Event where
  | called (name : String) (arguments : List Json)
  | launched (session : Nat)
  | terminated (session : Nat)
  | requested (session : Nat) (method : String) (params : Json)
  | notified (session : Nat) (method : String) (params : Json)
  | spawned (command : List Json) (directory : Option Path)
  | sent (process : Nat) (message : Json)

/-- The events of a run, oldest first. -/
abbrev History := List Event

end AnalyzerSessions
