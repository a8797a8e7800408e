import AnalyzerSessions.Schema.Basic

namespace AnalyzerSessions

open Schema

/-!
# Server status

What a server says about itself: whether it is well and whether it has nothing
left to do.
-/

/-- How well a server is. -/
inductive Health where
  | ok
  | warning
  | error
  deriving Repr, DecidableEq

/-- The name of a health in messages. -/
def Health.name : Health → String
  | .ok => "ok"
  | .warning => "warning"
  | .error => "error"

/-- Read a health. -/
def Health.read : Reader Health := fun value =>
  (literal ["ok", "warning", "error"] value).map fun name =>
    if name = "error" then .error else if name = "warning" then .warning else .ok

/-- A status report of a server. -/
structure ServerStatus where
  health : Health
  quiescent : Bool
  message : Option String
  deriving Repr, DecidableEq

namespace ServerStatus

/-- Read a status report. -/
def read : Reader ServerStatus :=
  model fun fields =>
    ServerStatus.mk <$> optional fields "health" .ok Health.read
      <*> optional fields "quiescent" false boolean
      <*> optional fields "message" none (nullable string)

/-- The written form of a status report. -/
def toJson (nulls : Nulls) (status : ServerStatus) : Json :=
  record nulls [("health", .str status.health.name), ("quiescent", .bool status.quiescent),
    ("message", Json.ofOption .str status.message)]

end ServerStatus

end AnalyzerSessions
