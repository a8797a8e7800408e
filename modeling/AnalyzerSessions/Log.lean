namespace AnalyzerSessions

/-!
# Log records

What happened, for whoever looks at the log: a level and a line.
-/

/-- How much a record matters. -/
inductive Level where
  | debug
  | info
  | warning
  | error
  deriving Repr, DecidableEq

/-- The name of a level. -/
def Level.name : Level → String
  | .debug => "DEBUG"
  | .info => "INFO"
  | .warning => "WARNING"
  | .error => "ERROR"

/-- One line of the log. -/
structure Record where
  level : Level
  text : String
  deriving Repr, DecidableEq

/-- The records of a run, oldest first. -/
abbrev Log := List Record

end AnalyzerSessions
