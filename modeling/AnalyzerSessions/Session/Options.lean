import AnalyzerSessions.Json.Keyed
import AnalyzerSessions.Json.LogText
import AnalyzerSessions.Schema.Basic

namespace AnalyzerSessions

open Schema

/-!
# Options of a session

The settings of a session and the options for its server are usually an object.
Given as a list of pairs they may have keys that are no texts: such an entry is
found under no name, and a handshake cannot tell about it.
-/

/-- Settings or options: a value, or a table with a key that is no text. -/
inductive Options where
  | value (value : Json)
  | keyed (table : Keyed Json)
  deriving Repr, DecidableEq

namespace Options

/-- The options that a table stands for. -/
def ofKeyed (table : Keyed Json) : Options :=
  match table.unnamed? with
  | none => .value (.obj table.named)
  | some _ => .keyed table

/-- Whether there are options at all. -/
def isPresent : Options → Bool
  | .value plain => plain.isTruthy
  | .keyed table => !table.isEmpty

/-- The written form of options. -/
def toJson : Options → Json
  | .value plain => plain
  | .keyed table => table.toJson

/-- The option with a name. -/
def find? (name : String) : Options → Option Json
  | .value plain => plain.get? name
  | .keyed table => table.find? (.str name)

/-- The step to the entry of a key: integers of 64 bits and truth values count as indices, other
keys by their text. -/
def keyStep (key : Json) : Step :=
  match key with
  | .bool flag => .item (if flag then 1 else 0)
  | .int index => if fitsWord index then .item index else .field (toString index)
  | _ => .field key.messageText

/-- The complaints about keys that are no texts, in a member of the handshake. -/
def keyIssues (member : String) : Options → List Issue
  | .value _ => []
  | .keyed table =>
    (List.filter (fun entry => entry.1.str?.isNone) table).map fun entry =>
      ⟨.stringType, [.field member, keyStep entry.1, .field "[key]"]⟩

end Options

end AnalyzerSessions
