import AnalyzerSessions.Config.Defaults
import AnalyzerSessions.Edit.Transform
import AnalyzerSessions.Host.Basic
import AnalyzerSessions.Json.LogText
import AnalyzerSessions.Wire.Frame

namespace AnalyzerSessions

open Text

/-!
# Failures

Everything that can go wrong in a session, by its cause.  The message of a cause
is what logs and servers are told.
-/

/-- The type of a value in messages. -/
def Json.typeName : Json → String
  | .null => "NoneType"
  | .bool _ => "bool"
  | .int _ => "int"
  | .float _ => "float"
  | .str _ => "str"
  | .arr _ => "list"
  | .obj _ => "dict"

/-- A value that does not serve the use made of it. -/
inductive Misuse where
  | notCallable (value : Json)
  | notIterable (value : Json)
  | noMember (value : Json) (member : String)
  | notIndexed (value : Json)
  | notSearchable (value : Json)
  | notOrdered (value : Json)
  /-- An integer is too large for a double. -/
  | tooLarge
  | notText (index : Nat) (value : Json)
  | unhashable (value : Json)
  | notAPair (index : Nat)
  | pairLength (index length : Nat)
  | argumentCount (action : String) (taken given : Nat)
  deriving Repr, DecidableEq

/-- The message of a misuse. -/
def Misuse.message : Misuse → String
  | .notCallable value => "'" ++ value.typeName ++ "' object is not callable"
  | .notIterable value => "'" ++ value.typeName ++ "' object is not iterable"
  | .noMember value member =>
    "'" ++ value.typeName ++ "' object has no attribute '" ++ member ++ "'"
  | .notIndexed (.arr _) => "list indices must be integers or slices, not str"
  | .notIndexed (.str _) => "string indices must be integers, not 'str'"
  | .notIndexed value => "'" ++ value.typeName ++ "' object is not subscriptable"
  | .notSearchable value => "argument of type '" ++ value.typeName ++ "' is not iterable"
  | .notOrdered value =>
    "'<=' not supported between instances of '" ++ value.typeName ++ "' and 'int'"
  | .tooLarge => "int too large to convert to float"
  | .notText index value =>
    "sequence item " ++ toString index ++ ": expected str instance, " ++ value.typeName ++ " found"
  | .unhashable value => "unhashable type: '" ++ value.typeName ++ "'"
  | .notAPair index =>
    "cannot convert dictionary update sequence element #" ++ toString index ++ " to a sequence"
  | .pairLength index length =>
    "dictionary update sequence element #" ++ toString index ++ " has length " ++
      toString length ++ "; 2 is required"
  | .argumentCount action taken given =>
    action ++ "() takes " ++ toString taken ++ " positional arguments but " ++ toString given ++
      " were given"

/-- Why a command of a session cannot be run. -/
inductive Unavailable where
  | noSession
  | unknownLeaf (leaf : String)
  | noFile
  deriving Repr, DecidableEq

/-- The name of the server that is managed. -/
def serverName : String := "rust-analyzer"

/-- The message of an unavailable command. -/
def Unavailable.message : Unavailable → String
  | .noSession => "No running " ++ serverName ++ " session"
  | .unknownLeaf leaf => "'" ++ leaf ++ "' is not available in this editor"
  | .noFile => "The current buffer has no file"

/-- A cause of failure. -/
inductive Failure where
  | command (fault : CommandFault)
  | unavailable (reason : Unavailable)
  | unsupported (reason : UnsupportedEdit)
  | rejected (rejection : Schema.Rejection)
  | file (error : FileError)
  | uri (fault : FileUri.Fault)
  | load (fault : Config.LoadFault)
  | noKey (key : Json)
  | misuse (misuse : Misuse)
  | supplied (text : String)
  | frame (fault : Wire.FrameFault)
  | serverExited
  | response (code message data : Json)
  | brokenPipe
  | timedOut
  | cancelled
  | alreadySettled
  /-- A value is nested too deeply to be gone through. -/
  | tooDeep
  /-- An integer has more digits than are written. -/
  | longInteger
  /-- Two readers wait for the bytes of one stream. -/
  | readerBusy (operation : String)
  | programMissing (program : Json)
  | programForbidden (program : Json)
  deriving Repr, DecidableEq

/-- The failure of a message that cannot be written. -/
def Failure.ofWrite : Wire.WriteFault → Failure
  | .tooDeep => .tooDeep
  | .longInteger => .longInteger

/-- The message of a failure. -/
def Failure.message : Failure → String
  | .command fault => fault.message
  | .unavailable reason => reason.message
  | .unsupported reason => reason.message
  | .rejected rejection => rejection.message
  | .file error => error.message
  | .uri fault => fault.message
  | .load fault => fault.message
  | .noKey key => key.logText
  | .misuse cause => cause.message
  | .supplied text => text
  | .frame fault => fault.message
  | .serverExited => "Server exited"
  | .response code message _ =>
    "LSP Error " ++ code.messageText ++ ": " ++ message.messageText
  | .brokenPipe => "[Errno 32] Broken pipe"
  | .timedOut => ""
  | .cancelled => ""
  | .alreadySettled => "invalid state"
  | .tooDeep => "maximum recursion depth exceeded while calling a Python object"
  | .longInteger =>
    "Exceeds the limit (4300 digits) for integer string conversion; " ++
      "use sys.set_int_max_str_digits() to increase the limit"
  | .readerBusy operation =>
    operation ++ "() called while another coroutine is already waiting for incoming data"
  | .programMissing program => "[Errno 2] No such file or directory: " ++ program.logText
  | .programForbidden program => "[Errno 13] Permission denied: " ++ program.logText

/-- The code with which a server says that it does not know a method. -/
def methodNotFound : Int := -32601

/-- Whether a failure is a server's answer that it does not know the method. -/
def Failure.isMethodNotFound : Failure → Bool
  | .response code _ _ => code.rat? == some (Rat.ofInt methodNotFound)
  | _ => false

/-- The line about a server program that cannot be found. -/
def missingServerLine (server : String) (command : List String) : String :=
  "Language server '" ++ server ++ "' not found (tried: " ++ joinWith " " command ++
    "). Install with: rustup component add rust-analyzer"

/-- Whether a failure of an edit is reported to the server that asked for it. -/
def Failure.isRefusal : Failure → Bool
  | .command _ => true
  | .unsupported _ => true
  | .rejected _ => true
  | .uri _ => true
  | .file .nullByte => true
  | .file (.undecodable _) => true
  | _ => false

end AnalyzerSessions
