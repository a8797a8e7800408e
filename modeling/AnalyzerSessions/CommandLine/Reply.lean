import AnalyzerSessions.CommandLine.Request
import AnalyzerSessions.Json.Printer
import AnalyzerSessions.Station.Stimulus

namespace AnalyzerSessions.CommandLine

open Text

/-!
# Replies

What a command line gives: an output, a refusal in one line, or an end without
an answer, and the exit code for each.
-/

/-- How a command line ends. -/
inductive Reply where
  | shown (output : String)
  | refused (message : String)
  | misused (misused : Misused)
  /-- A failure that nothing is prepared for. -/
  | escaped (failure : Failure)
  deriving Repr, DecidableEq

namespace Reply

/-- The exit code of a reply. -/
def exitCode : Reply → Nat
  | shown _ => 0
  | refused _ => 1
  | misused _ => 2
  | escaped _ => 1

/-- Whether a character stands between two others in the order of their numbers. -/
def isBetween (low high char : Char) : Bool :=
  low ≤ char && char ≤ high

/-- The rest of a text after a control sequence of terminals, read after its opening bracket:
parameters, then intermediate characters, then one final character. -/
def dropControl (chars : List Char) : Option (List Char) :=
  match (chars.dropWhile (isBetween '0' '?')).dropWhile (isBetween ' ' '/') with
  | final :: rest => if isBetween '@' '~' final then some rest else none
  | [] => none

/-- A text without the control sequences of terminals; `fuel` bounds its length. -/
def plainChars : (fuel : Nat) → List Char → List Char
  | 0, chars => chars
  | _, [] => []
  | fuel + 1, '\x1b' :: '[' :: rest =>
    match dropControl rest with
    | some after => plainChars fuel after
    | none => '\x1b' :: plainChars fuel ('[' :: rest)
  | fuel + 1, char :: rest => char :: plainChars fuel rest

/-- A line of the output. -/
def line (text : String) : String :=
  String.ofList (plainChars (text.length + 1) text.toList) ++ "\n"

/-- What is printed; a misuse and a failure that nothing is prepared for print nothing here. -/
def output : Reply → String
  | shown output => String.ofList (dropCarriageReturns output.toList)
  | refused message => String.ofList (dropCarriageReturns (line ("Error: " ++ message)).toList)
  | misused _ => ""
  | escaped _ => ""

end Reply

/-- What a command line works with. -/
structure Surroundings where
  disk : Disk
  environment : Environment
  processId : Int
  /-- How a run of the build tool with a given name ends. -/
  probe : Json → ProbeOutcome
  /-- What happens when servers are started. -/
  plans : List SpawnPlan

/-- What carrying out a request gives: its reply, and the questions put to the build tool. -/
structure Result where
  reply : Reply
  questions : List ProbeQuestion

/-- A result without questions. -/
def Result.plain (reply : Reply) : Result := ⟨reply, []⟩

/-- How deeply a value that is shown as JSON may be nested. -/
def maxShownDepth : Nat := 950

/-- Show a value as JSON. -/
def showJson (value : Json) : Reply :=
  if maxShownDepth < value.depth then .escaped .tooDeep
  else if value.hasLongInteger then .escaped .longInteger
  else .shown (Reply.line value.indented)

/-- Show a value, as JSON or in words. -/
def showValue (asJson : Bool) (value : Json) (words : String) : Reply :=
  if asJson then showJson value else .shown (Reply.line words)

end AnalyzerSessions.CommandLine
