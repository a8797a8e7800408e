import AnalyzerSessions.CommandLine.Options
import AnalyzerSessions.Number.DecimalText

namespace AnalyzerSessions.CommandLine

open Number

/-!
# Requests

What a command line asks for.  The options in front of the command are read
first, the words behind it only when the command is carried out.
-/

/-- A command. -/
inductive Command where
  | root
  | metadata
  | check
  | commands
  | capabilities
  | config
  deriving Repr, DecidableEq

/-- The name of a command. -/
def Command.name : Command → String
  | .root => "root"
  | .metadata => "metadata"
  | .check => "check"
  | .commands => "commands"
  | .capabilities => "capabilities"
  | .config => "config"

/-- All commands in the order in which they are listed. -/
def Command.all : List Command :=
  [.root, .metadata, .check, .commands, .capabilities, .config]

/-- The command with a name. -/
def Command.ofName? (name : String) : Option Command :=
  all.find? fun command => command.name == name

/-- The option that asks for help. -/
def helpOption : OptionSpec := ⟨"help", ["--help"], ['h'], false⟩

/-- The options in front of the command. -/
def generalOptions : List OptionSpec := [
  ⟨"json", ["--json"], [], false⟩, ⟨"log-level", ["--log-level"], [], true⟩, helpOption]

/-- What stands in front of the words of a command. -/
structure Opening where
  asJson : Bool
  logLevel : Option String
  command : Command
  rest : List String
  deriving Repr, DecidableEq

/-- Read a command line up to the words of the command; without a value help is asked for. -/
def readOpening (line : List String) : Except Misused (Option Opening) :=
  match readWords generalOptions false line with
  | .error misused => .error misused
  | .ok words =>
    if words.has "help" then .ok none
    else
      match words.arguments with
      | [] => .error .missingCommand
      | name :: rest =>
        match Command.ofName? name with
        | none => .error (.unknownCommand name)
        | some command =>
          .ok (some ⟨words.has "json", words.value? "log-level", command, rest⟩)

/-- What is asked for. -/
inductive Request where
  | help
  | root (path : String)
  | metadata (manifest : Option String)
  | check (path : String) (timeout : Binary64)
  | commands
  | capabilities
  | config
  deriving Repr, DecidableEq

/-- The options of a command. -/
def Command.options : Command → List OptionSpec
  | .metadata => [⟨"manifest-path", ["--manifest-path"], [], true⟩, helpOption]
  | .check => [⟨"timeout", ["--timeout"], [], true⟩, helpOption]
  | _ => [helpOption]

/-- A request, and the arguments that are too many for it.  They are refused only when the paths
of the request have been looked at. -/
structure Asked where
  request : Request
  surplus : List String
  deriving Repr, DecidableEq

/-- What is asked for with one argument. -/
def withArgument (request : String → Except Misused Request) :
    List String → Except Misused Asked
  | [] => .error .missingArgument
  | argument :: surplus => (request argument).map fun request => ⟨request, surplus⟩

/-- How long a check waits where nothing is said, in seconds. -/
def checkTimeout : Binary64 := .ofDecimal false 120 0

/-- The time that a check waits. -/
def readTimeout : Option String → Except Misused Binary64
  | none => .ok checkTimeout
  | some text =>
    match decimal? text.toList with
    | some value => .ok value
    | none => .error (.notANumber text)

/-- What a command is asked for by its words. -/
def Command.asked (command : Command) (words : Words) : Except Misused Asked :=
  match command with
  | .root => withArgument (fun path => .ok (.root path)) words.arguments
  | .metadata => .ok ⟨.metadata (words.value? "manifest-path"), words.arguments⟩
  | .check =>
    withArgument (fun path => (readTimeout (words.value? "timeout")).map (.check path))
      words.arguments
  | .commands => .ok ⟨.commands, words.arguments⟩
  | .capabilities => .ok ⟨.capabilities, words.arguments⟩
  | .config => .ok ⟨.config, words.arguments⟩

/-- Read the words of a command. -/
def Command.read (command : Command) (line : List String) : Except Misused Asked :=
  match readWords command.options true line with
  | .error misused => .error misused
  | .ok words => if words.has "help" then .ok ⟨.help, []⟩ else command.asked words

end AnalyzerSessions.CommandLine
