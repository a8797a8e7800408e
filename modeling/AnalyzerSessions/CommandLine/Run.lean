import AnalyzerSessions.CommandLine.Answers
import AnalyzerSessions.CommandLine.Checking

namespace AnalyzerSessions.CommandLine

open Config

/-!
# Running a command line

When the command is known, and before its words are read, the configuration is
loaded and the directory of logs is made.
-/

/-- What this program is for. -/
def helpText : String :=
  "Usage: ferris [OPTIONS] COMMAND [ARGS]...\n\n" ++
  "  ferris resolves the workspace root rust-analyzer should be started in for a\n" ++
  "  Rust source file, and manages rust-analyzer sessions for editors.\n\n" ++
  "Commands:\n" ++
  String.join (Command.all.map fun command => "  " ++ command.name ++ "\n")

/-- Carry out a request. -/
def carryOut (surroundings : Surroundings) (asJson : Bool) (config : Entries Json) :
    Request → Result
  | .help => .plain (.shown helpText)
  | .root path =>
    atNewDesk surroundings (Setup.ofConfig config surroundings.environment surroundings.probe)
      (rootReply asJson path)
  | .metadata manifest =>
    atNewDesk surroundings (Setup.onlyProbing config surroundings.probe)
      (metadataReply asJson (ownLog surroundings.environment) manifest)
  | .check path timeout => checkResult surroundings asJson config path timeout
  | .commands => .plain (commandsReply asJson)
  | .capabilities => .plain capabilitiesReply
  | .config => .plain (configReply surroundings asJson config)

/-- Answer what is asked for, unless a path cannot be used or there are too many arguments. -/
def answer (surroundings : Surroundings) (asJson : Bool) (config : Entries Json)
    (asked : Asked) : Result :=
  match asked.request.refusal? surroundings.disk, asked.surplus with
  | some refusal, _ => .plain refusal
  | none, argument :: _ => .plain (.misused (.unexpectedArgument argument))
  | none, [] => carryOut surroundings asJson config asked.request

/-- Check that the level of the log, when the command line gives none, is configured as a text. -/
def checkLevel (config : Entries Toml.Value) : Except Failure Unit :=
  match find? "client" config with
  | some (.table client) =>
    match find? "log_level" client with
    | none | some (.leaf (.text _)) => .ok ()
    | some level => .error (.misuse (.noMember (toJson Toml.Value.toJson level) "upper"))
  | _ => .ok ()

/-- Load the configuration and make the directory of logs.  The section about the client is only
looked at when the command line gives no level. -/
def prepare (surroundings : Surroundings) (logLevel : Option String) :
    Except Failure (Entries Json × Surroundings) := do
  let loaded ← (loadValues surroundings.disk surroundings.environment none).mapError .load
  let config := withJsonLeaves loaded
  let levelGiven := !(logLevel.getD "").isEmpty
  if !levelGiven then
    let _ ← (sectionEntry config "client" "log_level" (.str "info")).mapError .misuse
  match surroundings.environment.logDirectory? with
  | none => .error (.load .noHome)
  | some directory =>
    let disk ← (surroundings.disk.makeDirectories directory).mapError .file
    if !levelGiven then checkLevel loaded
    return (config, { surroundings with disk })

/-- Carry out a command line. -/
def run (surroundings : Surroundings) (line : List String) : Result :=
  match readOpening line with
  | .error misused => .plain (.misused misused)
  | .ok none => .plain (.shown helpText)
  | .ok (some opening) =>
    match prepare surroundings opening.logLevel with
    | .error failure => .plain (.escaped failure)
    | .ok (config, prepared) =>
      match opening.command.read opening.rest with
      | .error misused => .plain (.misused misused)
      | .ok asked => answer prepared opening.asJson config asked

end AnalyzerSessions.CommandLine
