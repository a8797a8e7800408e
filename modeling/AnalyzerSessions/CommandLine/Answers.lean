import AnalyzerSessions.CommandLine.Reply
import AnalyzerSessions.Server.Capabilities

namespace AnalyzerSessions.CommandLine

open Config

/-!
# Answers

The replies about roots, workspaces, commands, capabilities and the
configuration.
-/

/-- Do something at a new desk; a failure ends the command line. -/
def atNewDesk (surroundings : Surroundings) (setup : Except Failure Setup) (act : Act Reply) :
    Result :=
  match setup with
  | .error failure => .plain (.escaped failure)
  | .ok setup =>
    let (result, desk) := (ExceptT.run act).run (Desk.fresh surroundings.disk setup)
    match result with
    | .ok reply => ⟨reply, desk.questions⟩
    | .error failure => ⟨.escaped failure, desk.questions⟩

/-! ## Roots -/

/-- The root of a file. -/
def rootReply (asJson : Bool) (path : String) : Act Reply := do
  let place ← Act.resolvePath (Path.ofText path)
  match ← Act.resolveRoot place with
  | none => return .refused ("No root found for " ++ place.text)
  | some root =>
    return showValue asJson (.obj [("path", .str place.text), ("root", .str root.text)]) root.text

/-- Whether a path that is given exists; a path with a slash at its end has to be a directory, and
one that nobody may look at counts as missing. -/
def givenExists (disk : Disk) (path : String) : Bool :=
  !path.isEmpty && (disk.contains (Path.ofText path)).toOption == some true &&
    (!path.endsWith "/" || (disk.isDirectory (Path.ofText path)).toOption == some true)

/-- Why a path cannot be used; one that need not exist has to be a path at least, and what is there
has to be readable. -/
def pathRefusal? (disk : Disk) (mustExist : Bool) (path : String) : Option Reply :=
  if Disk.hasNull (Path.ofText path) then some (.escaped (.file .nullByte))
  else if givenExists disk path then
    if disk.isReadable (Path.ofText path) then none else some (.misused (.unreadablePath path))
  else if mustExist then some (.misused (.noSuchPath path))
  else none

/-- Why the paths of a request cannot be used. -/
def Request.refusal? (disk : Disk) : Request → Option Reply
  | .root path => pathRefusal? disk false path
  | .metadata manifest => manifest.bind (pathRefusal? disk true)
  | .check path _ => pathRefusal? disk true path
  | _ => none

/-- Where the log of this program would be. -/
def ownLog (environment : Environment) : String :=
  ((environment.logDirectory?.map fun directory => (directory / "ferris.log").text)).getD ""

/-- The root of a workspace as the build tool reports it. -/
def metadataReply (asJson : Bool) (log : String) (manifest : Option String) : Act Reply := do
  let place ← match manifest with
    | none => pure none
    | some path => some <$> Act.resolvePath (Path.ofText path)
  let here := Path.absolute (← get).disk.workingDirectory
  match ← Act.askProbe place (some here) with
  | none => return .refused ("cargo metadata failed (see " ++ log ++ ")")
  | some root => return showValue asJson (.obj [("workspace_root", .str root)]) root

/-! ## Catalogs -/

/-- A command of the catalog as a value. -/
def bindingJson (binding : CommandBinding) : Json :=
  .obj [("name", .str binding.name), ("leaf", .str binding.leaf),
    ("nargs", .str binding.arity.mark), ("complete", Json.ofOption .str binding.complete)]

/-- A text filled up with blanks to a width. -/
def padRight (width : Nat) (text : String) : String :=
  text ++ String.ofList (List.replicate (width - text.length) ' ')

/-- A command of the catalog as a line. -/
def bindingLine (binding : CommandBinding) : String :=
  padRight 22 binding.name ++ " nargs=" ++ binding.arity.mark ++
    (binding.complete.map fun complete => "  complete=" ++ complete).getD ""

/-- The commands that a running session offers. -/
def commandsReply (asJson : Bool) : Reply :=
  showValue asJson (.arr (CommandBinding.catalog.map bindingJson))
    (Text.joinWith "\n" (CommandBinding.catalog.map bindingLine))

/-- The capabilities that the server is told. -/
def capabilitiesReply : Reply :=
  showJson (Capabilities.toJson Capabilities.rustAnalyzer)

/-! ## Configuration -/

/-- The configuration file, or what takes its place. -/
def configText (disk : Disk) (file : Path) : Except Failure String :=
  match disk.contains file with
  | .error error => .error (.file error)
  | .ok true => (disk.readText file).mapError .file
  | .ok false => .ok "(file does not exist, using defaults)"

/-- Where the configuration file is, and what is configured. -/
def configReply (surroundings : Surroundings) (asJson : Bool) (config : Entries Json) : Reply :=
  match surroundings.environment.configFile? with
  | none => .escaped (.load .noHome)
  | some file =>
    if asJson then
      showJson (.obj [("path", .str file.text), ("config", .obj (toFields id config))])
    else
      match configText surroundings.disk file with
      | .error failure => .escaped failure
      | .ok text =>
        .shown (Reply.line ("Config file: " ++ file.text) ++ Reply.line "" ++ Reply.line text)

end AnalyzerSessions.CommandLine
