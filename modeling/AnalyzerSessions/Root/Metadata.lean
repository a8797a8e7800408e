import AnalyzerSessions.Json.LogText
import AnalyzerSessions.Json.Strict
import AnalyzerSessions.Log
import AnalyzerSessions.Path.FileTree
import AnalyzerSessions.Schema.Basic

namespace AnalyzerSessions

open Schema

/-!
# Workspace metadata

Asking the build tool where the workspace of a manifest is rooted.  Every
failure counts as no answer, but what the tool writes has to be UTF-8.
-/

/-- The part of the build tool's answer that is read. -/
structure CargoMetadata where
  workspaceRoot : String
  targetDirectory : Option String
  deriving Repr, DecidableEq

namespace CargoMetadata

/-- Read an answer. -/
def read : Reader CargoMetadata :=
  model fun fields =>
    CargoMetadata.mk <$> required fields "workspace_root" string
      <*> optional fields "target_directory" none (nullable string)

/-- The written form of an answer. -/
def toJson (nulls : Nulls) (metadata : CargoMetadata) : Json :=
  record nulls [("workspace_root", .str metadata.workspaceRoot),
    ("target_directory", Json.ofOption .str metadata.targetDirectory)]

end CargoMetadata

/-- How the build tool is run: its name and a time limit, both as the configuration gives them. -/
structure ProbeSettings where
  cargo : Json
  timeout : Json
  deriving Repr, DecidableEq

/-- A run of the build tool: its command line, its directory and its time limit. -/
structure ProbeCall where
  command : List Json
  directory : Option Path
  timeout : Json
  deriving Repr, DecidableEq

/-- How a run of the build tool ends. -/
inductive ProbeOutcome where
  | finished (code : Int) (output errors : String)
  /-- What the build tool writes is no UTF-8. -/
  | garbled (fault : Text.Utf8.Fault)
  | notFound
  | timedOut
  | failed (message : String)
  deriving Repr, DecidableEq

namespace ProbeSettings

/-- The command line for the manifest of a workspace, or for the current directory. -/
def command (settings : ProbeSettings) (manifest : Option Path) : List Json :=
  settings.cargo :: (["metadata", "--no-deps", "--format-version", "1"].map Json.str) ++
    (manifest.map fun path => [Json.str "--manifest-path", .str path.text]).getD []

/-- The directory to run in: a given one if it exists, which it may not be possible to tell. -/
def directory? (disk : Disk) : Option Path → Except FileError (Option Path)
  | none => .ok none
  | some wanted => (disk.isDirectory wanted).map fun isThere => if isThere then some wanted else none

/-- The run that asks for the workspace of a manifest, in a directory if that exists. -/
def call (settings : ProbeSettings) (disk : Disk) (manifest wanted : Option Path) :
    Except FileError ProbeCall :=
  (directory? disk wanted).map fun directory =>
    ⟨settings.command manifest, directory, settings.timeout⟩

/-- The first characters of the trimmed error output of a run. -/
def excerpt (errors : String) : String :=
  String.ofList ((Text.trim errors.toList).take 200)

/-- What the output of a run says, with the record of it. -/
def readOutput (output : String) : Option String × Record :=
  let rejected (count : Nat) : Option String × Record :=
    (none, ⟨.warning, "Could not parse cargo metadata output: " ++ toString count ++ " errors"⟩)
  match Json.parseStrict? output with
  | none => rejected 1
  | some value =>
    match CargoMetadata.read value with
    | .rejected issues => rejected issues.length
    | .accepted metadata =>
      (some metadata.workspaceRoot,
        ⟨.debug, "cargo metadata workspace_root=" ++ metadata.workspaceRoot⟩)

/-- A run that the system does not let begin gives no answer; the record says why. -/
def failedAnswer (message : String) : Option String × Record :=
  (none, ⟨.warning, "Failed to run cargo metadata: " ++ message⟩)

/-- The answer that the outcome of a run gives, with the record of it. -/
def answer (settings : ProbeSettings) :
    ProbeOutcome → Except FileError (Option String × Record)
  | .notFound =>
    .ok (none, ⟨.debug, settings.cargo.messageText ++ " not found, skipping cargo metadata"⟩)
  | .timedOut =>
    .ok (none, ⟨.warning, "cargo metadata timed out after " ++ settings.timeout.messageText ++ "s"⟩)
  | .failed message => .ok (failedAnswer message)
  | .garbled fault => .error (.undecodable fault)
  | .finished code output errors =>
    if code = 0 then .ok (readOutput output)
    else
      .ok (none,
        ⟨.debug, "cargo metadata exited with " ++ toString code ++ ": " ++ excerpt errors⟩)

end ProbeSettings

end AnalyzerSessions
