import AnalyzerSessions.Session.Desk

namespace AnalyzerSessions.Act

/-!
# Roots at the desk

The root of a file: that of the latest serving session for the source of a
dependency, else what the workspace probe and the files above it say.
-/

/-- Join words with blanks; every one has to be a text. -/
def joinWords (words : List Json) : Act String := do
  match (words.zipIdx).find? fun entry => entry.1.str?.isNone with
  | some (value, index) => throw (.misuse (.notText index value))
  | none => return Text.joinWith " " (words.filterMap Json.str?)

/-- Take note of an answer of the build tool. -/
def noteAnswer (answer : Option String × Record) : Act (Option String) := do
  note answer.2
  return answer.1

/-- Ask the probe for the workspace of a manifest. -/
def askProbe (manifest directory : Option Path) : Act (Option String) := do
  let desk ← get
  match desk.setup.probe with
  | .fixed answer =>
    modify fun desk => { desk with questions := desk.questions ++ [.fixed manifest directory] }
    return answer
  | .program settings outcome =>
    say .debug ("Running " ++ (← joinWords (settings.command manifest)))
    match settings.call desk.disk manifest directory with
    | .error error => noteAnswer (ProbeSettings.failedAnswer error.message)
    | .ok call =>
      modify fun desk => { desk with questions := desk.questions ++ [.program call] }
      noteAnswer (← ofExcept .file (settings.answer outcome))

/-- The root of the session that serves the source of a dependency. -/
def libraryRoot (place : Path) : Act (Option Path) := do
  let desk ← get
  if ← ofExcept .file (desk.setup.toolchain.isLibrary desk.disk place) then
    match desk.registry.latest? (some desk.setup.served) with
    | none =>
      say .debug (place.text ++ " is a dependency source but no session is active")
      return none
    | some session =>
      say .debug ("Reusing root " ++ Session.rootText session.root ++ " of session " ++
        toString session.id ++ " for " ++ place.text)
      return session.root
  else return none

/-- The log line of a finding. -/
def findingLine (place : Path) : RootFinding → String
  | .workspace root => "Resolved " ++ place.text ++ " to cargo workspace " ++ root.text
  | .crate directory => "Resolved " ++ place.text ++ " to crate directory " ++ directory.text
  | .marker found =>
    "Resolved " ++ place.text ++ " to " ++ found.parent.text ++ " (found " ++ found.name ++ ")"
  | .nothing => "No root found for " ++ place.text

/-- Warn of a workspace that does not contain the crate of the file. -/
def warnOfForeignRoot (crate : Option Path) (answer : Option String) : Act Unit := do
  match crate, answeredRoot? answer with
  | some directory, some root =>
    if !directory.isWithin root then
      say .warning ("cargo reported workspace " ++ root.text ++ ", which does not contain " ++
        directory.text ++ "; ignoring")
  | _, _ => pure ()

/-- The root of an ordinary file. -/
def ordinaryRoot (place : Path) : Act (Option Path) := do
  let disk := (← get).disk
  let directory := place.parent
  let manifest ← ofExcept .file (disk.findUpward? [manifestName] directory)
  let crate := manifest.map Path.parent
  let answer ← askProbe manifest (some directory)
  warnOfForeignRoot crate answer
  let finding ← ofExcept .file (findRoot disk directory crate answer)
  say .info (findingLine place finding)
  return finding.root?

/-- The root of a file. -/
def resolveRoot (path : Path) : Act (Option Path) := do
  let place ← resolvePath path
  match ← libraryRoot place with
  | some root => return some root
  | none => ordinaryRoot place

end AnalyzerSessions.Act
