import AnalyzerSessions.CommandLine.Run
import AnalyzerSessions.CommandLine.Snapshot

namespace AnalyzerSessions.CommandLine

/-!
# The program

Looks at the files that the command line can depend on, carries it out, and
prints the reply.  No other program is started from here: the build tool and the
server count as not installed.
-/

/-- The environment variables that matter, with their values.  The account is not looked up. -/
def readEnvironment : IO Environment := do
  let values ← variableNames.mapM fun name => do
    return (← IO.getEnv name).map fun value => (name, value)
  return ⟨values.filterMap id, none⟩

/-- The bytes of a file, if it can be read. -/
def readBytes? (path : String) : IO (Option (List UInt8)) := do
  try
    return some (← IO.FS.readBinFile path).toList
  catch _ => return none

/-- What stands at a place; nothing if there is no such place. -/
def readEntries (place : Path) : IO (List (List String × Entry)) := do
  try
    let target := Path.ofText (← IO.FS.realPath place.text).toString
    return entryFor place target (← readBytes? place.text)
  catch _ => return []

/-- The files that a command line can depend on. -/
def readDisk (environment : Environment) (line : List String) : IO Disk := do
  let here := Path.ofText (← IO.currentDir).toString
  let entries ← (placesOf environment here (namedPaths here line)).mapM readEntries
  return ⟨FileTree.ofEntries entries.flatten here.parts .usual, here.parts⟩

/-- What a command line works with. -/
def readSurroundings (line : List String) : IO Surroundings := do
  let environment ← readEnvironment
  return {
    disk := ← readDisk environment line
    environment
    processId := 0
    probe := fun _ => .notFound
    plans := [{ SpawnPlan.plain with fault := some .missing }] }

/-- Print a reply. -/
def printReply : Reply → IO Unit
  | .shown output => IO.print output
  | .refused message => IO.eprint (Reply.refused message).output
  | .misused misused => IO.eprintln ("Error: " ++ misused.message)
  | .escaped failure => IO.eprintln ("Error: " ++ failure.message)

end AnalyzerSessions.CommandLine

open AnalyzerSessions.CommandLine in
/-- Carry out the command line of the program. -/
def main (line : List String) : IO UInt32 := do
  let result := run (← readSurroundings line) line
  printReply result.reply
  return UInt32.ofNat result.reply.exitCode
