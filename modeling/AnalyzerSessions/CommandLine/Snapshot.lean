import AnalyzerSessions.CommandLine.Options
import AnalyzerSessions.Config.Places
import AnalyzerSessions.Root.Search

namespace AnalyzerSessions.CommandLine

/-!
# Snapshots

The files that a command line can depend on, so that they can be looked at before
it is carried out: the configuration, the given paths, and the directories above
these with what could mark a project.
-/

/-- The environment variables that matter. -/
def variableNames : List String :=
  ["HOME", "XDG_CACHE_HOME", "XDG_CONFIG_HOME", "CARGO_HOME", "RUSTUP_HOME", "PATH"]

/-- A place with the directories above it, and what could mark a project in each. -/
def surroundingPlaces (place : Path) : List Path :=
  place.upward.flatMap fun directory =>
    directory :: ((manifestName :: projectMarkers).map fun name => directory / name)

/-- The paths that a command line names. -/
def namedPaths (workingDirectory : Path) (line : List String) : List Path :=
  (line.filter fun word => !looksLikeOption word).map fun word => workingDirectory / word

/-- The places to look at, for a working directory and the paths that are named. -/
def placesOf (environment : Environment) (workingDirectory : Path) (named : List Path) :
    List Path :=
  environment.configFile?.toList ++ (workingDirectory :: named).flatMap surroundingPlaces

/-- What stands at a place, by the place that it leads to and its bytes if it is a file. -/
def entryFor (place target : Path) (bytes : Option (List UInt8)) : List (List String × Entry) :=
  let entry := match bytes with
    | some content => Entry.file content
    | none => .directory
  if place = target then [(place.parts, entry)]
  else [(place.parts, .link target.text), (target.parts, entry)]

end AnalyzerSessions.CommandLine
