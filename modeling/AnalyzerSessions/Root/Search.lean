import AnalyzerSessions.Config.Places
import AnalyzerSessions.Path.Resolution

namespace AnalyzerSessions

/-!
# Project roots

Which directory a server for a file is rooted at.  The nearest manifest gives
the crate; the build tool may name a workspace around it; without a manifest a
project marker counts.  Sources of dependencies are recognised by their place.
-/

/-- The name of the manifest of a crate. -/
def manifestName : String := "Cargo.toml"

/-- Files and directories that mark a project without a manifest. -/
def projectMarkers : List String := ["rust-project.json", ".git"]

namespace Disk

/-- The first of several places where something stands; looking for it may fail. -/
def firstPresent? (disk : Disk) : List Path → Except FileError (Option Path)
  | [] => .ok none
  | place :: rest =>
    match disk.contains place with
    | .error error => .error error
    | .ok true => .ok (some place)
    | .ok false => firstPresent? disk rest

/-- Where several names are looked for: in a directory, and then in those above it. -/
def candidates (names : List String) (start : Path) : List Path :=
  start.upward.flatMap fun directory => names.map (directory / ·)

/-- The first of several names in a directory, or else in the nearest directory above it. -/
def findUpward? (disk : Disk) (names : List String) (start : Path) :
    Except FileError (Option Path) :=
  disk.firstPresent? (candidates names start)

end Disk

/-- Whether a place lies below one of the given roots, each resolved when its turn comes. -/
def liesBelowAny (disk : Disk) (place : Path) : List Path → Except FileError Bool
  | [] => .ok false
  | root :: rest =>
    match disk.resolve root with
    | .error error => .error error
    | .ok resolved => if place.isWithin resolved then .ok true else liesBelowAny disk place rest

/-- Whether a place belongs to the sources of a dependency. -/
def Toolchain.isLibrary (toolchain : Toolchain) (disk : Disk) (place : Path) :
    Except FileError Bool :=
  liesBelowAny disk place toolchain.libraryRoots

/-- How the root of a file was found. -/
inductive RootFinding where
  | workspace (root : Path)
  | crate (directory : Path)
  | marker (marker : Path)
  | nothing
  deriving Repr, DecidableEq

/-- The root that a finding stands for. -/
def RootFinding.root? : RootFinding → Option Path
  | .workspace root => some root
  | .crate directory => some directory
  | .marker found => some found.parent
  | .nothing => none

/-- The workspace that an answer of the build tool names; an empty answer names none. -/
def answeredRoot? (answer : Option String) : Option Path :=
  (answer.filter fun root => !root.isEmpty).map Path.ofText

/-- Whether a workspace may be the root of a file with a given crate. -/
def acceptsRoot (crate : Option Path) (root : Path) : Bool :=
  match crate with
  | none => true
  | some directory => directory.isWithin root

/-- What a search for a marker has found. -/
def RootFinding.ofMarker : Option Path → RootFinding
  | some found => .marker found
  | none => .nothing

/-- The finding without a workspace. -/
def findWithoutWorkspace (disk : Disk) (directory : Path) (crate : Option Path) :
    Except FileError RootFinding :=
  match crate with
  | some found => .ok (.crate found)
  | none => (disk.findUpward? projectMarkers directory).map .ofMarker

/--
The finding for a file in a directory with a given crate, after the answer of the
build tool.  A workspace that does not contain the crate is ignored.
-/
def findRoot (disk : Disk) (directory : Path) (crate : Option Path) (answer : Option String) :
    Except FileError RootFinding :=
  match answeredRoot? answer with
  | some root =>
    if acceptsRoot crate root then .ok (.workspace root)
    else findWithoutWorkspace disk directory crate
  | none => findWithoutWorkspace disk directory crate

end AnalyzerSessions
