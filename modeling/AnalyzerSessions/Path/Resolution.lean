import AnalyzerSessions.Path.FileTree

namespace AnalyzerSessions.Disk

open FileTree Text

/-!
# Resolving paths

`resolve` names the place that a path leads to and keeps what does not exist.
Links are followed one by one, and each is known by the place where it was met.  A
link that is met again while it is still followed ends the resolution there: what
is left of the path is appended as it is written.
-/

/-- The links met so far: where each leads to, or none while it is still followed. -/
abbrev SeenLinks := List (Path × Option Path)

/-- Where a resolution has come to: links met, the place reached, and whether it got through. -/
structure Resolution where
  seen : SeenLinks
  place : Path
  isComplete : Bool
  deriving Repr, DecidableEq

/-- What is known of a link. -/
def seenLink? (place : Path) : SeenLinks → Option (Option Path)
  | [] => none
  | (known, target) :: rest => if known = place then some target else seenLink? place rest

/-- The target of the link that stands at a place, if a link stands there. -/
def linkTarget? (disk : Disk) (place : Path) : Option String :=
  match disk.reach false place with
  | .ok (.present _ (.link target)) => some target
  | _ => none

/-- The directory above a place; above what is relative already it goes on upwards. -/
def above (place : Path) : Path :=
  match place.anchor, place.parts.getLast? with
  | .relative, none => ⟨.relative, [".."]⟩
  | _, some ".." => ⟨place.anchor, place.parts ++ [".."]⟩
  | _, _ => place.parent

/-- What is left of a written path; slashes at its front begin anew at the root. -/
def remainder (rest : List String) : Path :=
  Path.ofText (joinWith "/" rest)

/-- Where the target of a link begins, for a link in a given directory. -/
def startOf (directory : Path) (target : String) : Path :=
  if target.startsWith "/" then Path.absolute [] else directory

/-- Follow components from a place, link by link; `depth` bounds the links inside links. -/
def follow (disk : Disk) :
    (depth : Nat) → SeenLinks → (place : Path) → List String → Except FileError Resolution
  | _, seen, place, [] => .ok ⟨seen, place, true⟩
  | depth, seen, place, name :: rest =>
    if name = "" ∨ name = "." then follow disk depth seen place rest
    else if name = ".." then follow disk depth seen (above place) rest
    else
      let next : Path := ⟨place.anchor, place.parts ++ [name]⟩
      if hasNull next then .error .nullByte
      else
        match disk.linkTarget? next with
        | none => follow disk depth seen next rest
        | some target =>
          match seenLink? next seen with
          | some (some known) => follow disk depth seen known rest
          | some none => .ok ⟨seen, next.join (remainder rest), false⟩
          | none =>
            match depth with
            | 0 => .error .tooDeep
            | depth + 1 =>
              match follow disk depth ((next, none) :: seen) (startOf place target)
                  (targetParts target) with
              | .error error => .error error
              | .ok inner =>
                if inner.isComplete then
                  follow disk (depth + 1) ((next, some inner.place) :: inner.seen) inner.place rest
                else .ok ⟨inner.seen, inner.place.join (remainder rest), false⟩
  termination_by depth _ _ parts => (depth, parts.length)

/-- Drop idle components, and with each `..` the component before it. -/
def normalize (parts : List String) : List String :=
  (parts.foldl (fun done part =>
    if part = "" ∨ part = "." then done
    else if part = ".." then done.drop 1
    else part :: done) []).reverse

/-- A place as an absolute path without idle components. -/
def settled (disk : Disk) (place : Path) : Path :=
  match place.anchor with
  | .doubleRoot => ⟨.doubleRoot, normalize place.parts⟩
  | _ => .absolute (normalize (disk.fromRoot place))

/-- Whether a place begins somewhere: one that is relative begins at the working directory. -/
def isAnchored (disk : Disk) (place : Path) : Bool :=
  place.isAbsolute || disk.tree.entry? disk.workingDirectory == some .directory

/-- How deeply links may be nested.  It depends on the calls that are open already: this is the limit
for a path that is resolved near the top. -/
def maxDepth : Nat := 960

/-- The absolute place that a path leads to, whether it exists or not. -/
def resolve (disk : Disk) (path : Path) : Except FileError Path :=
  let start : Path := if path.isAbsolute then .absolute [] else ⟨.relative, []⟩
  match follow disk maxDepth [] start path.parts with
  | .error error => .error error
  | .ok found =>
    if disk.isAnchored found.place then
      let resolved := disk.settled found.place
      if hasNull resolved then .error .nullByte
      else
        match disk.stat resolved with
        | .error .tooManyLinks => .error (.linkLoop resolved)
        | _ => .ok resolved
    else .error .noWorkingDirectory

end AnalyzerSessions.Disk
