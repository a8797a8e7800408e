import AnalyzerSessions.Text.Class

namespace AnalyzerSessions

/-!
# Paths

A path is an anchor and a list of components.  Reading one collapses repeated
slashes and drops `.` components; `..` is kept, since what it means depends on
links.  Exactly two slashes at the front are an anchor of their own.
-/

/-- Where the components of a path begin. -/
inductive Anchor where
  | relative
  | root
  | doubleRoot
  deriving Repr, DecidableEq, Inhabited

/-- The slashes of an anchor. -/
def Anchor.text : Anchor → String
  | .relative => ""
  | .root => "/"
  | .doubleRoot => "//"

/-- A path by its components. -/
structure Path where
  anchor : Anchor
  parts : List String
  deriving Repr, DecidableEq, Inhabited

namespace Path

/-- The anchor of a written path, by the number of slashes at its front. -/
def anchorOf (chars : List Char) : Anchor :=
  match (chars.takeWhile (· == '/')).length with
  | 0 => .relative
  | 2 => .doubleRoot
  | _ => .root

/-- A component that stands for nothing. -/
def isIdle (part : List Char) : Bool :=
  part == [] || part == ['.']

/-- The components of a written path, without those that stand for nothing. -/
def partsOf (chars : List Char) : List String :=
  ((Text.splitOn '/' chars).filter fun part => !isIdle part).map String.ofList

/-- Read a path; every text is one. -/
def ofText (text : String) : Path :=
  ⟨anchorOf text.toList, partsOf text.toList⟩

/-- The written form; the path with no components and no anchor is `.`. -/
def text (path : Path) : String :=
  match path.anchor, path.parts with
  | .relative, [] => "."
  | anchor, parts => anchor.text ++ Text.joinWith "/" parts

/-- The absolute path of a list of components. -/
def absolute (parts : List String) : Path :=
  ⟨.root, parts⟩

/-- Whether a path has an anchor. -/
def isAbsolute (path : Path) : Bool :=
  path.anchor != .relative

/-- The last component, empty when there is none. -/
def name (path : Path) : String :=
  path.parts.getLast?.getD ""

/-- The path without its last component; an anchor alone is its own parent. -/
def parent (path : Path) : Path :=
  ⟨path.anchor, path.parts.dropLast⟩

/-- Append a path; an absolute one replaces what was there. -/
def join (path other : Path) : Path :=
  match other.anchor with
  | .relative => ⟨path.anchor, path.parts ++ other.parts⟩
  | _ => other

instance : HDiv Path String Path where
  hDiv path text := path.join (ofText text)

/-- The path itself and the directories above it, nearest first. -/
def upward (path : Path) : List Path :=
  (List.range (path.parts.length + 1)).map fun dropped =>
    ⟨path.anchor, path.parts.take (path.parts.length - dropped)⟩

/-- Whether a path is `root` or lies below it, compared by whole components. -/
def isWithin (path root : Path) : Bool :=
  path.anchor == root.anchor && root.parts.isPrefixOf path.parts

end Path

end AnalyzerSessions
