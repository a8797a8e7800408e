import AnalyzerSessions.Path.Basic
import AnalyzerSessions.Text.Line
import AnalyzerSessions.Text.Quoted
import AnalyzerSessions.Text.Utf8

namespace AnalyzerSessions

open Text

/-!
# File trees

The files that the program sees: entries by the components of their absolute
path.  `locate` walks a path the way the system does when a file is opened,
through links and with an error for everything that is missing.  What the system
does not allow is part of a tree: directories that may not be searched, files that
may not be read or written, and names and paths that are too long.  Asking whether
something is there then fails too.
-/

/-- What stands at a place of the tree. -/
inductive Entry where
  | file (bytes : List UInt8)
  | link (target : String)
  | directory
  deriving Repr, DecidableEq

/-- A use of what stands at a place. -/
inductive Access where
  | search
  | read
  | write
  deriving Repr, DecidableEq

/-- What a system does not allow. -/
structure Restrictions where
  /-- The uses that are denied, each with its place. -/
  denied : List (List String × Access)
  /-- The most bytes of a name, where there is a limit. -/
  maxName : Option Nat
  /-- The most bytes of a written path, where there is a limit. -/
  maxPath : Option Nat
  deriving Repr, DecidableEq, Inhabited

namespace Restrictions

/-- A system that allows everything. -/
def free : Restrictions := ⟨[], none, none⟩

/-- The usual limits, where nothing is denied. -/
def usual : Restrictions := ⟨[], some 255, some 4095⟩

/-- Whether a use of what stands at a place is denied. -/
def denies (restrictions : Restrictions) (place : List String) (use : Access) : Bool :=
  restrictions.denied.contains (place, use)

/-- Whether a text has more bytes than a limit allows. -/
def exceeds (limit : Option Nat) (text : String) : Bool :=
  limit.any fun most => most < text.utf8ByteSize

end Restrictions

/-- The entries of a file tree, with every directory above an entry among them, and what the system
does not allow. -/
structure FileTree where
  entries : List (List String × Entry)
  restrictions : Restrictions
  deriving Repr, DecidableEq, Inhabited

/-- Why an access to a file fails. -/
inductive FileFault where
  | missing
  | exists
  | notDirectory
  | isDirectory
  | tooManyLinks
  | forbidden
  | nameTooLong
  deriving Repr, DecidableEq

/-- The system's number and words for a fault. -/
def FileFault.text : FileFault → String
  | .missing => "[Errno 2] No such file or directory"
  | .exists => "[Errno 17] File exists"
  | .notDirectory => "[Errno 20] Not a directory"
  | .isDirectory => "[Errno 21] Is a directory"
  | .tooManyLinks => "[Errno 40] Too many levels of symbolic links"
  | .forbidden => "[Errno 13] Permission denied"
  | .nameTooLong => "[Errno 36] File name too long"

/-- Whether a fault means that nothing is there, and not that nobody may look. -/
def FileFault.isAbsence : FileFault → Bool
  | .forbidden => false
  | .nameTooLong => false
  | _ => true

/-- A failed access. -/
inductive FileError where
  | refused (fault : FileFault) (path : Path)
  | nullByte
  | linkLoop (path : Path)
  /-- Links are nested too deeply to be followed. -/
  | tooDeep
  /-- A relative path begins nowhere, since the working directory was removed. -/
  | noWorkingDirectory
  | undecodable (fault : Utf8.Fault)
  deriving Repr, DecidableEq

/-- The message of a failed access. -/
def FileError.message : FileError → String
  | .refused fault path => fault.text ++ ": " ++ quoted path.text
  | .nullByte => "embedded null byte"
  | .linkLoop path => "Symlink loop from " ++ quoted path.text
  | .tooDeep => "links are nested too deeply"
  | .noWorkingDirectory => FileFault.missing.text
  | .undecodable fault => fault.message

namespace FileTree

/-- The entry with given components among a list of entries. -/
def findEntry? (parts : List String) : List (List String × Entry) → Option Entry
  | [] => none
  | (place, entry) :: rest => if place = parts then some entry else findEntry? parts rest

/-- The entry at a place; the root is always a directory. -/
def entry? (tree : FileTree) (parts : List String) : Option Entry :=
  if parts.isEmpty then some .directory else findEntry? parts tree.entries

/-- Put an entry at a place of a list of entries, in the place of an old one or at the end. -/
def putEntry (parts : List String) (entry : Entry) :
    List (List String × Entry) → List (List String × Entry)
  | [] => [(parts, entry)]
  | (place, old) :: rest =>
    if place = parts then (place, entry) :: rest else (place, old) :: putEntry parts entry rest

/-- Put an entry at a place. -/
def put (tree : FileTree) (parts : List String) (entry : Entry) : FileTree :=
  { tree with entries := putEntry parts entry tree.entries }

/-- Make sure that a directory stands at a place where nothing stands. -/
def ensureDirectory (tree : FileTree) (parts : List String) : FileTree :=
  if (tree.entry? parts).isSome then tree else tree.put parts .directory

/-- Make sure that every place above a given one is taken. -/
def ensureAbove (tree : FileTree) (parts : List String) : FileTree :=
  (List.range parts.length).foldl (fun tree count => tree.ensureDirectory (parts.take count)) tree

/-- A tree with given entries, the directories above them and a working directory. -/
def ofEntries (entries : List (List String × Entry)) (workingDirectory : List String)
    (restrictions : Restrictions) : FileTree :=
  let placed := entries.foldl (fun (tree : FileTree) entry => tree.put entry.1 entry.2)
    ⟨[], restrictions⟩
  let closed := entries.foldl (fun tree entry => tree.ensureAbove entry.1) placed
  (closed.ensureAbove workingDirectory).ensureDirectory workingDirectory

/-- The number of links that may be followed in one walk. -/
def maxLinks : Nat := 40

/-- The components of the target of a link. -/
def targetParts (target : String) : List String :=
  (splitOn '/' target.toList).map String.ofList

/-- Where the target of a link begins, for a link in a given directory. -/
def targetBase (directory : List String) (target : String) : List String :=
  if target.toList.head? = some '/' then [] else directory

/-- Why the system does not look up a name in a directory. -/
def refusal? (tree : FileTree) (directory : List String) (name : String) : Option FileFault :=
  if name = "" then none
  else if tree.restrictions.denies directory .search then some .forbidden
  else if Restrictions.exceeds tree.restrictions.maxName name then some .nameTooLong
  else none

/-- The end of a walk: an existing place, or a free name in an existing directory. -/
inductive Location where
  | present (parts : List String) (entry : Entry)
  | vacant (parts : List String)
  deriving Repr, DecidableEq

/--
Walk from a place along components.  Links are followed, a last one only when
`followLast` is set.
-/
def walk (tree : FileTree) (followLast : Bool) :
    (links : Nat) → (place : List String) → List String → Except FileFault Location
  | _, place, [] =>
    match tree.entry? place with
    | some entry => .ok (.present place entry)
    | none => .error .missing
  | links, place, name :: rest =>
    match tree.entry? place with
    | some .directory =>
      match tree.refusal? place name with
      | some fault => .error fault
      | none =>
        if name = "" ∨ name = "." then walk tree followLast links place rest
        else if name = ".." then walk tree followLast links place.dropLast rest
        else
          match tree.entry? (place ++ [name]) with
          | none => if rest = [] then .ok (.vacant (place ++ [name])) else .error .missing
          | some (.link target) =>
            if rest = [] ∧ followLast = false then .ok (.present (place ++ [name]) (.link target))
            else
              match links with
              | 0 => .error .tooManyLinks
              | links + 1 =>
                walk tree followLast links (targetBase place target) (targetParts target ++ rest)
          | some _ => walk tree followLast links (place ++ [name]) rest
    | some _ => .error .notDirectory
    | none => .error .missing
  termination_by links _ parts => (links, parts.length)

end FileTree

/-- The file tree together with the working directory, from which relative paths begin.  The directory
may have been removed. -/
structure Disk where
  tree : FileTree
  workingDirectory : List String
  deriving Repr, DecidableEq, Inhabited

namespace Disk

open FileTree

/-- The components of a path from the root on. -/
def fromRoot (disk : Disk) (path : Path) : List String :=
  if path.isAbsolute then path.parts else disk.workingDirectory ++ path.parts

/-- Whether a path holds a null character, which no file name can. -/
def hasNull (path : Path) : Bool :=
  path.parts.any fun part => part.toList.contains (Char.ofNat 0)

/-- Where the components of a path begin. -/
def origin (disk : Disk) (path : Path) : List String :=
  if path.isAbsolute then [] else disk.workingDirectory

/-- Walk a path; a link at its end is followed only when `followLast` is set. -/
def reach (disk : Disk) (followLast : Bool) (path : Path) : Except FileFault Location :=
  if Restrictions.exceeds disk.tree.restrictions.maxPath path.text then .error .nameTooLong
  else walk disk.tree followLast maxLinks (disk.origin path) path.parts

/-- Walk a path through all links. -/
def locate (disk : Disk) (path : Path) : Except FileFault Location :=
  disk.reach true path

/-- Whether the system denies a use of what stands at a place. -/
def denies (disk : Disk) (parts : List String) (use : Access) : Bool :=
  disk.tree.restrictions.denies parts use

/-- The entry that a path leads to. -/
def stat (disk : Disk) (path : Path) : Except FileFault Entry :=
  match disk.locate path with
  | .error fault => .error fault
  | .ok (.vacant _) => .error .missing
  | .ok (.present _ entry) => .ok entry

/-- The entry that a path leads to, if there is one; that nobody may look there is a failure. -/
def entryAt? (disk : Disk) (path : Path) : Except FileError (Option Entry) :=
  if hasNull path then .ok none
  else
    match disk.stat path with
    | .ok entry => .ok (some entry)
    | .error fault => if fault.isAbsence then .ok none else .error (.refused fault path)

/-- Whether something stands where a path leads. -/
def contains (disk : Disk) (path : Path) : Except FileError Bool :=
  (disk.entryAt? path).map Option.isSome

/-- Whether a path leads to a file. -/
def isFile (disk : Disk) (path : Path) : Except FileError Bool :=
  (disk.entryAt? path).map fun entry =>
    match entry with
    | some (.file _) => true
    | _ => false

/-- Whether a path leads to a directory. -/
def isDirectory (disk : Disk) (path : Path) : Except FileError Bool :=
  (disk.entryAt? path).map fun entry => entry == some .directory

/-- Whether what stands where a path leads may be read. -/
def isReadable (disk : Disk) (path : Path) : Bool :=
  match disk.locate path with
  | .ok (.present parts _) => !disk.denies parts .read
  | _ => false

/-- The bytes of a file. -/
def readBytes (disk : Disk) (path : Path) : Except FileError (List UInt8) :=
  if hasNull path then .error .nullByte
  else
    match disk.locate path with
    | .error fault => .error (.refused fault path)
    | .ok (.vacant _) => .error (.refused .missing path)
    | .ok (.present parts entry) =>
      if disk.denies parts .read then .error (.refused .forbidden path)
      else
        match entry with
        | .file bytes => .ok bytes
        | _ => .error (.refused .isDirectory path)

/-- The text of a file, with its line ends unified. -/
def readText (disk : Disk) (path : Path) : Except FileError String :=
  match disk.readBytes path with
  | .error error => .error error
  | .ok bytes =>
    match Utf8.decode bytes with
    | .error fault => .error (.undecodable fault)
    | .ok chars => .ok (String.ofList (unifyLineEnds chars))

/-- The texts of all files by their paths, with replacements for what is not text. -/
def texts (disk : Disk) : List (Path × String) :=
  disk.tree.entries.filterMap fun entry =>
    match entry.2 with
    | .file bytes => some (Path.absolute entry.1, String.ofList (Utf8.decodeReplacing bytes))
    | _ => none

/-- Change the bytes of a file; one that does not exist begins empty, in a directory where something
may be written. -/
def update (disk : Disk) (path : Path) (change : List UInt8 → List UInt8) :
    Except FileError Disk :=
  if hasNull path then .error .nullByte
  else
    match disk.locate path with
    | .error fault => .error (.refused fault path)
    | .ok (.present parts (.file bytes)) =>
      if disk.denies parts .write then .error (.refused .forbidden path)
      else .ok { disk with tree := disk.tree.put parts (.file (change bytes)) }
    | .ok (.present _ _) => .error (.refused .isDirectory path)
    | .ok (.vacant parts) =>
      if disk.denies parts.dropLast .write then .error (.refused .forbidden path)
      else .ok { disk with tree := disk.tree.put parts (.file (change [])) }

/-- Write a text as the whole content of a file. -/
def writeText (disk : Disk) (path : Path) (text : String) : Except FileError Disk :=
  disk.update path fun _ => Utf8.encode text.toList

/-- Append a text to a file. -/
def appendText (disk : Disk) (path : Path) (text : String) : Except FileError Disk :=
  disk.update path fun bytes => bytes ++ Utf8.encode text.toList

/-- Make one directory in an existing one. -/
def makeDirectory (disk : Disk) (path : Path) : Except FileFault Disk :=
  match disk.reach false path with
  | .error fault => .error fault
  | .ok (.present _ _) => .error .exists
  | .ok (.vacant parts) =>
    if disk.denies parts.dropLast .write then .error .forbidden
    else .ok { disk with tree := disk.tree.put parts .directory }

/-- What becomes of the files when making a directory failed: a directory may be there already. -/
def keepDirectory (disk : Disk) (path : Path) (fault : FileFault) : Except FileError Disk :=
  match disk.isDirectory path with
  | .error error => .error error
  | .ok true => .ok disk
  | .ok false => .error (.refused fault path)

/-- Make a directory and those above it that are missing; one that exists is kept. -/
def makeDirectories (disk : Disk) (path : Path) : Except FileError Disk :=
  if hasNull path then .error .nullByte
  else
  match disk.makeDirectory path with
  | .ok made => .ok made
  | .error .missing =>
    if path.parts = [] then .error (.refused .missing path)
    else
      match makeDirectories disk path.parent with
      | .error error => .error error
      | .ok above =>
        match above.makeDirectory path with
        | .ok made => .ok made
        | .error .missing => .error (.refused .missing path)
        | .error fault => above.keepDirectory path fault
  | .error fault => disk.keepDirectory path fault
  termination_by path.parts.length
  decreasing_by
    rename_i nonempty
    simp only [Path.parent, List.length_dropLast]
    have := List.length_pos_iff.mpr nonempty
    omega

end Disk

end AnalyzerSessions
