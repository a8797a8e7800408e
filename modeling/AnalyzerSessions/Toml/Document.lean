import AnalyzerSessions.Text.Line
import AnalyzerSessions.Toml.Scalar

namespace AnalyzerSessions.Toml

open Text Value

/-!
# Configuration files

A TOML document as the table it stands for.  Tables may be opened once, inline
tables and arrays are closed for later additions, and the tables that dotted keys
open stay closed to headers of later sections.
-/

/-- The path of a table or a value in a document. -/
abbrev Key := List String

mutual

/-- Drop blanks, ends of lines and comments between the items of an array or an inline table. -/
def skipFiller : List Char → Except Fault (List Char)
  | [] => .ok []
  | char :: rest =>
    if isSpaceOrNewline char then skipFiller rest
    else if char = '#' then skipFillerComment rest
    else .ok (char :: rest)

/-- Drop the rest of a comment, and the filler after it. -/
def skipFillerComment : List Char → Except Fault (List Char)
  | [] => .ok []
  | char :: rest =>
    if char = '\n' then skipFiller rest
    else if isIllegal char then .error .malformed
    else skipFillerComment rest

end

/-- Drop a comment up to the end of its line. -/
def skipComment (chars : List Char) : Except Fault (List Char) :=
  match chars with
  | '#' :: rest =>
    if (rest.takeWhile (· != '\n')).any isIllegal then .error .malformed
    else .ok (rest.dropWhile (· != '\n'))
  | _ => .ok chars

/-- One part of a key, with or without quotes. -/
def keyPart (chars : List Char) : Parsed String :=
  match chars with
  | [] => .error .malformed
  | char :: rest =>
    if isBareKeyChar char then
      .ok (String.ofList (chars.takeWhile isBareKeyChar), chars.dropWhile isBareKeyChar)
    else if char = '\'' then
      (literalString rest).map fun found => (String.ofList found.1, found.2)
    else if char = '"' then
      (basicString rest).map fun found => (String.ofList found.1, found.2)
    else .error .malformed

/-- A key of at most `room` parts with points between them and blanks around the points. -/
def keyWithin : (room : Nat) → List Char → Parsed Key
  | 0, chars =>
    match keyPart chars with
    | .error fault => .error fault
    | .ok _ => .error .tooDeep
  | room + 1, chars =>
    match keyPart chars with
    | .error fault => .error fault
    | .ok (part, afterPart) =>
      match skipSpace afterPart with
      | '.' :: rest =>
        (keyWithin room (skipSpace rest)).map fun found => (part :: found.1, found.2)
      | rest => .ok ([part], rest)

/-- How many parts a key may have. -/
def maxParts : Nat := 1000

/-- A key. -/
def key (chars : List Char) : Parsed Key :=
  keyWithin maxParts chars

/--
Change the fields of the table at a path, opening tables that are not there.
With `throughLists` a list of tables on the way stands for its last table.
-/
def changeTable?
    (throughLists : Bool)
    (change : Fields → Option Fields) :
    Key → Fields → Option Fields
  | [], fields => change fields
  | part :: rest, fields =>
    match lookup? part fields with
    | none =>
      (changeTable? throughLists change rest []).map fun inner =>
        insertField part (.table inner) fields
    | some (.table inner) =>
      (changeTable? throughLists change rest inner).map fun changed =>
        insertField part (.table changed) fields
    | some (.array items) =>
      match throughLists, items.getLast? with
      | true, some (.table inner) =>
        (changeTable? throughLists change rest inner).map fun changed =>
          insertField part (.array (items.dropLast ++ [.table changed])) fields
      | _, _ => none
    | some _ => none

/-- Give a key of a table a value, if it has none yet. -/
def addField? (stem : String) (value : Value) (fields : Fields) : Option Fields :=
  match lookup? stem fields with
  | some _ => none
  | none => some (insertField stem value fields)

/-- Give a key path a value, if it has none yet. -/
def addValue? (throughLists : Bool) (path : Key) (value : Value) (fields : Fields) :
    Option Fields :=
  changeTable? throughLists (addField? (path.getLast?.getD "") value) path.dropLast fields

/-- Append an empty table to the list of tables at a key of a table. -/
def addListTable? (stem : String) (fields : Fields) : Option Fields :=
  match lookup? stem fields with
  | none => some (insertField stem (.array [.table []]) fields)
  | some (.array items) => some (insertField stem (.array (items ++ [.table []])) fields)
  | some _ => none

/-- Whether a key or a table above it is closed. -/
def isClosed (closed : List Key) (path : Key) : Bool :=
  closed.any fun key => key.isPrefixOf path

/-- Turn a failed change into a fault. -/
def orMalformed {α : Type} : Option α → Except Fault α
  | some value => .ok value
  | none => .error .malformed

/-- Whether a text begins with three equal characters. -/
def startsTriple (char : Char) (chars : List Char) : Bool :=
  chars.take 3 == [char, char, char]

/-- How many arrays and inline tables may stand around a value, for a document that is read near the
top of the calls that are open. -/
def maxNesting : Nat := 400

mutual

/-- One value, with `level` arrays and inline tables around it. -/
def value : (level fuel : Nat) → List Char → Parsed Value
  | _, 0, _ => .error .malformed
  | level, fuel + 1, chars =>
    if maxNesting < level then .error .tooDeep else
    match chars with
    | '"' :: rest =>
      (if startsTriple '"' chars then linesString '"' (chars.drop 3) else basicString rest).map
        fun found => (.text (String.ofList found.1), found.2)
    | '\'' :: rest =>
      (if startsTriple '\'' chars then linesString '\'' (chars.drop 3) else literalString rest).map
        fun found => (.text (String.ofList found.1), found.2)
    | 't' :: 'r' :: 'u' :: 'e' :: rest => .ok (.truth true, rest)
    | 'f' :: 'a' :: 'l' :: 's' :: 'e' :: rest => .ok (.truth false, rest)
    | '[' :: rest =>
      match skipFiller rest with
      | .error fault => .error fault
      | .ok (']' :: remaining) => .ok (.array [], remaining)
      | .ok start => (items (level + 1) fuel start).map fun found => (.array found.1, found.2)
    | '{' :: rest =>
      match skipFiller rest with
      | .error fault => .error fault
      | .ok ('}' :: remaining) => .ok (.table [], remaining)
      | .ok start =>
        (entries (level + 1) fuel [] [] start).map fun found => (.table found.1, found.2)
    | _ => unquoted chars

/-- The items of an array up to its closing bracket; a comma may stand before it. -/
def items : (level fuel : Nat) → List Char → Parsed (List Value)
  | _, 0, _ => .error .malformed
  | level, fuel + 1, chars =>
    match value level fuel chars with
    | .error fault => .error fault
    | .ok (item, afterItem) =>
      match skipFiller afterItem with
      | .error fault => .error fault
      | .ok (']' :: rest) => .ok ([item], rest)
      | .ok (',' :: rest) =>
        match skipFiller rest with
        | .error fault => .error fault
        | .ok (']' :: remaining) => .ok ([item], remaining)
        | .ok start => (items level fuel start).map fun found => (item :: found.1, found.2)
      | .ok _ => .error .malformed

/-- A key, an equals sign and a value. -/
def pair : (level fuel : Nat) → List Char → Parsed (Key × Value)
  | _, 0, _ => .error .malformed
  | level, fuel + 1, chars =>
    match key chars with
    | .error fault => .error fault
    | .ok (path, '=' :: rest) =>
      (value level fuel (skipSpace rest)).map fun found => ((path, found.1), found.2)
    | .ok _ => .error .malformed

/-- The entries of an inline table up to its closing brace, added to those read so far; a comma
may stand before the brace. -/
def entries : (level fuel : Nat) → (closed : List Key) → Fields → List Char → Parsed Fields
  | _, 0, _, _, _ => .error .malformed
  | level, fuel + 1, closed, done, chars =>
    match pair level fuel chars with
    | .error fault => .error fault
    | .ok ((path, content), afterPair) =>
      if isClosed closed path then .error .malformed
      else
        match addValue? false path content done with
        | none => .error .malformed
        | some extended =>
          match skipFiller afterPair with
          | .error fault => .error fault
          | .ok ('}' :: rest) => .ok (extended, rest)
          | .ok (',' :: rest) =>
            match skipFiller rest with
            | .error fault => .error fault
            | .ok ('}' :: remaining) => .ok (extended, remaining)
            | .ok start =>
              entries level fuel (if isContainer content then path :: closed else closed) extended
                start
          | .ok _ => .error .malformed

end

/-- A document as far as it is read. -/
structure Document where
  fields : Fields
  /-- The header of the current section. -/
  header : Key
  /-- The tables that no header may open again. -/
  opened : List Key
  /-- The tables that become opened with the next header. -/
  pending : List Key
  /-- The arrays and inline tables, closed with everything below them. -/
  closed : List Key

namespace Document

/-- The document before its first line. -/
def empty : Document := ⟨[], [], [], [], []⟩

/-- Open the tables that were waiting for the next header. -/
def settle (document : Document) : Document :=
  { document with opened := document.pending ++ document.opened, pending := [] }

/-- Begin the section of a table. -/
def openTable? (document : Document) (path : Key) : Option Document :=
  if document.opened.contains path || isClosed document.closed path then none
  else
    (changeTable? true some path document.fields).map fun fields =>
      { document with fields, header := path, opened := path :: document.opened }

/-- Begin the section of a new table in a list of tables. -/
def openListTable? (document : Document) (path : Key) : Option Document :=
  if isClosed document.closed path then none
  else
    (changeTable? true (addListTable? (path.getLast?.getD "")) path.dropLast document.fields).map
      fun fields =>
        { document with
          fields
          header := path
          opened := path :: document.opened.filter fun key => !path.isPrefixOf key
          closed := document.closed.filter fun key => !path.isPrefixOf key }

/-- The proper nonempty beginnings of a key. -/
def properBeginnings (path : Key) : List Key :=
  (List.range (path.length - 1)).map fun count => path.take (count + 1)

/-- Add a key with its value to the current section. -/
def addPair? (document : Document) (path : Key) (content : Value) : Option Document :=
  let dotted := (properBeginnings path).map (document.header ++ ·)
  let whole := document.header ++ path
  if dotted.any document.opened.contains then none
  else if isClosed document.closed whole.dropLast then none
  else
    (addValue? true whole content document.fields).map fun fields =>
      { document with
        fields
        pending := dotted ++ document.pending
        closed := if isContainer content then whole :: document.closed else document.closed }

/-- A statement at the beginning of a line. -/
def statement (document : Document) (chars : List Char) : Parsed Document :=
  match chars with
  | '[' :: '[' :: rest =>
    match key (skipSpace rest) with
    | .error fault => .error fault
    | .ok (path, ']' :: ']' :: remaining) =>
      (orMalformed (document.settle.openListTable? path)).map fun next => (next, remaining)
    | .ok _ => .error .malformed
  | '[' :: rest =>
    match key (skipSpace rest) with
    | .error fault => .error fault
    | .ok (path, ']' :: remaining) =>
      (orMalformed (document.settle.openTable? path)).map fun next => (next, remaining)
    | .ok _ => .error .malformed
  | _ =>
    match pair 0 (2 * chars.length + 2) chars with
    | .error fault => .error fault
    | .ok ((path, content), remaining) =>
      (orMalformed (document.addPair? path content)).map fun next => (next, remaining)

/-- Read the lines of a document. -/
def lines : (fuel : Nat) → Document → List Char → Except Fault Document
  | 0, _, _ => .error .malformed
  | fuel + 1, document, chars =>
    match skipSpace chars with
    | [] => .ok document
    | '\n' :: rest => lines fuel document rest
    | start =>
      let read : Parsed Document :=
        if start.head? = some '#' then .ok (document, start) else document.statement start
      match read with
      | .error fault => .error fault
      | .ok (next, afterStatement) =>
        match skipComment (skipSpace afterStatement) with
        | .error fault => .error fault
        | .ok [] => .ok next
        | .ok ('\n' :: rest) => lines fuel next rest
        | .ok _ => .error .malformed

end Document

/-- Read a document. -/
def parse (chars : List Char) : Except Fault Fields :=
  let source := dropCarriageReturns chars
  (Document.empty.lines (source.length + 1) source).map Document.fields

end AnalyzerSessions.Toml
