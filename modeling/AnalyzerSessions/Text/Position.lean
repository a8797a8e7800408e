import AnalyzerSessions.Text.Line
import AnalyzerSessions.Text.Utf8

namespace AnalyzerSessions.Text

/-!
# Positions

A position is a line number and a count of code units in that line.  The code
units are those of the encoding that client and server agreed on.
-/

/-- The unit in which a position counts the characters of a line. -/
inductive Encoding where
  | utf8
  | utf16
  | utf32
  /-- An encoding nobody knows counts one unit for each character. -/
  | unknown
  deriving Repr, DecidableEq

/-- The encoding with a given name. -/
def Encoding.ofName (name : String) : Encoding :=
  if name = "utf-8" then .utf8
  else if name = "utf-16" then .utf16
  else if name = "utf-32" then .utf32
  else .unknown

/-- How many code units a character has. -/
def Encoding.units : Encoding → Char → Nat
  | .utf8, char => (Utf8.encodeChar char).length
  | .utf16, char => if char.toNat > 0xffff then 2 else 1
  | .utf32, _ => 1
  | .unknown, _ => 1

/-- Walk along a line from a given unit count until `target` units are passed. -/
def indexFrom (encoding : Encoding) (target : Int) (units : Nat) : List Char → Nat
  | [] => 0
  | char :: rest =>
    if (units : Int) ≥ target then 0
    else indexFrom encoding target (units + encoding.units char) rest + 1

/--
The index in a line of the place `target` units after its start, clamped to the
end of the line.  In UTF-32 the count itself is taken, below zero too.
-/
def characterToIndex (line : List Char) (target : Int) (encoding : Encoding) : Int :=
  match encoding with
  | .utf32 => min target line.length
  | _ => indexFrom encoding target 0 line

/-- The offset of a position, looked up in the lines that begin at a given offset and number. -/
def offsetInLines (encoding : Encoding) (line character : Int) :
    (number offset : Nat) → List (List Char) → Int
  | _, offset, [] => offset
  | number, offset, current :: rest =>
    if (number : Int) = line then offset + characterToIndex (chomp current) character encoding
    else offsetInLines encoding line character (number + 1) (offset + current.length) rest

/-- The offset of a position in a text; the end of the text for a line it does not have. -/
def positionToOffset (content : List Char) (line character : Int) (encoding : Encoding) : Int :=
  offsetInLines encoding line character 0 0 (lines content)

/-- The index that an offset stands for; an offset below zero counts from the end. -/
def sliceIndex (length : Nat) (offset : Int) : Nat :=
  if offset < 0 then (length + offset).toNat else min offset.toNat length

/-- The text before an offset. -/
def before (content : List Char) (offset : Int) : List Char :=
  content.take (sliceIndex content.length offset)

/-- The text from an offset on. -/
def after (content : List Char) (offset : Int) : List Char :=
  content.drop (sliceIndex content.length offset)

end AnalyzerSessions.Text
