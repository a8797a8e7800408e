import AnalyzerSessions.Edit.Basic
import AnalyzerSessions.Text.Position

namespace AnalyzerSessions

open Text

/-!
# Splicing edits into a text

The positions of all edits are read against the text before any of them.  The
edits are then put in from the back to the front, so that an edit does not move
the places of those still to come; among edits that begin at the same place the
later one goes in first and its text ends up behind.
-/

/-- An edit with its range as offsets into a text. -/
structure Span where
  start : Int
  stop : Int
  newText : List Char
  deriving Repr, DecidableEq

/-- The span of an edit in a text. -/
def TextEdit.span (encoding : Encoding) (text : List Char) (edit : TextEdit) : Span :=
  ⟨positionToOffset text edit.range.start.line edit.range.start.character encoding,
    positionToOffset text edit.range.stop.line edit.range.stop.character encoding,
    edit.newText.toList⟩

/-- Replace the text of one span. -/
def Span.put (text : List Char) (span : Span) : List Char :=
  before text span.start ++ span.newText ++ after text span.stop

/-- The spans from the back of the text to the front; equal starts from the last to the first. -/
def backToFront (spans : List Span) : List Span :=
  (spans.mergeSort fun left right => left.start ≤ right.start).reverse

/-- Put all edits into a text. -/
def splice (encoding : Encoding) (edits : List TextEdit) (text : List Char) : List Char :=
  (backToFront (edits.map (TextEdit.span encoding text))).foldl Span.put text

end AnalyzerSessions
