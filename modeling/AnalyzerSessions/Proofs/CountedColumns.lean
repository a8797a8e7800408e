import AnalyzerSessions.Proofs.SplicedTexts

namespace AnalyzerSessions

open Text

/-!
# Counted columns

In UTF-32 a character of a position is the index itself, clamped to the end of the line, and
in every other encoding the index is found by counting code units along the line.  With one
unit for each character both come to the same place for every count that is not below zero,
and to different ones below: counting stays at the beginning of the line, the count itself
does not.

An index is within its line unless the count is below zero in UTF-32.  So no text is taken
from its end when edits are put in whose positions are counted from the beginnings of lines.
-/

/-! ## Counting along a line -/

namespace Text

/-- Counting one unit for each character leads to the place that has the number counted to. -/
theorem indexFrom_eq_min
    {loop : Encoding}
    (single : ∀ char, loop.units char = 1)
    (target : Int)
    (units : Nat)
    (line : List Char) :
    (indexFrom loop target units line : Int) = max 0 (min (target - units) line.length) := by
  induction line generalizing units with
  | nil =>
      simp only [indexFrom, List.length_nil]
      omega
  | cons char rest inductionHypothesis =>
      have further := inductionHypothesis (units + 1)
      rw [indexFrom, single]
      split
      · omega
      · simp only [List.length_cons]
        omega

/-- A count from the beginning of a line on; in UTF-32 none below zero is. -/
def IsCounted (encoding : Encoding) (character : Int) : Prop :=
  encoding = .utf32 → 0 ≤ character

theorem characterToIndex_nonneg_iff
    {line : List Char}
    {target : Int}
    {encoding : Encoding} :
    0 ≤ characterToIndex line target encoding ↔ IsCounted encoding target := by
  refine ⟨?_, characterToIndex_nonneg line target encoding⟩
  rintro isIndex rfl
  simp only [characterToIndex] at isIndex
  omega

end Text

/-! ## Putting edits in -/

/-- Both ends of an edit are counted from the beginnings of lines. -/
structure TextEdit.IsCounted (encoding : Encoding) (edit : TextEdit) : Prop where
  start : Text.IsCounted encoding edit.range.start.character
  stop : Text.IsCounted encoding edit.range.stop.character

/-- Both offsets of a span are counted from the beginning of the text. -/
structure Span.IsFromFront (span : Span) : Prop where
  start : 0 ≤ span.start
  stop : 0 ≤ span.stop

/-- Replace the text of one span, with both of its offsets counted from the beginning. -/
def Span.putFromFront (text : List Char) (span : Span) : List Char :=
  text.take span.start.toNat ++ span.newText ++ text.drop span.stop.toNat

theorem TextEdit.IsCounted.isFromFront
    {encoding : Encoding}
    {edit : TextEdit}
    (counted : edit.IsCounted encoding)
    (text : List Char) :
    (edit.span encoding text).IsFromFront :=
  ⟨positionToOffset_nonneg _ _ _ _ counted.start, positionToOffset_nonneg _ _ _ _ counted.stop⟩

theorem Span.IsFromFront.put_eq
    {span : Span}
    (fromFront : span.IsFromFront)
    (text : List Char) :
    Span.put text span = Span.putFromFront text span := by
  have isIndex : ∀ {offset : Int}, 0 ≤ offset →
      sliceIndex text.length offset = min offset.toNat text.length :=
    fun notBelow => if_neg (Int.not_lt.mpr notBelow)
  rw [Span.put, before, after, isIndex fromFront.start, isIndex fromFront.stop,
    ← List.take_eq_take_min, ← List.drop_eq_drop_min, Span.putFromFront]

/-- Spans whose offsets are counted from the beginning are put in without the end of the text. -/
theorem foldl_put_eq
    {spans : List Span}
    (fromFront : ∀ span ∈ spans, span.IsFromFront)
    (text : List Char) :
    spans.foldl Span.put text = spans.foldl Span.putFromFront text := by
  induction spans generalizing text with
  | nil =>
      rfl
  | cons span rest inductionHypothesis =>
      rw [List.forall_mem_cons] at fromFront
      rw [List.foldl_cons, List.foldl_cons, fromFront.1.put_eq]
      exact inductionHypothesis fromFront.2 _

namespace Text

/-- In UTF-32 the place in a line is the one that counting characters leads to, for every count that
is not below zero and for no other.  It is within the line in every encoding, unless the count is
below zero in UTF-32.  Edits that are counted from the beginnings of lines are put in with offsets
from the beginning of the text. -/
theorem characterToIndex_agrees
    (line : List Char)
    (target : Int)
    (encoding : Encoding)
    (edits : List TextEdit)
    (text : List Char) :
    (∀ loop : Encoding, (∀ char, loop.units char = 1) →
      (characterToIndex line target .utf32 = indexFrom loop target 0 line ↔ 0 ≤ target)) ∧
    (0 ≤ characterToIndex line target encoding ↔ IsCounted encoding target) ∧
    characterToIndex line target encoding ≤ line.length ∧
    ((∀ edit ∈ edits, edit.IsCounted encoding) →
      (∀ edit ∈ edits, (edit.span encoding text).IsFromFront) ∧
      splice encoding edits text =
        (backToFront (edits.map (TextEdit.span encoding text))).foldl Span.putFromFront text) := by
  refine ⟨fun loop single => ?_, characterToIndex_nonneg_iff, characterToIndex_le_length .., ?_⟩
  · have counted := indexFrom_eq_min single target 0 line
    rw [counted, characterToIndex]
    omega
  · intro counted
    have fromFront : ∀ edit ∈ edits, (edit.span encoding text).IsFromFront :=
      fun edit member => (counted edit member).isFromFront text
    refine ⟨fromFront, foldl_put_eq (fun span member => ?_) text⟩
    obtain ⟨edit, isEdit, rfl⟩ : ∃ edit ∈ edits, edit.span encoding text = span := by
      simpa [backToFront] using member
    exact fromFront edit isEdit

/-- A line with a character of more than one code unit in other encodings. -/
def emojiLine : List Char :=
  ['a', '😀', 'b']

theorem emojiLine_agrees :
    (∀ char, Encoding.unknown.units char = 1) ∧ (0 : Int) ≤ 2 ∧
      characterToIndex emojiLine 2 .utf32 = indexFrom .unknown 2 0 emojiLine ∧
      (∀ edit ∈ [Host.lineEdit 1 2 "X"], edit.IsCounted .utf32) ∧
      splice .utf32 [Host.lineEdit 1 2 "X"] emojiLine = ['a', 'X', 'b'] := by
  have single : ∀ char, Encoding.unknown.units char = 1 := fun _ => rfl
  have counted : ∀ edit ∈ [Host.lineEdit 1 2 "X"], edit.IsCounted .utf32 := by
    rw [List.forall_mem_singleton]
    exact ⟨fun _ => by decide, fun _ => by decide⟩
  obtain ⟨agrees, -, -, spliced⟩ :=
    characterToIndex_agrees emojiLine 2 .utf32 [Host.lineEdit 1 2 "X"] emojiLine
  have isSpan : [Host.lineEdit 1 2 "X"].map (TextEdit.span .utf32 emojiLine) = [⟨1, 2, ['X']⟩] := by
    decide +kernel
  refine ⟨single, by decide, (agrees .unknown single).mpr (by decide), counted, ?_⟩
  rw [(spliced counted).2, isSpan]
  cbv

/-- Below zero the count itself is taken, where counting along the line would not leave its
beginning. -/
theorem characterToIndex_below_zero :
    ¬∀ (line : List Char) (target : Int),
      characterToIndex line target .utf32 = indexFrom .utf32 target 0 line ∧
        0 ≤ characterToIndex line target .utf32 := by
  intro agrees
  have isIndex := (agrees ['a', 'b', 'c'] (-1)).2
  revert isIndex
  decide

end Text

end AnalyzerSessions
