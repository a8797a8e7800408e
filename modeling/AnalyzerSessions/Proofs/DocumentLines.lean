import AnalyzerSessions.Proofs.SplicedTexts
import Mathlib.Algebra.GroupWithZero.Nat
import Mathlib.Data.List.TakeWhile

namespace AnalyzerSessions.Text

/-!
# Lines of documents

The lines of a document end at `\n`, at `\r\n` and at a lone `\r`, and at nothing else, and a
position in a document is counted by these lines.  A text is cut into lines at more
characters than these.  A position is nevertheless found where the document means it, as
long as no other character that ends a line stands in front of it or in its own line.
-/

/-! ## Places in a document -/

/-- A character that ends a line of a document, by itself or as part of `\r\n`. -/
def isBreak (char : Char) : Bool :=
  char == '\r' || char == '\n'

/-- The first line of a document, without its end. -/
def headLine (document : List Char) : List Char :=
  document.takeWhile fun char => !isBreak char

/-- A document behind its first line, if that line is ended; `\r\n` ends one line. -/
def behindHeadLine? (document : List Char) : Option (List Char) :=
  match document.dropWhile fun char => !isBreak char with
  | [] => none
  | '\r' :: '\n' :: rest => some rest
  | _ :: rest => some rest

/-- A document from the beginning of a line on, if it has that line. -/
def fromLine? : (line : Nat) → (document : List Char) → Option (List Char)
  | 0, document => some document
  | line + 1, document => (behindHeadLine? document).bind (fromLine? line)

/-- What stands in the lines of a document up to one of them. -/
def throughLine : (line : Nat) → (document : List Char) → List Char
  | 0, document => headLine document
  | line + 1, document =>
    headLine document ++ ((behindHeadLine? document).map (throughLine line)).getD []

/-- How many code units a text has. -/
def width (encoding : Encoding) (text : List Char) : Nat :=
  (text.map encoding.units).sum

/-- The first place in a line that is not less than a number of code units behind its beginning, or
the end of a line that is shorter. -/
structure IsColumn (encoding : Encoding) (line : List Char) (character index : Nat) : Prop where
  within : index ≤ line.length
  reached : index < line.length → character ≤ width encoding (line.take index)
  first : ∀ earlier < index, width encoding (line.take earlier) < character

/-- The offset of a position in a document: that of the place in its line, or the end of a document
that does not have the line. -/
inductive IsOffset (encoding : Encoding) (document : List Char) (line character : Nat) :
    Nat → Prop where
  | inLine {front rest : List Char} {index : Nat}
      (split : document = front ++ rest)
      (begins : fromLine? line document = some rest)
      (column : IsColumn encoding (headLine rest) character index) :
      IsOffset encoding document line character (front.length + index)
  | behind
      (lacks : fromLine? line document = none) :
      IsOffset encoding document line character document.length

/-! ## Columns -/

theorem IsColumn.unique
    {encoding : Encoding}
    {line : List Char}
    {character index other : Nat}
    (column : IsColumn encoding line character index)
    (otherColumn : IsColumn encoding line character other) :
    index = other := by
  rcases Nat.lt_trichotomy index other with less | same | more
  · have reached := column.reached (Nat.lt_of_lt_of_le less otherColumn.within)
    have notYet := otherColumn.first index less
    omega
  · exact same
  · have reached := otherColumn.reached (Nat.lt_of_lt_of_le more column.within)
    have notYet := column.first other more
    omega

theorem IsOffset.unique
    {encoding : Encoding}
    {document : List Char}
    {line character offset other : Nat}
    (isOffset : IsOffset encoding document line character offset)
    (isOther : IsOffset encoding document line character other) :
    offset = other := by
  cases isOffset with
  | inLine split begins column =>
      cases isOther with
      | inLine otherSplit otherBegins otherColumn =>
          cases begins.symm.trans otherBegins
          cases List.append_cancel_right (split.symm.trans otherSplit)
          rw [column.unique otherColumn]
      | behind lacks =>
          cases begins.symm.trans lacks
  | behind lacks =>
      cases isOther with
      | inLine _ begins _ =>
          cases begins.symm.trans lacks
      | behind _ =>
          rfl

/-- Walking along a line ends at the first place that is far enough. -/
theorem indexFrom_spec
    (encoding : Encoding)
    (character units : Nat)
    (line : List Char) :
    let index := indexFrom encoding character units line
    (index < line.length → character ≤ units + width encoding (line.take index)) ∧
      ∀ earlier < index, units + width encoding (line.take earlier) < character := by
  induction line generalizing units with
  | nil =>
      simp [indexFrom]
  | cons char rest inductionHypothesis =>
      obtain ⟨reached, first⟩ := inductionHypothesis (units + encoding.units char)
      by_cases isFar : (units : Int) ≥ character
      · have isHere : indexFrom encoding character units (char :: rest) = 0 := if_pos isFar
        refine ⟨fun _ => ?_, fun earlier before => ?_⟩
        · omega
        · omega
      · have isBehind : indexFrom encoding character units (char :: rest) =
            indexFrom encoding character (units + encoding.units char) rest + 1 := if_neg isFar
        rw [isBehind]
        refine ⟨fun short => ?_, fun earlier before => ?_⟩
        · have reached := reached (Nat.lt_of_succ_lt_succ short)
          simp only [List.take_succ_cons, width, List.map_cons, List.sum_cons] at reached ⊢
          omega
        · cases earlier with
          | zero =>
              simp only [List.take_zero, width, List.map_nil, List.sum_nil]
              omega
          | succ earlier =>
              have first := first earlier (Nat.lt_of_succ_lt_succ before)
              simp only [List.take_succ_cons, width, List.map_cons, List.sum_cons] at first ⊢
              omega

theorem width_utf32 (text : List Char) : width .utf32 text = text.length := by
  have one : Encoding.units .utf32 = fun _ => 1 := rfl
  simp [width, one]

/-- A character is found at its column. -/
theorem isColumn_characterToIndex
    (encoding : Encoding)
    (line : List Char)
    (character : Nat) :
    ∃ index : Nat, characterToIndex line character encoding = index ∧
      IsColumn encoding line character index := by
  have walked : IsColumn encoding line character (indexFrom encoding character 0 line) := by
    obtain ⟨reached, first⟩ := indexFrom_spec encoding character 0 line
    rw [Nat.zero_add] at reached
    refine ⟨indexFrom_le_length .., reached, fun earlier before => ?_⟩
    rw [← Nat.zero_add (width encoding _)]
    exact first earlier before
  cases encoding with
  | utf32 =>
      have clamped : min (character : Int) line.length = (min character line.length : Nat) := by
        omega
      refine ⟨min character line.length, clamped, Nat.min_le_right .., ?_, ?_⟩
      · intro short
        rw [width_utf32, List.length_take]
        omega
      · intro earlier before
        rw [width_utf32, List.length_take]
        omega
  | _ => exact ⟨_, rfl, walked⟩

/-! ## Lines -/

theorem isLineEnd_of_isBreak
    {char : Char}
    (breaks : isBreak char) :
    isLineEnd char := by
  simp only [isBreak, Bool.or_eq_true, beq_iff_eq] at breaks
  rcases breaks with rfl | rfl <;> rfl

/-- Characters that end no line stay in front of the first line end. -/
theorem cutLine_append_of_not_isLineEnd
    {body : List Char}
    (plain : ∀ char ∈ body, ¬isLineEnd char)
    (tail : List Char) :
    cutLine (body ++ tail) = (body ++ (cutLine tail).1, (cutLine tail).2) := by
  induction body with
  | nil =>
      rfl
  | cons char rest inductionHypothesis =>
      simp only [List.forall_mem_cons] at plain
      have isNoReturn : char ≠ '\r' := by
        rintro rfl
        exact plain.1 rfl
      rw [List.cons_append, cutLine]
      · rw [if_neg plain.1, inductionHypothesis plain.2]
        rfl
      · intro _ isReturn
        exact absurd isReturn isNoReturn

/-- A line whose end is taken off is what stands in front of its end. -/
theorem chomp_append
    {body ending : List Char}
    (plain : ∀ char ∈ body, ¬isLineEnd char)
    (breaks : ∀ char ∈ ending, isBreak char) :
    chomp (body ++ ending) = body := by
  have noBreak : body.reverse.dropWhile (fun char => char == '\r' || char == '\n') =
      body.reverse := by
    refine List.dropWhile_eq_self_iff.mpr fun nonempty isEnd => ?_
    exact plain _ (List.mem_reverse.mp (List.getElem_mem nonempty)) (isLineEnd_of_isBreak isEnd)
  unfold chomp
  rw [List.reverse_append, List.dropWhile_append_of_pos, noBreak, List.reverse_reverse]
  intro char member
  exact breaks char (List.mem_reverse.mp member)

/-- The first line of a document without other line ends is cut off where it ends. -/
theorem lines_of_behindHeadLine?
    {document rest : List Char}
    (plain : ∀ char ∈ headLine document, ¬isLineEnd char)
    (ended : behindHeadLine? document = some rest) :
    ∃ ending, document = headLine document ++ ending ++ rest ∧
      chomp (headLine document ++ ending) = headLine document ∧
      lines document = (headLine document ++ ending) :: lines rest := by
  have split : headLine document ++ document.dropWhile (fun char => !isBreak char) = document :=
    List.takeWhile_append_dropWhile
  have cut := cutLine_append_of_not_isLineEnd plain (document.dropWhile fun char => !isBreak char)
  rw [split] at cut
  have breaks : ∀ char tail, document.dropWhile (fun char => !isBreak char) = char :: tail →
      isBreak char := by
    intro char tail isTail
    have notDropped := List.dropWhile_get_zero_not (fun char => !isBreak char) document
      (by simp [isTail])
    simpa [isTail] using notDropped
  have ends : ∃ ending, (∀ char ∈ ending, isBreak char) ∧ ending ≠ [] ∧
      cutLine (document.dropWhile fun char => !isBreak char) = (ending, rest) := by
    unfold behindHeadLine? at ended
    generalize document.dropWhile (fun char => !isBreak char) = tail at breaks ended
    split at ended
    · cases ended
    · cases ended
      exact ⟨['\r', '\n'], by simp [isBreak], List.cons_ne_nil _ _, rfl⟩
    · rename_i char tail notTogether
      cases ended
      have isBreak := breaks char rest rfl
      refine ⟨[char], by simpa using isBreak, List.cons_ne_nil _ _, ?_⟩
      rw [cutLine, if_pos (isLineEnd_of_isBreak isBreak)]
      intro _ isReturn isTogether
      exact notTogether _ isReturn isTogether
  obtain ⟨ending, areBreaks, nonempty, isEnding⟩ := ends
  rw [isEnding] at cut
  have whole := cutLine_append document
  rw [cut] at whole
  refine ⟨ending, whole.symm, chomp_append plain areBreaks, ?_⟩
  cases isDocument : document with
  | nil =>
      rw [isDocument] at whole
      simp [nonempty] at whole
  | cons char tail =>
      rw [lines, ← isDocument, cut]

/-- The only line of a document is all of it. -/
theorem lines_of_headLine_only
    {document : List Char}
    (plain : ∀ char ∈ headLine document, ¬isLineEnd char)
    (unended : behindHeadLine? document = none) :
    headLine document = document ∧ lines document = if document = [] then [] else [document] := by
  have noTail : document.dropWhile (fun char => !isBreak char) = [] := by
    unfold behindHeadLine? at unended
    split at unended
    · assumption
    · cases unended
    · cases unended
  have whole : headLine document = document := by
    have split := List.takeWhile_append_dropWhile (p := fun char => !isBreak char) (l := document)
    rwa [noTail, List.append_nil] at split
  refine ⟨whole, ?_⟩
  have cut := cutLine_append_of_not_isLineEnd plain []
  rw [whole, List.append_nil, cutLine, List.append_nil] at cut
  cases document with
  | nil =>
      simp [lines]
  | cons char rest =>
      rw [lines, cut, lines]
      rfl

/-! ## Positions -/

variable {encoding : Encoding} {document : List Char} {line character : Nat}

theorem characterToIndex_nil
    (encoding : Encoding)
    (character : Nat) :
    characterToIndex [] character encoding = 0 := by
  cases encoding with
  | utf32 => exact Int.min_eq_right (Int.natCast_nonneg character)
  | _ => rfl

/-- A position in the first line is found there. -/
theorem offsetInLines_headLine
    (plain : ∀ char ∈ headLine document, ¬isLineEnd char)
    (number offset : Nat) :
    offsetInLines encoding number character number offset (lines document) =
      offset + characterToIndex (headLine document) character encoding := by
  cases ended : behindHeadLine? document with
  | none =>
      obtain ⟨whole, isOnly⟩ := lines_of_headLine_only plain ended
      rw [isOnly, whole]
      by_cases isEmpty : document = []
      · rw [if_pos isEmpty, isEmpty, offsetInLines, characterToIndex_nil, Int.add_zero]
      · have unchanged : chomp (headLine document ++ []) = headLine document :=
          chomp_append plain (by simp)
        rw [whole, List.append_nil] at unchanged
        rw [if_neg isEmpty, offsetInLines, if_pos rfl, unchanged]
  | some rest =>
      obtain ⟨ending, _, chomped, isFirst⟩ := lines_of_behindHeadLine? plain ended
      rw [isFirst, offsetInLines, if_pos rfl, chomped]

/-- A position is found in the line that it counts, and behind the end of a document without that
line. -/
theorem offsetInLines_isOffset
    (encoding : Encoding)
    (document : List Char)
    (line character number offset : Nat)
    (plain : ∀ char ∈ throughLine line document, ¬isLineEnd char) :
    ∃ place : Nat, IsOffset encoding document line character place ∧
      offsetInLines encoding (number + line : Nat) character number offset (lines document) =
        (offset + place : Nat) := by
  induction line generalizing document number offset with
  | zero =>
      obtain ⟨index, isIndex, column⟩ :=
        isColumn_characterToIndex encoding (headLine document) character
      refine ⟨index, ?_, ?_⟩
      · have inLine := IsOffset.inLine (List.nil_append document).symm
          (show fromLine? 0 document = some document from rfl) column
        rwa [List.length_nil, Nat.zero_add] at inLine
      · rw [Nat.add_zero, offsetInLines_headLine plain, isIndex, Int.natCast_add]
  | succ line inductionHypothesis =>
      have plainHead : ∀ char ∈ headLine document, ¬isLineEnd char := by
        intro char member
        exact plain char (List.mem_append_left _ member)
      have later : (number : Int) ≠ (number + (line + 1) : Nat) := by
        omega
      cases ended : behindHeadLine? document with
      | none =>
          obtain ⟨-, isOnly⟩ := lines_of_headLine_only plainHead ended
          refine ⟨document.length, .behind (by rw [fromLine?, ended]; rfl), ?_⟩
          rw [isOnly]
          by_cases isEmpty : document = []
          · rw [if_pos isEmpty, isEmpty, offsetInLines]
            rfl
          · rw [if_neg isEmpty, offsetInLines, if_neg later, offsetInLines, Int.natCast_add]
      | some rest =>
          obtain ⟨ending, split, -, isFirst⟩ := lines_of_behindHeadLine? plainHead ended
          have plainRest : ∀ char ∈ throughLine line rest, ¬isLineEnd char := by
            intro char member
            refine plain char (List.mem_append_right _ ?_)
            rwa [ended]
          obtain ⟨place, isOffset, found⟩ := inductionHypothesis rest (number + 1)
            (offset + (headLine document ++ ending).length) plainRest
          refine ⟨(headLine document ++ ending).length + place, ?_, ?_⟩
          · have fromRest : fromLine? (line + 1) document = fromLine? line rest := by
              rw [fromLine?, ended]
              rfl
            cases isOffset with
            | inLine splitRest begins column =>
                rw [← Nat.add_assoc, ← List.length_append]
                refine .inLine ?_ (fromRest.trans begins) column
                rw [List.append_assoc, ← splitRest]
                exact split
            | behind lacks =>
                rw [← List.length_append, ← split]
                exact .behind (fromRest.trans lacks)
          · have next : number + 1 + line = number + (line + 1) := by
              omega
            rw [next, Nat.add_assoc] at found
            rw [isFirst, offsetInLines, if_neg later, ← found]

/-- A position means one place in its document, and is found there, as long as no character that
ends a line of a text, but no line of a document, stands in its line or in front of it. -/
theorem positionToOffset_isOffset
    (encoding : Encoding)
    (document : List Char)
    (line character : Nat)
    (plain : ∀ char ∈ throughLine line document, ¬isLineEnd char) :
    ∃ offset : Nat, positionToOffset document line character encoding = offset ∧
      ∀ other, IsOffset encoding document line character other ↔ other = offset := by
  obtain ⟨offset, isOffset, found⟩ :=
    offsetInLines_isOffset encoding document line character 0 0 plain
  rw [Nat.zero_add, Nat.zero_add] at found
  refine ⟨offset, found, fun other => ⟨fun isOther => isOther.unique isOffset, ?_⟩⟩
  rintro rfl
  exact isOffset

/-- A document whose lines end in different ways. -/
def mixedLines : List Char :=
  "a\r\n😀b\rc\n\nd".toList

/-- Behind a character of two code units in the second line. -/
theorem positionToOffset_mixedLines :
    (∀ char ∈ throughLine 1 mixedLines, ¬isLineEnd char) ∧
      positionToOffset mixedLines 1 2 .utf16 = 4 ∧
      ∀ other, IsOffset .utf16 mixedLines 1 2 other ↔ other = 4 := by
  have allPlain : (throughLine 1 mixedLines).all (fun char => !isLineEnd char) := by
    decide +kernel
  have plain : ∀ char ∈ throughLine 1 mixedLines, ¬isLineEnd char := by
    simpa using allPlain
  have isFour : positionToOffset mixedLines 1 2 .utf16 = 4 := by
    decide +kernel
  obtain ⟨offset, found, isOffset⟩ := positionToOffset_isOffset .utf16 mixedLines 1 2 plain
  obtain rfl : offset = 4 := by
    exact_mod_cast found.symm.trans isFour
  exact ⟨plain, isFour, isOffset⟩

/-- A document with a form feed in its first line. -/
def fedLines : List Char :=
  "a\x0cb\nc".toList

/-- The form feed counts as the end of a line, and the second line is found in the first. -/
theorem positionToOffset_fedLines :
    positionToOffset fedLines 1 0 .utf16 = 2 ∧ IsOffset .utf16 fedLines 1 0 4 ∧
      ¬IsOffset .utf16 fedLines 1 0 2 := by
  have second : IsOffset .utf16 fedLines 1 0 4 := by
    have column : IsColumn .utf16 (headLine ['c']) 0 0 :=
      ⟨Nat.zero_le _, fun _ => Nat.zero_le _, fun _ before => absurd before (Nat.not_lt_zero _)⟩
    exact .inLine (show fedLines = ['a', '\x0c', 'b', '\n'] ++ ['c'] by decide) (by decide) column
  refine ⟨by decide +kernel, second, fun isTwo => ?_⟩
  cases second.unique isTwo

end AnalyzerSessions.Text
