import AnalyzerSessions.Proofs.DocumentLines
import Mathlib.Data.List.DropRight

namespace AnalyzerSessions.Text

/-!
# Exact positions

A text is cut into lines in one way.  The place behind some characters of a line has the
same offset in whatever code unit it is counted, a position in the middle of a character
is put behind it, and of two positions the later one has no smaller offset.
-/

/-! ## Lines of texts -/

/-- What ends a line in front of the rest of a text; `\r\n` is one end. -/
inductive IsEnding : (ending rest : List Char) → Prop where
  | together (rest : List Char) :
      IsEnding ['\r', '\n'] rest
  | single {char : Char} {rest : List Char}
      (ends : isLineEnd char)
      (apart : char = '\r' → rest.head? ≠ some '\n') :
      IsEnding [char] rest

/-- The lines of a text, each with its end, which only the last one may lack. -/
inductive AreLines : (text : List Char) → (parts : List (List Char)) → Prop where
  | nothing :
      AreLines [] []
  | unended {body : List Char}
      (nonempty : body ≠ [])
      (plain : ∀ char ∈ body, ¬isLineEnd char) :
      AreLines body [body]
  | ended {body ending rest : List Char} {parts : List (List Char)}
      (plain : ∀ char ∈ body, ¬isLineEnd char)
      (ends : IsEnding ending rest)
      (others : AreLines rest parts) :
      AreLines (body ++ (ending ++ rest)) ((body ++ ending) :: parts)

theorem lines_of_ne_nil
    {text : List Char}
    (nonempty : text ≠ []) :
    lines text = (cutLine text).1 :: lines (cutLine text).2 := by
  cases text with
  | nil => exact (nonempty rfl).elim
  | cons char rest => rw [lines]

/-- A line ends where its end stands. -/
theorem IsEnding.cutLine_eq
    {ending rest : List Char}
    (ends : IsEnding ending rest) :
    cutLine (ending ++ rest) = (ending, rest) := by
  cases ends with
  | together =>
      rfl
  | @single char _ isEnd apart =>
      rw [List.singleton_append, cutLine]
      · rw [if_pos isEnd]
      · rintro tail rfl rfl
        exact apart rfl rfl

/-- The first line of a text is all of it, or it stands in front of its end. -/
theorem cutLine_cases (text : List Char) :
    (cutLine text = (text, []) ∧ ∀ char ∈ text, ¬isLineEnd char) ∨
      ∃ body ending rest, text = body ++ (ending ++ rest) ∧
        cutLine text = (body ++ ending, rest) ∧
        (∀ char ∈ body, ¬isLineEnd char) ∧ IsEnding ending rest := by
  induction text with
  | nil =>
      exact .inl ⟨rfl, by simp⟩
  | cons char rest inductionHypothesis =>
      by_cases isEnd : isLineEnd char
      · by_cases isTogether : char = '\r' ∧ rest.head? = some '\n'
        · obtain ⟨rfl, isFeed⟩ := isTogether
          obtain ⟨tail, rfl⟩ := List.head?_eq_some_iff.mp isFeed
          exact .inr ⟨[], ['\r', '\n'], tail, rfl, rfl, by simp, .together tail⟩
        · have ends : IsEnding [char] rest :=
            .single isEnd fun isReturn isFeed => isTogether ⟨isReturn, isFeed⟩
          exact .inr ⟨[], [char], rest, rfl, ends.cutLine_eq, by simp, ends⟩
      · have plain : ∀ known ∈ [char], ¬isLineEnd known := by
          simpa using isEnd
        have cut := cutLine_append_of_not_isLineEnd plain rest
        rw [List.singleton_append] at cut
        rcases inductionHypothesis with ⟨whole, allPlain⟩ | ⟨body, ending, tail, same, found, rest⟩
        · rw [whole] at cut
          exact .inl ⟨cut, List.forall_mem_cons.mpr ⟨isEnd, allPlain⟩⟩
        · rw [found] at cut
          exact .inr ⟨char :: body, ending, tail, congrArg _ same, cut,
            List.forall_mem_cons.mpr ⟨isEnd, rest.1⟩, rest.2⟩

theorem areLines_lines (text : List Char) : AreLines text (lines text) := by
  induction length : text.length using Nat.strongRecOn generalizing text with
  | ind _ inductionHypothesis =>
      by_cases isEmpty : text = []
      · subst isEmpty
        rw [lines]
        exact .nothing
      · rw [lines_of_ne_nil isEmpty]
        rcases cutLine_cases text with ⟨whole, plain⟩ | ⟨body, ending, rest, same, cut, plain, ends⟩
        · rw [whole, lines]
          exact .unended isEmpty plain
        · have shorter : rest.length < text.length := by
            rw [same, List.length_append, List.length_append]
            cases ends <;> simp only [List.length_cons] <;> omega
          rw [cut, same]
          exact .ended plain ends (inductionHypothesis _ (length ▸ shorter) rest rfl)

/-- A text is cut into lines in one way. -/
theorem AreLines.eq_lines
    {text : List Char}
    {parts : List (List Char)}
    (split : AreLines text parts) :
    parts = lines text := by
  induction split with
  | nothing =>
      rw [lines]
  | @unended body nonempty plain =>
      have cut := cutLine_append_of_not_isLineEnd plain []
      rw [List.append_nil, cutLine, List.append_nil] at cut
      rw [lines_of_ne_nil nonempty, cut, lines]
  | @ended body ending rest parts plain ends _ inductionHypothesis =>
      have nonempty : body ++ (ending ++ rest) ≠ [] := by
        cases ends <;> simp
      rw [lines_of_ne_nil nonempty, cutLine_append_of_not_isLineEnd plain, ends.cutLine_eq,
        ← inductionHypothesis]

/-! ## Widths and columns -/

variable {encoding : Encoding} {line : List Char}

theorem Encoding.units_pos
    (encoding : Encoding)
    (char : Char) :
    0 < encoding.units char := by
  cases encoding with
  | utf8 =>
      unfold Encoding.units Utf8.encodeChar
      dsimp only
      split_ifs <;> exact Nat.succ_pos _
  | utf16 =>
      unfold Encoding.units
      dsimp only
      split_ifs <;> exact Nat.succ_pos _
  | utf32 => exact Nat.one_pos
  | unknown => exact Nat.one_pos

theorem width_append (front rest : List Char) :
    width encoding (front ++ rest) = width encoding front + width encoding rest := by
  simp [width]

theorem width_pos
    {text : List Char}
    (nonempty : text ≠ []) :
    0 < width encoding text := by
  obtain ⟨char, rest, rfl⟩ := List.exists_cons_of_ne_nil nonempty
  have first := encoding.units_pos char
  simp only [width, List.map_cons, List.sum_cons]
  omega

/-- Every further character adds to the width. -/
theorem width_take_lt
    {earlier later : Nat}
    (isEarlier : earlier < later)
    (within : later ≤ line.length) :
    width encoding (line.take earlier) < width encoding (line.take later) := by
  have split : line.take later = line.take earlier ++ (line.drop earlier).take (later - earlier) := by
    rw [← List.take_add, Nat.add_sub_cancel' isEarlier.le]
  have nonempty : (line.drop earlier).take (later - earlier) ≠ [] := by
    refine List.ne_nil_of_length_pos ?_
    rw [List.length_take, List.length_drop]
    omega
  have added := @width_pos encoding _ nonempty
  rw [split, width_append]
  omega

/-- The place behind some characters is the column of their width. -/
theorem isColumn_width
    {index : Nat}
    (within : index ≤ line.length) :
    IsColumn encoding line (width encoding (line.take index)) index where
  within := within
  reached _ := Nat.le_refl _
  first _ isEarlier := width_take_lt isEarlier within

/-- The column of a count that ends inside a character is the place behind it. -/
theorem isColumn_inside
    {index character : Nat}
    (within : index < line.length)
    (begun : width encoding (line.take index) < character)
    (unfinished : character < width encoding (line.take (index + 1))) :
    IsColumn encoding line character (index + 1) where
  within := within
  reached _ := unfinished.le
  first earlier isEarlier := by
    rcases Nat.lt_or_eq_of_le (Nat.le_of_lt_succ isEarlier) with before | rfl
    · exact (width_take_lt before within.le).trans begun
    · exact begun

/-- More code units lead to no earlier place. -/
theorem IsColumn.le
    {character further index other : Nat}
    (column : IsColumn encoding line character index)
    (otherColumn : IsColumn encoding line further other)
    (isFurther : character ≤ further) :
    index ≤ other := by
  by_contra isBefore
  have isBefore : other < index := Nat.lt_of_not_le isBefore
  have notYet := column.first other isBefore
  have reached := otherColumn.reached (Nat.lt_of_lt_of_le isBefore column.within)
  omega

theorem IsColumn.characterToIndex_eq
    {character index : Nat}
    (column : IsColumn encoding line character index) :
    characterToIndex line character encoding = index := by
  obtain ⟨found, isFound, isColumn⟩ := isColumn_characterToIndex encoding line character
  rw [isFound, isColumn.unique column]

theorem characterToIndex_mono
    {character further : Nat}
    (isFurther : character ≤ further) :
    characterToIndex line character encoding ≤ characterToIndex line further encoding := by
  obtain ⟨index, isIndex, column⟩ := isColumn_characterToIndex encoding line character
  obtain ⟨other, isOther, otherColumn⟩ := isColumn_characterToIndex encoding line further
  rw [isIndex, isOther]
  exact_mod_cast column.le otherColumn isFurther

/-! ## Offsets -/

/-- A line without its end stands at the beginning of the line. -/
theorem chomp_leads (line : List Char) : chomp line <+: line :=
  List.rdropWhile_prefix isBreak line

/-- Both begin with the same characters. -/
theorem take_eq_of_leads
    {front whole : List Char}
    {index : Nat}
    (begins : front <+: whole)
    (within : index ≤ front.length) :
    front.take index = whole.take index := by
  obtain ⟨rest, rfl⟩ := begins
  exact (List.take_append_of_le_length within).symm

/-- How much text stands in front of a line. -/
def lengthBefore (parts : List (List Char)) (line : Nat) : Nat :=
  (parts.take line).flatten.length

theorem lengthBefore_le
    {parts : List (List Char)}
    {earlier later : Nat}
    (isEarlier : earlier ≤ later) :
    lengthBefore parts earlier ≤ lengthBefore parts later := by
  unfold lengthBefore
  obtain ⟨more, rfl⟩ := Nat.exists_eq_add_of_le isEarlier
  rw [List.take_add, List.flatten_append, List.length_append]
  exact Nat.le_add_right _ _

theorem lengthBefore_succ
    {parts : List (List Char)}
    {line : Nat}
    {part : List Char}
    (isPart : parts[line]? = some part) :
    lengthBefore parts (line + 1) = lengthBefore parts line + part.length := by
  unfold lengthBefore
  rw [List.take_add_one, isPart, Option.toList_some, List.flatten_append, List.length_append,
    List.flatten_singleton]

theorem offsetInLines_of_getElem?
    {parts : List (List Char)}
    {line : Nat}
    {part : List Char}
    (isPart : parts[line]? = some part)
    (character : Int)
    (number offset : Nat) :
    offsetInLines encoding (number + line : Nat) character number offset parts =
      (offset + lengthBefore parts line : Nat) + characterToIndex (chomp part) character encoding := by
  induction parts generalizing line number offset with
  | nil =>
      cases isPart
  | cons first rest inductionHypothesis =>
      cases line with
      | zero =>
          cases isPart
          rw [Nat.add_zero, offsetInLines, if_pos rfl]
          rfl
      | succ line =>
          have later : (number : Int) ≠ (number + (line + 1) : Nat) := by
            omega
          have found := inductionHypothesis isPart (number + 1) (offset + first.length)
          have before : lengthBefore (first :: rest) (line + 1) =
              first.length + lengthBefore rest line := by
            simp [lengthBefore]
          rw [Nat.add_right_comm] at found
          rw [offsetInLines, if_neg later, ← Nat.add_assoc, found, before, Nat.add_assoc]

theorem offsetInLines_of_length_le
    {parts : List (List Char)}
    {line : Nat}
    (lacks : parts.length ≤ line)
    (character : Int)
    (number offset : Nat) :
    offsetInLines encoding (number + line : Nat) character number offset parts =
      (offset + parts.flatten.length : Nat) := by
  induction parts generalizing line number offset with
  | nil =>
      rfl
  | cons first rest inductionHypothesis =>
      cases line with
      | zero =>
          exact absurd lacks (Nat.not_succ_le_zero _)
      | succ line =>
          have later : (number : Int) ≠ (number + (line + 1) : Nat) := by
            omega
          have found := inductionHypothesis (Nat.le_of_succ_le_succ lacks) (number + 1)
            (offset + first.length)
          rw [Nat.add_right_comm] at found
          rw [offsetInLines, if_neg later, ← Nat.add_assoc, found, List.flatten_cons,
            List.length_append, Nat.add_assoc]

variable {text : List Char} {parts : List (List Char)}

/-- A position in a line of a text is found there. -/
theorem AreLines.positionToOffset_eq
    {number : Nat}
    {part : List Char}
    (split : AreLines text parts)
    (isPart : parts[number]? = some part)
    (character : Int) :
    positionToOffset text number character encoding =
      lengthBefore parts number + characterToIndex (chomp part) character encoding := by
  have found := @offsetInLines_of_getElem? encoding _ _ _ isPart character 0 0
  rw [Nat.zero_add, Nat.zero_add, split.eq_lines] at found
  rw [split.eq_lines]
  exact found

/-- A position in a line that a text does not have is found behind the text. -/
theorem AreLines.positionToOffset_of_length_le
    {number : Nat}
    (split : AreLines text parts)
    (lacks : parts.length ≤ number)
    (character : Int) :
    positionToOffset text number character encoding = text.length := by
  have found := @offsetInLines_of_length_le encoding _ _ lacks character 0 0
  rw [Nat.zero_add, Nat.zero_add, split.eq_lines, flatten_lines] at found
  exact found

/-- Of two positions in different lines the later one has no smaller offset. -/
theorem AreLines.positionToOffset_le_of_line_lt
    {number later : Nat}
    (split : AreLines text parts)
    (isLater : number < later)
    (character further : Nat) :
    positionToOffset text number character encoding ≤
      positionToOffset text later further encoding := by
  rcases Nat.lt_or_ge later parts.length with hasLater | lacksLater
  · obtain ⟨part, isPart⟩ : ∃ part, parts[number]? = some part :=
      ⟨_, List.getElem?_eq_getElem (isLater.trans hasLater)⟩
    obtain ⟨laterPart, isLaterPart⟩ : ∃ part, parts[later]? = some part :=
      ⟨_, List.getElem?_eq_getElem hasLater⟩
    rw [split.positionToOffset_eq isPart, split.positionToOffset_eq isLaterPart]
    have inLine := characterToIndex_le_length (chomp part) character encoding
    have noLonger := length_chomp_le part
    have nextLine := lengthBefore_succ isPart
    have laterLine : lengthBefore parts (number + 1) ≤ lengthBefore parts later :=
      lengthBefore_le isLater
    obtain ⟨index, isIndex, _⟩ := isColumn_characterToIndex encoding (chomp laterPart) further
    rw [isIndex]
    omega
  · rw [split.positionToOffset_of_length_le lacksLater]
    exact positionToOffset_le_length ..

/-- Of two positions the later one has no smaller offset. -/
theorem AreLines.positionToOffset_mono
    {number later character further : Nat}
    (split : AreLines text parts)
    (inOrder : number < later ∨ number = later ∧ character ≤ further) :
    positionToOffset text number character encoding ≤
      positionToOffset text later further encoding := by
  rcases inOrder with isLater | ⟨rfl, isFurther⟩
  · exact split.positionToOffset_le_of_line_lt isLater character further
  · rcases Nat.lt_or_ge number parts.length with hasLine | lacksLine
    · have isPart := List.getElem?_eq_getElem hasLine
      rw [split.positionToOffset_eq isPart, split.positionToOffset_eq isPart]
      exact Int.add_le_add_left (characterToIndex_mono isFurther) _
    · have behind := @AreLines.positionToOffset_of_length_le encoding _ _ _ split lacksLine
      exact Int.le_of_eq ((behind character).trans (behind further).symm)

/-- Positions in a text with certain lines lead to the offsets that they mean, and keep their order. -/
structure HasExactPositions (text : List Char) (parts : List (List Char)) : Prop where
  /-- The place behind some characters of a line, in whatever code unit these are counted. -/
  exact : ∀ {encoding : Encoding} {number index : Nat} {part : List Char},
    parts[number]? = some part → index ≤ (part.rdropWhile isBreak).length →
      positionToOffset text number (width encoding (part.take index)) encoding =
        ((parts.take number).flatten.length + index : Nat)
  /-- The place behind a character in the middle of which a position lies. -/
  inside : ∀ {encoding : Encoding} {number index character : Nat} {part : List Char},
    parts[number]? = some part → index < (part.rdropWhile isBreak).length →
      width encoding (part.take index) < character →
        character < width encoding (part.take (index + 1)) →
          positionToOffset text number character encoding =
            ((parts.take number).flatten.length + (index + 1) : Nat)
  within : ∀ (encoding : Encoding) (number character : Nat),
    0 ≤ positionToOffset text number character encoding ∧
      positionToOffset text number character encoding ≤ text.length
  ordered : ∀ {encoding : Encoding} {number later character further : Nat},
    number < later ∨ number = later ∧ character ≤ further →
      positionToOffset text number character encoding ≤
        positionToOffset text later further encoding

/-- The positions of every text are exact, and in order. -/
theorem AreLines.hasExactPositions (split : AreLines text parts) : HasExactPositions text parts where
  exact := by
    intro encoding number index part isPart within
    have within : index ≤ (chomp part).length := within
    have column : IsColumn encoding (chomp part) _ index := isColumn_width within
    rw [take_eq_of_leads (chomp_leads part) within] at column
    rw [split.positionToOffset_eq isPart, column.characterToIndex_eq]
    rfl
  inside := by
    intro encoding number index character part isPart within begun unfinished
    have within : index < (chomp part).length := within
    rw [← take_eq_of_leads (chomp_leads part) within.le] at begun
    rw [← take_eq_of_leads (chomp_leads part) within] at unfinished
    have column := isColumn_inside within begun unfinished
    rw [split.positionToOffset_eq isPart, column.characterToIndex_eq]
    rfl
  within encoding number character :=
    ⟨positionToOffset_nonneg _ _ _ _ fun _ => Int.natCast_nonneg _, positionToOffset_le_length ..⟩
  ordered inOrder := split.positionToOffset_mono inOrder

/-- Two lines, the second of which begins with a character of more than one code unit. -/
def twoLines : List Char :=
  ['a', '\r', '\n', '😀', 'b']

theorem twoLines_exactPositions :
    AreLines twoLines [['a', '\r', '\n'], ['😀', 'b']] ∧
      HasExactPositions twoLines [['a', '\r', '\n'], ['😀', 'b']] ∧
      positionToOffset twoLines 1 2 .utf16 = 4 ∧ positionToOffset twoLines 1 2 .utf8 = 4 := by
  have second : AreLines ['😀', 'b'] [['😀', 'b']] :=
    .unended (by decide) (by simp [isLineEnd])
  have split : AreLines twoLines [['a', '\r', '\n'], ['😀', 'b']] :=
    @AreLines.ended ['a'] _ _ _ (by simp [isLineEnd]) (.together _) second
  have positions := AreLines.hasExactPositions split
  have isExact := @positions.exact .utf16 1 1 ['😀', 'b'] rfl (by decide)
  have isInside := @positions.inside .utf8 1 0 2 ['😀', 'b'] rfl (by decide) (by decide) (by decide)
  exact ⟨split, positions, isExact, isInside⟩

end AnalyzerSessions.Text
