namespace AnalyzerSessions.Text

/-!
# Lines

Two notions of line: the one that splits a document into lines, with the
terminators of Unicode's line boundaries, and the one that turns the line ends
of a file into `\n` when the file is read.
-/

/-- A character that ends a line by itself. -/
def isLineEnd (char : Char) : Bool :=
  let code := char.toNat
  (10 ≤ code && code ≤ 13) || (0x1c ≤ code && code ≤ 0x1e) || code == 0x85 ||
    code == 0x2028 || code == 0x2029

/-- The first line of a text, with its terminator, and the rest; `\r\n` is one terminator. -/
def cutLine : List Char → List Char × List Char
  | [] => ([], [])
  | '\r' :: '\n' :: rest => (['\r', '\n'], rest)
  | char :: rest =>
    if isLineEnd char then ([char], rest)
    else
      let (line, remaining) := cutLine rest
      (char :: line, remaining)

/-- Cutting off a line loses nothing. -/
theorem cutLine_append (chars : List Char) :
    (cutLine chars).1 ++ (cutLine chars).2 = chars := by
  fun_induction cutLine chars <;> simp_all

/-- The first line of a nonempty text is not empty. -/
theorem cutLine_ne_nil (char : Char) (rest : List Char) :
    (cutLine (char :: rest)).1 ≠ [] := by
  unfold cutLine
  split
  · simp_all
  · simp
  · split <;> simp

/-- Every line takes something off the text. -/
theorem cutLine_rest_shorter (char : Char) (rest : List Char) :
    (cutLine (char :: rest)).2.length < (char :: rest).length := by
  have whole := congrArg List.length (cutLine_append (char :: rest))
  have nonempty := List.length_pos_iff.mpr (cutLine_ne_nil char rest)
  simp only [List.length_append] at whole
  omega

/-- The lines of a text, each with its terminator. -/
def lines : List Char → List (List Char)
  | [] => []
  | char :: rest =>
    (cutLine (char :: rest)).1 :: lines (cutLine (char :: rest)).2
  termination_by chars => chars.length
  decreasing_by exact cutLine_rest_shorter char rest

/-- A line without the line feeds and carriage returns at its end. -/
def chomp (line : List Char) : List Char :=
  (line.reverse.dropWhile fun char => char == '\r' || char == '\n').reverse

/-- Reading a file: `\r\n` and a lone `\r` become `\n`. -/
def unifyLineEnds : List Char → List Char
  | [] => []
  | '\r' :: '\n' :: rest => '\n' :: unifyLineEnds rest
  | '\r' :: rest => '\n' :: unifyLineEnds rest
  | char :: rest => char :: unifyLineEnds rest

/-- Drop the carriage returns in front of line feeds; a lone one is kept. -/
def dropCarriageReturns : List Char → List Char
  | [] => []
  | '\r' :: '\n' :: rest => '\n' :: dropCarriageReturns rest
  | char :: rest => char :: dropCarriageReturns rest

end AnalyzerSessions.Text
