import AnalyzerSessions.Text.Class

namespace AnalyzerSessions.Snippet

open Text

/-!
# Plain text of snippets

A snippet is a text with tab stops (`$1`, `${name}`), placeholders
(`${1:body}`) and choices (`${1|first,second|}`).  Its plain text keeps the
bodies of placeholders and the first option of choices.  What only looks like
snippet syntax stands for itself.

Bodies are read in the same pass as the text around them: only the number of
placeholders that are open at a place counts.
-/

/-- A character that may begin a variable name. -/
def isNameStart (char : Char) : Bool :=
  isAsciiLetter char || char == '_'

/-- A character that may continue a variable name. -/
def isNameChar (char : Char) : Bool :=
  isAsciiLetter char || isAsciiDigit char || char == '_'

/-- Drop a tab stop number or a variable name. -/
def dropName? : List Char → Option (List Char)
  | [] => none
  | char :: rest =>
    if isDecimal char then some (rest.dropWhile isDecimal)
    else if isNameStart char then some (rest.dropWhile isNameChar)
    else none

/-- Put a character in front of the first option. -/
def consOption (char : Char) : List (List Char) → List (List Char)
  | [] => [[char]]
  | option :: options => (char :: option) :: options

/-- The options of a choice up to its closing `|}`, and the rest of the text. -/
def cutOptions? : List Char → Option (List (List Char) × List Char)
  | [] => none
  | '\\' :: char :: rest =>
    if char = ',' || char = '|' || char = '\\' then
      (cutOptions? rest).map fun found => (consOption char found.1, found.2)
    else (cutOptions? (char :: rest)).map fun found => (consOption '\\' found.1, found.2)
  | ',' :: rest => (cutOptions? rest).map fun found => ([] :: found.1, found.2)
  | '|' :: '}' :: rest => some ([[]], rest)
  | char :: rest => (cutOptions? rest).map fun found => (consOption char found.1, found.2)

/-- What a dollar sign begins. -/
inductive Marker where
  /-- A tab stop or a variable, with nothing to keep. -/
  | stop (rest : List Char)
  /-- A placeholder, whose body begins here. -/
  | opened (rest : List Char)
  /-- A choice with its first option. -/
  | choice (first : List Char) (rest : List Char)
  /-- No snippet syntax: the dollar sign stands for itself. -/
  | literal
  deriving Repr, DecidableEq

/-- The marker after `${`. -/
def bracedMarker (chars : List Char) : Marker :=
  match dropName? chars with
  | some ('}' :: rest) => .stop rest
  | some (':' :: rest) => .opened rest
  | some ('|' :: rest) =>
    match cutOptions? rest with
    | some (options, remaining) => .choice (options.headD []) remaining
    | none => .literal
  | _ => .literal

/-- The marker after `$`. -/
def marker (chars : List Char) : Marker :=
  match chars with
  | '{' :: rest => bracedMarker rest
  | _ =>
    match dropName? chars with
    | some rest => .stop rest
    | none => .literal

/-- Dropping characters from the front never makes a text longer. -/
theorem length_dropWhile_le (drops : Char → Bool) (chars : List Char) :
    (chars.dropWhile drops).length ≤ chars.length :=
  (List.dropWhile_suffix drops).length_le

/-- A name has at least one character. -/
theorem dropName?_shorter {chars rest : List Char} (found : dropName? chars = some rest) :
    rest.length < chars.length := by
  cases chars with
  | nil => simp [dropName?] at found
  | cons char tail =>
    simp only [dropName?] at found
    split at found
    · have bound := length_dropWhile_le isDecimal tail
      cases found
      simp only [List.length_cons]
      omega
    · split at found
      · have bound := length_dropWhile_le isNameChar tail
        cases found
        simp only [List.length_cons]
        omega
      · simp at found

/-- A change of the options alone keeps the rest of the text. -/
theorem exists_of_map_fst {found : Option (List (List Char) × List Char)}
    {change : List (List Char) × List Char → List (List Char)} {options : List (List Char)}
    {rest : List Char}
    (changed : (found.map fun pair => (change pair, pair.2)) = some (options, rest)) :
    ∃ inner, found = some (inner, rest) := by
  cases found with
  | none => simp at changed
  | some pair =>
    simp only [Option.map_some, Option.some.injEq, Prod.mk.injEq] at changed
    exact ⟨pair.1, by rw [← changed.2]⟩

/-- The end of a choice takes at least one character. -/
theorem cutOptions?_shorter {chars rest : List Char} {options : List (List Char)}
    (found : cutOptions? chars = some (options, rest)) : rest.length < chars.length := by
  fun_induction cutOptions? chars generalizing options rest with
  | case1 => simp at found
  | case2 char tail special inductionHypothesis =>
    obtain ⟨_, inner⟩ := exists_of_map_fst found
    have shorter := inductionHypothesis inner
    simp only [List.length_cons]
    omega
  | case3 char tail plain inductionHypothesis =>
    obtain ⟨_, inner⟩ := exists_of_map_fst found
    have shorter := inductionHypothesis inner
    simp only [List.length_cons] at shorter ⊢
    omega
  | case4 tail inductionHypothesis =>
    obtain ⟨_, inner⟩ := exists_of_map_fst found
    have shorter := inductionHypothesis inner
    simp only [List.length_cons]
    omega
  | case5 tail =>
    simp only [Option.some.injEq, Prod.mk.injEq] at found
    rw [← found.2]
    simp only [List.length_cons]
    omega
  | case6 char tail _ _ _ inductionHypothesis =>
    obtain ⟨_, inner⟩ := exists_of_map_fst found
    have shorter := inductionHypothesis inner
    simp only [List.length_cons]
    omega

/-- The text after a marker; all of it when the dollar sign stands for itself. -/
def Marker.rest (chars : List Char) : Marker → List Char
  | .stop rest => rest
  | .opened rest => rest
  | .choice _ rest => rest
  | .literal => chars

/-- What follows a marker in braces is no longer than what followed its brace. -/
theorem bracedMarker_rest_le (chars : List Char) :
    ((bracedMarker chars).rest chars).length ≤ chars.length := by
  unfold bracedMarker
  split
  · rename_i rest found
    have shorter := dropName?_shorter found
    simp only [List.length_cons] at shorter
    exact Nat.le_of_lt (Nat.lt_of_succ_lt shorter)
  · rename_i rest found
    have shorter := dropName?_shorter found
    simp only [List.length_cons] at shorter
    exact Nat.le_of_lt (Nat.lt_of_succ_lt shorter)
  · rename_i rest found
    have shorter := dropName?_shorter found
    simp only [List.length_cons] at shorter
    split
    · rename_i options remaining cut
      have shortest := cutOptions?_shorter cut
      exact Nat.le_of_lt (Nat.lt_trans shortest (Nat.lt_of_succ_lt shorter))
    · exact Nat.le_refl _
  · exact Nat.le_refl _

/-- What follows a marker is no longer than what followed the dollar sign. -/
theorem marker_rest_le (chars : List Char) :
    ((marker chars).rest chars).length ≤ chars.length := by
  unfold marker
  split
  · rename_i rest
    have bound := bracedMarker_rest_le rest
    cases shape : bracedMarker rest with
    | literal => exact Nat.le_refl _
    | stop remaining =>
      rw [shape] at bound
      exact Nat.le_succ_of_le bound
    | opened remaining =>
      rw [shape] at bound
      exact Nat.le_succ_of_le bound
    | choice first remaining =>
      rw [shape] at bound
      exact Nat.le_succ_of_le bound
  · split
    · rename_i rest found
      have := dropName?_shorter found
      simp only [Marker.rest]; omega
    · simp [Marker.rest]

/-- The plain text of what follows a place inside `depth` open placeholders. -/
def plainFrom (depth : Nat) : List Char → List Char
  | [] => []
  | '\\' :: char :: rest =>
    if char = '$' || char = '}' || char = '\\' then char :: plainFrom depth rest
    else '\\' :: plainFrom depth (char :: rest)
  | '}' :: rest => if depth = 0 then '}' :: plainFrom 0 rest else plainFrom (depth - 1) rest
  | '$' :: rest =>
    match marker rest, marker_rest_le rest with
    | .stop remaining, _ => plainFrom depth remaining
    | .opened remaining, _ => plainFrom (depth + 1) remaining
    | .choice first remaining, _ => first ++ plainFrom depth remaining
    | .literal, _ => '$' :: plainFrom depth rest
  | char :: rest => char :: plainFrom depth rest
  termination_by chars => chars.length
  decreasing_by all_goals simp_all [Marker.rest]; try omega

/-- The plain text of a snippet. -/
def plainText (text : String) : String :=
  String.ofList (plainFrom 0 text.toList)

/-- The greatest number of placeholders that are open at once in what follows a place inside
`depth` open ones. -/
def deepestFrom (depth : Nat) : List Char → Nat
  | [] => depth
  | '\\' :: char :: rest =>
    if char = '$' || char = '}' || char = '\\' then deepestFrom depth rest
    else deepestFrom depth (char :: rest)
  | '}' :: rest => max depth (deepestFrom (depth - 1) rest)
  | '$' :: rest =>
    match marker rest, marker_rest_le rest with
    | .stop remaining, _ => deepestFrom depth remaining
    | .opened remaining, _ => deepestFrom (depth + 1) remaining
    | .choice _ remaining, _ => deepestFrom depth remaining
    | .literal, _ => deepestFrom depth rest
  | _ :: rest => deepestFrom depth rest
  termination_by chars => chars.length
  decreasing_by all_goals simp_all [Marker.rest]; try omega

/-- How deeply placeholders may be nested.  Each one is read by a call of its own, and how many calls
are left depends on those that are open already: this is the limit for a reader that is called near
the top. -/
def maxNesting : Nat := 985

/-- The plain text of a snippet whose placeholders are not nested too deeply. -/
def plainText? (text : String) : Option String :=
  if maxNesting < deepestFrom 0 text.toList then none else some (plainText text)

end AnalyzerSessions.Snippet
