namespace AnalyzerSessions.Text

/-!
# Wildcards

Patterns of file names: `*` for any run of characters, `?` for one character and
`[...]` for one character of a set.  Case counts, and `*` runs across `/`.
-/

namespace Wildcard

/-- One element of a pattern. -/
inductive Element where
  | anyRun
  | anyChar
  | exactly (char : Char)
  | oneOf (negated : Bool) (ranges : List (Char × Char))
  | impossible
  deriving Repr, DecidableEq

/-- The characters of a set expression up to its closing bracket, and what follows it. -/
def cutSet? (chars : List Char) : Option (List Char × List Char) :=
  let bang := if chars.head? = some '!' then 1 else 0
  let bracket := if (chars.drop bang).head? = some ']' then 1 else 0
  let opening := bang + bracket
  let body := (chars.drop opening).takeWhile (· != ']')
  match (chars.drop opening).dropWhile (· != ']') with
  | ']' :: rest => some (chars.take opening ++ body, rest)
  | _ => none

/-- Cut at the hyphens that may form ranges; the first `skip` characters cannot be one. -/
def chunks : (skip : Nat) → (current : List Char) → List Char → List (List Char)
  | _, current, [] => [current.reverse]
  | skip + 1, current, char :: rest => chunks skip (char :: current) rest
  | 0, current, char :: rest =>
    if char = '-' then current.reverse :: chunks 2 [] rest else chunks 0 (char :: current) rest

/-- A hyphen at the end belongs to the chunk before it. -/
def keepLastHyphen : List (List Char) → List (List Char)
  | [first, []] => [first ++ ['-']]
  | [] => []
  | first :: rest => first :: keepLastHyphen rest

/-- Join neighbours whose range would be empty, from the right. -/
def dropEmptyRanges : List (List Char) → List (List Char)
  | [] => []
  | first :: rest =>
    match dropEmptyRanges rest with
    | [] => [first]
    | second :: others =>
      match first.getLast?, second.head? with
      | some low, some high =>
        if high < low then (first.dropLast ++ second.drop 1) :: others
        else first :: second :: others
      | _, _ => first :: second :: others

/-- The ranges of the chunks: neighbours are joined by a range, other characters stand alone. -/
def rangesOf : List (List Char) → List (Char × Char)
  | [] => []
  | [only] => only.map fun char => (char, char)
  | first :: second :: rest =>
    match first.getLast?, second with
    | some low, high :: others =>
      first.dropLast.map (fun char => (char, char)) ++ (low, high) :: rangesOf (others :: rest)
    | _, _ => first.map (fun char => (char, char)) ++ rangesOf (second :: rest)
  termination_by chunks => chunks.length

/-- The element that a set expression stands for. -/
def ofSet (expression : List Char) : Element :=
  let negated := expression.head? = some '!'
  let plain :=
    if expression.contains '-' then
      dropEmptyRanges (keepLastHyphen (chunks (if negated then 2 else 1) [] expression))
    else [expression]
  match plain with
  | [[]] => .impossible
  | [['!']] => .anyChar
  | ('!' :: first) :: rest => .oneOf true (rangesOf (first :: rest))
  | _ => .oneOf false (rangesOf plain)

/-- The elements of a pattern; an opening bracket without a closing one stands for itself. -/
def elements : List Char → List Element
  | [] => []
  | '*' :: rest => .anyRun :: elements rest
  | '?' :: rest => .anyChar :: elements rest
  | '[' :: rest =>
    match cutSet? rest with
    | some (expression, remaining) =>
      if remaining.length < rest.length then ofSet expression :: elements remaining else []
    | none => .exactly '[' :: elements rest
  | char :: rest => .exactly char :: elements rest
  termination_by chars => chars.length

/-- Whether an element other than `anyRun` accepts a character. -/
def Element.accepts : Element → Char → Bool
  | .anyRun, _ => true
  | .anyChar, _ => true
  | .exactly expected, char => expected == char
  | .oneOf negated ranges, char =>
    (ranges.any fun range => range.1 ≤ char && char ≤ range.2) != negated
  | .impossible, _ => false

/-- For a list of elements and each of its ends, whether it matches the empty text. -/
def emptyMatches : List Element → List Bool
  | [] => [true]
  | element :: rest =>
    let shorter := emptyMatches rest
    (element == .anyRun && shorter.headD false) :: shorter

/-- For a list of elements and each of its ends, whether it matches a character and the text
behind it, when the matches of that text are known. -/
def extendMatches (char : Char) : List Element → (behind : List Bool) → List Bool
  | [], _ => [false]
  | element :: rest, behind =>
    let shorter := extendMatches char rest behind.tail
    (match element with
    | .anyRun => shorter.headD false || behind.headD false
    | element => element.accepts char && behind.tail.headD false) :: shorter

/-- Whether a list of elements matches a whole text. -/
def matchElements (elements : List Element) (chars : List Char) : Bool :=
  (chars.foldr (fun char behind => extendMatches char elements behind)
    (emptyMatches elements)).headD false

end Wildcard

/-- Whether a text as a whole matches a pattern. -/
def matchesWildcard (pattern text : String) : Bool :=
  Wildcard.matchElements (Wildcard.elements pattern.toList) text.toList

end AnalyzerSessions.Text
