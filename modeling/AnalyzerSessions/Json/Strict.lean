import AnalyzerSessions.Json.Parser

namespace AnalyzerSessions.Json

open Number Text

/-!
# Strict reading

Some texts are read more strictly: no string may hold a lone surrogate escape,
arrays and objects that are not empty may stand inside each other only up to a
depth, and no number may have too many digits in front of its point.  All this is
checked on texts that are known to be JSON values.
-/

/-- Whether a text has a surrogate escape that is not part of a pair. -/
def hasLoneSurrogate : List Char → Bool
  | '\\' :: 'u' :: a :: b :: c :: d :: rest =>
    match unit? (a :: b :: c :: d :: ['"']) with
    | none => hasLoneSurrogate rest
    | some (unit, _) =>
      if isLow unit then true
      else if isHigh unit then
        match rest with
        | '\\' :: 'u' :: e :: f :: g :: h :: remaining =>
          match unit? (e :: f :: g :: h :: ['"']) with
          | some (low, _) => if isLow low then hasLoneSurrogate remaining else true
          | none => true
        | _ => true
      else hasLoneSurrogate rest
  | '\\' :: _ :: rest => hasLoneSurrogate rest
  | _ :: rest => hasLoneSurrogate rest
  | [] => false

/-- Where the scan of a text for its brackets stands. -/
inductive BracketScan where
  | outside
  | inString
  | afterBackslash
  deriving Repr, DecidableEq

/-- The characters of a text without blanks and without what stands inside strings. -/
def structureFrom : BracketScan → List Char → List Char
  | _, [] => []
  | .outside, char :: rest =>
    if isSpace char then structureFrom .outside rest
    else char :: structureFrom (if char = '"' then .inString else .outside) rest
  | .inString, char :: rest =>
    if char = '"' then structureFrom .outside rest
    else structureFrom (if char = '\\' then .afterBackslash else .inString) rest
  | .afterBackslash, _ :: rest => structureFrom .inString rest

/-- The greatest number of nonempty containers inside each other, when `depth` are open and
`deepest` is the greatest number so far. -/
def deepestFrom (depth deepest : Nat) : List Char → Nat
  | '[' :: ']' :: rest => deepestFrom depth deepest rest
  | '{' :: '}' :: rest => deepestFrom depth deepest rest
  | char :: rest =>
    if char = '[' || char = '{' then deepestFrom (depth + 1) (max deepest (depth + 1)) rest
    else if char = ']' || char = '}' then deepestFrom (depth - 1) deepest rest
    else deepestFrom depth deepest rest
  | [] => deepest

/-- The greatest number of nonempty containers inside each other. -/
def textDepth (chars : List Char) : Nat :=
  deepestFrom 0 0 (structureFrom .outside chars)

/-- The deepest nesting of nonempty containers in a strict text. -/
def strictDepth : Nat := 200

/-- Whether a character may stand in a number. -/
def isNumberChar (char : Char) : Bool :=
  isAsciiDigit char || char == '.' || char == 'e' || char == 'E' || char == '+' || char == '-'

/-- Whether a number in a text without strings has too many digits in front of its point. -/
def hasLongNumber : (fuel : Nat) → List Char → Bool
  | 0, _ => false
  | _, [] => false
  | fuel + 1, char :: rest =>
    if isAsciiDigit char then
      maxDigits ≤ (rest.takeWhile isAsciiDigit).length ||
        hasLongNumber fuel (rest.dropWhile isNumberChar)
    else hasLongNumber fuel rest

/-- Read a strict text. -/
def parseStrict? (text : String) : Option Json :=
  match parse text with
  | .error _ => none
  | .ok value =>
    if hasLoneSurrogate text.toList || strictDepth < textDepth text.toList ||
        hasLongNumber (text.length + 1) (structureFrom .outside text.toList) then none
    else some value

end AnalyzerSessions.Json
