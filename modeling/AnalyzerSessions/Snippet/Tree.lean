import AnalyzerSessions.Snippet.Plain

namespace AnalyzerSessions.Snippet

/-!
# Snippet trees

What a well-formed snippet means: a sequence of texts, tab stops, placeholders
with a body and choices.  `render` writes a tree with the escapes that each kind
of text needs, and `value` is the text that the tree stands for.
-/

/-- One part of a snippet. -/
inductive Element where
  | literal (text : List Char)
  | tabStop (name : List Char)
  | placeholder (name : List Char) (body : List Element)
  | choice (name : List Char) (first : List Char) (others : List (List Char))

/-- A tab stop number: at least one decimal digit and nothing else. -/
def IsNumber (name : List Char) : Prop :=
  name ≠ [] ∧ ∀ char ∈ name, Text.isDecimal char = true

/-- A variable name. -/
def IsVariable : List Char → Prop
  | [] => False
  | first :: rest => isNameStart first = true ∧ ∀ char ∈ rest, isNameChar char = true

/-- A name that a tab stop, a placeholder or a choice may have. -/
def IsName (name : List Char) : Prop :=
  IsNumber name ∨ IsVariable name

/-- Put a backslash before every character of a class. -/
def escaped (special : Char → Bool) (chars : List Char) : List Char :=
  chars.flatMap fun char => if special char then ['\\', char] else [char]

/-- The characters with a meaning in literal text. -/
def isTextSpecial (char : Char) : Bool :=
  char == '$' || char == '}' || char == '\\'

/-- The characters with a meaning inside an option. -/
def isOptionSpecial (char : Char) : Bool :=
  char == ',' || char == '|' || char == '\\'

/-- The options after the first, each behind a comma. -/
def renderOptions (options : List (List Char)) : List Char :=
  options.flatMap fun option => ',' :: escaped isOptionSpecial option

mutual

/-- The written form of a part. -/
def Element.render : Element → List Char
  | .literal text => escaped isTextSpecial text
  | .tabStop name => '$' :: '{' :: name ++ ['}']
  | .placeholder name body => '$' :: '{' :: name ++ ':' :: renderAll body ++ ['}']
  | .choice name first others =>
    '$' :: '{' :: name ++ '|' :: escaped isOptionSpecial first ++ renderOptions others ++ ['|', '}']

/-- The written form of a sequence of parts. -/
def renderAll : List Element → List Char
  | [] => []
  | element :: rest => element.render ++ renderAll rest

end

mutual

/-- The text that a part stands for. -/
def Element.value : Element → List Char
  | .literal text => text
  | .tabStop _ => []
  | .placeholder _ body => valueAll body
  | .choice _ first _ => first

/-- The text that a sequence of parts stands for. -/
def valueAll : List Element → List Char
  | [] => []
  | element :: rest => element.value ++ valueAll rest

end

mutual

/-- Every name in a part is a number or a variable name. -/
def Element.WellNamed : Element → Prop
  | .literal _ => True
  | .tabStop name => IsName name
  | .placeholder name body => IsName name ∧ WellNamedAll body
  | .choice name _ _ => IsName name

/-- Every name in a sequence of parts is a number or a variable name. -/
def WellNamedAll : List Element → Prop
  | [] => True
  | element :: rest => element.WellNamed ∧ WellNamedAll rest

end

end AnalyzerSessions.Snippet
