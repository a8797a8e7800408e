import AnalyzerSessions.Snippet.Tree

namespace AnalyzerSessions.Snippet

/-!
# What snippets stand for

A snippet tree is written with escapes and read back as the text that it stands for,
whatever texts, options and names it has.  Reading goes into a placeholder once for each
level of nesting, and gives up when more placeholders are open than may be.
-/

/-! ## Names -/

/-- A character that ends a name: it is no decimal digit and continues no variable name. -/
structure EndsName (char : Char) : Prop where
  notDecimal : Text.isDecimal char = false
  notNameChar : isNameChar char = false

theorem endsName_brace : EndsName '}' := ⟨by decide, by decide⟩

theorem endsName_colon : EndsName ':' := ⟨by decide, by decide⟩

theorem endsName_bar : EndsName '|' := ⟨by decide, by decide⟩

theorem isDecimal_of_isNameStart
    {char : Char}
    (starts : isNameStart char = true) :
    Text.isDecimal char = false := by
  have small : char.toNat < 128 := by
    simp only [isNameStart, Text.isAsciiLetter, Bool.or_eq_true, Bool.and_eq_true,
      decide_eq_true_eq, Char.le_def, beq_iff_eq] at starts
    rcases starts with (⟨_, below⟩ | ⟨_, below⟩) | rfl
    · exact Nat.lt_of_le_of_lt (UInt32.le_iff_toNat_le.mp below) (by decide)
    · exact Nat.lt_of_le_of_lt (UInt32.le_iff_toNat_le.mp below) (by decide)
    · decide
  have checked : ∀ code < 128, isNameStart (Char.ofNat code) = true →
      Text.isDecimal (Char.ofNat code) = false := by
    decide +kernel
  have decided := checked char.toNat small
  rw [Char.ofNat_toNat] at decided
  exact decided starts

theorem dropName?_append
    {name : List Char}
    {char : Char}
    (named : IsName name)
    (ends : EndsName char)
    (rest : List Char) :
    dropName? (name ++ char :: rest) = some (char :: rest) := by
  cases name with
  | nil =>
      rcases named with ⟨nonempty, _⟩ | isVariable
      · exact (nonempty rfl).elim
      · exact isVariable.elim
  | cons first tail =>
      rcases named with ⟨_, digits⟩ | ⟨starts, continues⟩
      · have tailDigits : ∀ digit ∈ tail, Text.isDecimal digit = true :=
          fun digit member => digits digit (List.mem_cons_of_mem _ member)
        simp [dropName?, digits first List.mem_cons_self,
          List.dropWhile_append_of_pos tailDigits, ends.notDecimal]
      · simp [dropName?, isDecimal_of_isNameStart starts, starts,
          List.dropWhile_append_of_pos continues, ends.notNameChar]

/-! ## Options -/

theorem cutOptions?_escape
    {char : Char}
    (special : isOptionSpecial char = true)
    (rest : List Char) :
    cutOptions? ('\\' :: char :: rest) =
      (cutOptions? rest).map fun found => (consOption char found.1, found.2) := by
  rw [cutOptions?]
  exact if_pos special

example : cutOptions? ['\\', ',', '|', '}'] = some ([[',']], []) := by
  cbv

theorem cutOptions?_plain
    {char : Char}
    (plain : isOptionSpecial char = false)
    (rest : List Char) :
    cutOptions? (char :: rest) =
      (cutOptions? rest).map fun found => (consOption char found.1, found.2) := by
  simp only [isOptionSpecial, Bool.or_eq_false_iff, beq_eq_false_iff_ne] at plain
  obtain ⟨⟨notComma, notBar⟩, notBackslash⟩ := plain
  rw [cutOptions?]
  · exact fun next tail isBackslash => (notBackslash isBackslash).elim
  · exact notComma
  · exact fun tail isBar => (notBar isBar).elim

theorem cutOptions?_escaped
    {options : List (List Char)}
    {next rest chars : List Char}
    (option : List Char)
    (cut : cutOptions? chars = some (next :: options, rest)) :
    cutOptions? (escaped isOptionSpecial option ++ chars) =
      some ((option ++ next) :: options, rest) := by
  induction option with
  | nil =>
      exact cut
  | cons char tail inductionHypothesis =>
      rw [escaped] at inductionHypothesis
      rw [escaped, List.flatMap_cons, List.append_assoc]
      cases special : isOptionSpecial char with
      | true =>
          simp [cutOptions?_escape special, inductionHypothesis, consOption]
      | false =>
          simp [cutOptions?_plain special, inductionHypothesis, consOption]

/-- The options of a choice are read up to its end. -/
theorem cutOptions?_options
    (first : List Char)
    (others : List (List Char))
    (rest : List Char) :
    cutOptions? (escaped isOptionSpecial first ++ (renderOptions others ++ '|' :: '}' :: rest)) =
      some (first :: others, rest) := by
  induction others generalizing first with
  | nil =>
      have closed : cutOptions? ('|' :: '}' :: rest) = some ([[]], rest) := rfl
      simpa [renderOptions] using cutOptions?_escaped first closed
  | cons second others inductionHypothesis =>
      have parted := congrArg (Option.map fun found => ([] :: found.1, found.2))
        (inductionHypothesis second)
      rw [← cutOptions?] at parted
      simpa [renderOptions] using cutOptions?_escaped first parted

/-! ## Markers -/

section

variable {name : List Char} (named : IsName name) (rest : List Char)

include named

theorem marker_tabStop : marker ('{' :: (name ++ '}' :: rest)) = .stop rest := by
  simp [marker, bracedMarker, dropName?_append named endsName_brace]

theorem marker_placeholder : marker ('{' :: (name ++ ':' :: rest)) = .opened rest := by
  simp [marker, bracedMarker, dropName?_append named endsName_colon]

theorem marker_choice
    (first : List Char)
    (others : List (List Char)) :
    marker ('{' :: (name ++ '|' :: (escaped isOptionSpecial first ++
      (renderOptions others ++ '|' :: '}' :: rest)))) = .choice first rest := by
  simp [marker, bracedMarker, dropName?_append named endsName_bar,
    cutOptions?_options]

end

/-! ## Steps of the reading -/

section

variable {depth : Nat} {char : Char} {chars rest : List Char}

theorem plainFrom_escape (special : isTextSpecial char = true) :
    plainFrom depth ('\\' :: char :: rest) = char :: plainFrom depth rest := by
  rw [plainFrom]
  exact if_pos special

example : plainFrom 0 ['\\', '}'] = ['}'] := by
  cbv

theorem deepestFrom_escape (special : isTextSpecial char = true) :
    deepestFrom depth ('\\' :: char :: rest) = deepestFrom depth rest := by
  rw [deepestFrom]
  exact if_pos special

example : deepestFrom 0 ['\\', '}'] = 0 := by
  cbv

theorem plainFrom_plain (plain : isTextSpecial char = false) :
    plainFrom depth (char :: rest) = char :: plainFrom depth rest := by
  simp only [isTextSpecial, Bool.or_eq_false_iff, beq_eq_false_iff_ne] at plain
  obtain ⟨⟨notDollar, notBrace⟩, notBackslash⟩ := plain
  rw [plainFrom]
  · exact fun next tail isBackslash => (notBackslash isBackslash).elim
  · exact notBrace
  · exact notDollar

theorem deepestFrom_plain (plain : isTextSpecial char = false) :
    deepestFrom depth (char :: rest) = deepestFrom depth rest := by
  simp only [isTextSpecial, Bool.or_eq_false_iff, beq_eq_false_iff_ne] at plain
  obtain ⟨⟨notDollar, notBrace⟩, notBackslash⟩ := plain
  rw [deepestFrom]
  · exact fun next tail isBackslash => (notBackslash isBackslash).elim
  · exact notBrace
  · exact notDollar

theorem plainFrom_close : plainFrom (depth + 1) ('}' :: rest) = plainFrom depth rest := by
  rw [plainFrom]
  rfl

theorem deepestFrom_close :
    deepestFrom (depth + 1) ('}' :: rest) = max (depth + 1) (deepestFrom depth rest) := by
  rw [deepestFrom]
  rfl

/-- Reading goes on behind what a dollar sign begins. -/
theorem plainFrom_dollar :
    plainFrom depth ('$' :: chars) =
      match marker chars with
      | .stop rest => plainFrom depth rest
      | .opened rest => plainFrom (depth + 1) rest
      | .choice first rest => first ++ plainFrom depth rest
      | .literal => '$' :: plainFrom depth chars := by
  rw [plainFrom]
  split <;> simp_all

theorem deepestFrom_dollar :
    deepestFrom depth ('$' :: chars) =
      match marker chars with
      | .stop rest => deepestFrom depth rest
      | .opened rest => deepestFrom (depth + 1) rest
      | .choice _ rest => deepestFrom depth rest
      | .literal => deepestFrom depth chars := by
  rw [deepestFrom]
  split <;> simp_all

/-- The placeholders that are open count. -/
theorem le_deepestFrom
    (depth : Nat)
    (chars : List Char) :
    depth ≤ deepestFrom depth chars := by
  induction depth, chars using deepestFrom.induct with
  | case1 depth =>
      simp [deepestFrom]
  | case2 depth char rest special inductionHypothesis =>
      rwa [deepestFrom, if_pos special]
  | case3 depth char rest plain inductionHypothesis =>
      rwa [deepestFrom, if_neg plain]
  | case4 depth rest =>
      rw [deepestFrom]
      exact Nat.le_max_left _ _
  | case5 depth rest remaining _ isStop inductionHypothesis =>
      rwa [deepestFrom_dollar, isStop]
  | case6 depth rest remaining _ isOpened inductionHypothesis =>
      rw [deepestFrom_dollar, isOpened]
      exact Nat.le_of_succ_le inductionHypothesis
  | case7 depth rest first remaining _ isChoice inductionHypothesis =>
      rwa [deepestFrom_dollar, isChoice]
  | case8 depth rest _ isLiteral inductionHypothesis =>
      rwa [deepestFrom_dollar, isLiteral]
  | case9 depth char rest notEscape notBrace notDollar inductionHypothesis =>
      rwa [deepestFrom]
      · exact notEscape
      · exact notBrace
      · exact notDollar

end

/-! ## Reading what was written -/

/-- A written text is read as its value, whatever is around it, and opens placeholders inside each
other to a depth. -/
structure IsReadAs (written value : List Char) (nesting : Nat) : Prop where
  plain : ∀ depth rest, plainFrom depth (written ++ rest) = value ++ plainFrom depth rest
  deepest : ∀ depth rest,
    deepestFrom depth (written ++ rest) = max (depth + nesting) (deepestFrom depth rest)

namespace IsReadAs

variable {first second firstValue secondValue name : List Char} {nesting other : Nat}

theorem nil : IsReadAs [] [] 0 where
  plain _ _ := rfl
  deepest depth rest := (Nat.max_eq_right (le_deepestFrom depth rest)).symm

theorem append
    (isRead : IsReadAs first firstValue nesting)
    (isReadLater : IsReadAs second secondValue other) :
    IsReadAs (first ++ second) (firstValue ++ secondValue) (max nesting other) where
  plain depth rest := by
    simp only [List.append_assoc, isRead.plain, isReadLater.plain]
  deepest depth rest := by
    simp only [List.append_assoc, isRead.deepest, isReadLater.deepest]
    omega

theorem literal (text : List Char) : IsReadAs (escaped isTextSpecial text) text 0 := by
  induction text with
  | nil =>
      exact nil
  | cons char tail inductionHypothesis =>
      have isRead : IsReadAs (if isTextSpecial char then ['\\', char] else [char]) [char] 0 := by
        cases special : isTextSpecial char with
        | true =>
            exact ⟨fun depth rest => plainFrom_escape special, fun depth rest =>
              (deepestFrom_escape special).trans (nil.deepest depth rest)⟩
        | false =>
            exact ⟨fun depth rest => plainFrom_plain special, fun depth rest =>
              (deepestFrom_plain special).trans (nil.deepest depth rest)⟩
      exact isRead.append inductionHypothesis

/-- A marker that is read as a text is read so with anything behind it. -/
theorem ofMarker
    {written value : List Char}
    (plain : ∀ depth rest, plainFrom depth (written ++ rest) = value ++ plainFrom depth rest)
    (deepest : ∀ depth rest, deepestFrom depth (written ++ rest) = deepestFrom depth rest) :
    IsReadAs written value 0 :=
  ⟨plain, fun depth rest => (deepest depth rest).trans (nil.deepest depth rest)⟩

theorem tabStop (named : IsName name) : IsReadAs ('$' :: '{' :: name ++ ['}']) [] 0 := by
  have isMarker := marker_tabStop named
  refine ofMarker (fun depth rest => ?_) fun depth rest => ?_
  · simp [plainFrom_dollar, isMarker]
  · simp [deepestFrom_dollar, isMarker]

theorem choice
    (named : IsName name)
    (first : List Char)
    (others : List (List Char)) :
    IsReadAs ('$' :: '{' :: name ++ '|' :: escaped isOptionSpecial first ++ renderOptions others ++
      ['|', '}']) first 0 := by
  have isMarker := fun rest => marker_choice named rest first others
  refine ofMarker (fun depth rest => ?_) fun depth rest => ?_
  · simp [plainFrom_dollar, isMarker]
  · simp [deepestFrom_dollar, isMarker]

/-- A placeholder is read as its body, and opens one more placeholder. -/
theorem placeholder
    {body value : List Char}
    (named : IsName name)
    (isRead : IsReadAs body value nesting) :
    IsReadAs ('$' :: '{' :: name ++ ':' :: body ++ ['}']) value (nesting + 1) := by
  have isMarker := marker_placeholder named
  refine ⟨fun depth rest => ?_, fun depth rest => ?_⟩
  · simp [plainFrom_dollar, isMarker, isRead.plain, plainFrom_close]
  · have isOpened : deepestFrom depth ('$' :: '{' :: (name ++ ':' :: (body ++ '}' :: rest))) =
        max (depth + 1 + nesting) (max (depth + 1) (deepestFrom depth rest)) := by
      rw [deepestFrom_dollar, isMarker]
      exact (isRead.deepest _ _).trans (congrArg _ deepestFrom_close)
    simp only [List.cons_append, List.append_assoc, List.nil_append, isOpened]
    omega

end IsReadAs

/-! ## Reading trees -/

mutual

/-- How many placeholders are open at once in a part. -/
def Element.nesting : Element → Nat
  | .literal _ => 0
  | .tabStop _ => 0
  | .placeholder _ body => nestingAll body + 1
  | .choice _ _ _ => 0

/-- How many placeholders are open at once in a sequence of parts. -/
def nestingAll : List Element → Nat
  | [] => 0
  | element :: rest => max element.nesting (nestingAll rest)

end

mutual

theorem Element.isReadAs_value :
    ∀ element : Element, element.WellNamed → IsReadAs element.render element.value element.nesting
  | .literal text, _ => .literal text
  | .tabStop _, named => .tabStop named
  | .placeholder _ body, ⟨named, bodyNamed⟩ => .placeholder named (isReadAs_valueAll body bodyNamed)
  | .choice _ first others, named => .choice named first others

/-- A sequence of parts is read as the text that it stands for. -/
theorem isReadAs_valueAll :
    ∀ tree : List Element, WellNamedAll tree →
      IsReadAs (renderAll tree) (valueAll tree) (nestingAll tree)
  | [], _ => .nil
  | element :: rest, ⟨named, restNamed⟩ =>
    (element.isReadAs_value named).append (isReadAs_valueAll rest restNamed)

end

/-- What is read as a text is the plain text of a snippet, unless too many placeholders are open at
once. -/
theorem IsReadAs.plainText?_eq
    {written value : List Char}
    {nesting : Nat}
    (isRead : IsReadAs written value nesting) :
    plainText? (String.ofList written) =
      if nesting ≤ maxNesting then some (String.ofList value) else none := by
  have isPlain : plainFrom 0 written = value := by
    simpa [plainFrom] using isRead.plain 0 []
  have isDeepest : deepestFrom 0 written = nesting := by
    simpa [deepestFrom] using isRead.deepest 0 []
  rw [plainText?, plainText, String.toList_ofList, isPlain, isDeepest]
  by_cases shallow : nesting ≤ maxNesting
  · rw [if_pos shallow, if_neg (Nat.not_lt.mpr shallow)]
  · rw [if_neg shallow, if_pos (Nat.lt_of_not_le shallow)]

/-- The plain text of a snippet that is written as a tree is the text that the tree stands for, when
no more placeholders are open at once than may be; a deeper one is not read at all. -/
theorem plainText?_renderAll
    {tree : List Element}
    (named : WellNamedAll tree) :
    plainText? (String.ofList (renderAll tree)) =
      if nestingAll tree ≤ maxNesting then some (String.ofList (valueAll tree)) else none :=
  (isReadAs_valueAll tree named).plainText?_eq

/-- A function with the parts of a snippet: a name with a body of its own, a choice, and braces that
stand for themselves. -/
def functionTree : List Element :=
  [.literal "fn ".toList,
    .placeholder ['1'] [.literal "a\x7d".toList, .placeholder "name".toList [.tabStop ['2']]],
    .choice ['3'] "(x, y)".toList [['|']], .literal " \x7b".toList, .tabStop ['0'],
    .literal ['}']]

theorem functionTree_wellNamed : WellNamedAll functionTree := by
  have isNumber : ∀ digit ∈ ['0', '1', '2', '3'], IsName [digit] := by
    intro digit member
    refine .inl ⟨List.cons_ne_nil _ _, fun char isDigit => ?_⟩
    cases List.mem_singleton.mp isDigit
    exact List.all_eq_true.mp (by decide) digit member
  have isVariable : IsName "name".toList := .inr ⟨by decide, List.all_eq_true.mp (by decide)⟩
  exact ⟨trivial, ⟨isNumber '1' (by decide), trivial, ⟨isVariable, isNumber '2' (by decide), trivial⟩,
    trivial⟩, isNumber '3' (by decide), trivial, isNumber '0' (by decide), trivial, trivial⟩

theorem plainText?_functionTree :
    WellNamedAll functionTree ∧
      String.ofList (renderAll functionTree) =
        "fn $\x7b1:a\\\x7d$\x7bname:$\x7b2\x7d\x7d\x7d$\x7b3|(x\\, y),\\||\x7d \x7b$\x7b0\x7d\\\x7d" ∧
      plainText? (String.ofList (renderAll functionTree)) = some "fn a\x7d(x, y) \x7b\x7d" :=
  ⟨functionTree_wellNamed, by decide +kernel, plainText?_renderAll functionTree_wellNamed⟩

/-- Placeholders that are nested to a depth. -/
def nestedTree : Nat → List Element
  | 0 => []
  | depth + 1 => [.placeholder ['1'] (nestedTree depth)]

theorem nestedTree_wellNamed : ∀ depth, WellNamedAll (nestedTree depth)
  | 0 => trivial
  | depth + 1 => ⟨⟨.inl ⟨List.cons_ne_nil _ _, List.all_eq_true.mp (by decide)⟩, nestedTree_wellNamed depth⟩,
    trivial⟩

theorem nestingAll_nestedTree : ∀ depth, nestingAll (nestedTree depth) = depth
  | 0 => rfl
  | depth + 1 => by simp [nestedTree, nestingAll, Element.nesting, nestingAll_nestedTree depth]

/-- Not every snippet has a plain text: placeholders may be nested too deeply. -/
theorem deep_snippet_is_not_read :
    ¬∀ tree, WellNamedAll tree →
      plainText? (String.ofList (renderAll tree)) = some (String.ofList (valueAll tree)) := by
  intro isRead
  have named := nestedTree_wellNamed 1500
  have notRead := (isReadAs_valueAll _ named).plainText?_eq
  rw [isRead _ named, nestingAll_nestedTree, if_neg (by decide)] at notRead
  cases notRead

end AnalyzerSessions.Snippet
