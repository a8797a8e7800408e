import AnalyzerSessions.Proofs.SnippetMeaning

namespace AnalyzerSessions.Snippet

/-!
# What is kept of a snippet

Whatever a text looks like, its plain text is what is left of it when some characters are
taken out: nothing is added, and nothing changes its place.  A marker that is never closed
and a choice without an end are read over again as ordinary text, but only before anything
behind them has been kept.

A text without dollar signs and backslashes has no snippet syntax in it, so that all of it
is kept.
-/

/-! ## Choices -/

theorem flatten_consOption
    (char : Char)
    (options : List (List Char)) :
    (consOption char options).flatten = char :: options.flatten := by
  cases options with
  | nil => rfl
  | cons option options => rfl

/-- A character in front of the first option stands in front of all that is kept. -/
theorem sublist_of_map_consOption
    {cut : Option (List (List Char) × List Char)}
    {char : Char}
    {tail rest : List Char}
    {options : List (List Char)}
    (keeps : ∀ {options rest}, cut = some (options, rest) → (options.flatten ++ rest).Sublist tail)
    (found : (cut.map fun found => (consOption char found.1, found.2)) = some (options, rest)) :
    (options.flatten ++ rest).Sublist (char :: tail) := by
  obtain ⟨⟨inner, remaining⟩, isCut, same⟩ := Option.map_eq_some_iff.mp found
  cases same
  rw [flatten_consOption, List.cons_append]
  exact (keeps isCut).cons_cons char

/-- The options of a choice and what follows the choice stand in the text in this order. -/
theorem cutOptions?_sublist
    {chars rest : List Char}
    {options : List (List Char)}
    (found : cutOptions? chars = some (options, rest)) :
    (options.flatten ++ rest).Sublist chars := by
  fun_induction cutOptions? chars generalizing options rest with
  | case1 =>
      cases found
  | case2 char tail special inductionHypothesis =>
      -- Of an escaped character the backslash is left out.
      exact (sublist_of_map_consOption inductionHypothesis found).cons '\\'
  | case3 char tail plain inductionHypothesis =>
      exact sublist_of_map_consOption inductionHypothesis found
  | case4 tail inductionHypothesis =>
      obtain ⟨⟨inner, remaining⟩, isCut, same⟩ := Option.map_eq_some_iff.mp found
      cases same
      exact (inductionHypothesis isCut).cons ','
  | case5 tail =>
      cases found
      exact ((List.Sublist.refl tail).cons '}').cons '|'
  | case6 char tail _ _ _ inductionHypothesis =>
      exact sublist_of_map_consOption inductionHypothesis found

/-! ## Markers -/

/-- What is kept of a marker itself. -/
def Marker.kept : Marker → List Char
  | .stop _ => []
  | .opened _ => []
  | .choice first _ => first
  | .literal => []

/-- A marker keeps some characters of the text and goes on behind them. -/
def Marker.MovesForward (marker : Marker) (chars : List Char) : Prop :=
  (marker.kept ++ marker.rest chars).Sublist chars

theorem dropName?_suffix
    {chars rest : List Char}
    (found : dropName? chars = some rest) :
    rest <:+ chars := by
  cases chars with
  | nil =>
      cases found
  | cons char tail =>
      rw [dropName?] at found
      split at found
      · cases found
        exact (List.dropWhile_suffix _).trans (List.suffix_cons char tail)
      · split at found
        · cases found
          exact (List.dropWhile_suffix _).trans (List.suffix_cons char tail)
        · cases found

/-- What follows the character behind a name stands behind the name. -/
theorem sublist_of_dropName?
    {chars rest : List Char}
    {char : Char}
    (found : dropName? chars = some (char :: rest)) :
    rest.Sublist chars :=
  (List.sublist_cons_self char rest).trans (dropName?_suffix found).sublist

theorem bracedMarker_movesForward (chars : List Char) :
    (bracedMarker chars).MovesForward chars := by
  unfold bracedMarker
  split
  · rename_i found
    exact sublist_of_dropName? found
  · rename_i found
    exact sublist_of_dropName? found
  · rename_i rest found
    split
    · rename_i options remaining isCut
      have first : (options.headD []).Sublist options.flatten := by
        cases options with
        | nil => exact .slnil
        | cons option options => exact List.sublist_append_left option options.flatten
      exact ((first.append_right remaining).trans (cutOptions?_sublist isCut)).trans
        (sublist_of_dropName? found)
    · exact List.Sublist.refl chars
  · exact List.Sublist.refl chars

/-- Whatever a dollar sign begins, reading goes on behind what is kept of it. -/
theorem movesForward_of_marker
    {chars : List Char}
    {marked : Marker}
    (begins : marker chars = marked) :
    marked.MovesForward chars := by
  subst begins
  unfold marker
  split
  · rename_i rest
    have forward := bracedMarker_movesForward rest
    cases shape : bracedMarker rest with
    | literal =>
        exact List.Sublist.refl _
    | stop remaining =>
        rw [shape] at forward
        exact forward.cons '{'
    | opened remaining =>
        rw [shape] at forward
        exact forward.cons '{'
    | choice first remaining =>
        rw [shape] at forward
        exact forward.cons '{'
  · split
    · rename_i found
      exact (dropName?_suffix found).sublist
    · exact List.Sublist.refl chars

/-! ## Texts -/

/-- What is read from a place on stands behind that place, in the same order. -/
theorem plainFrom_sublist
    (depth : Nat)
    (chars : List Char) :
    (plainFrom depth chars).Sublist chars := by
  induction depth, chars using plainFrom.induct with
  | case1 depth =>
      have nothing : plainFrom depth [] = [] := by
        rw [plainFrom]
      exact List.sublist_nil.mpr nothing
  | case2 depth char rest special inductionHypothesis =>
      rw [plainFrom, if_pos special]
      exact (inductionHypothesis.cons_cons char).cons '\\'
  | case3 depth char rest plain inductionHypothesis =>
      rw [plainFrom, if_neg plain]
      exact inductionHypothesis.cons_cons '\\'
  | case4 rest inductionHypothesis =>
      rw [plainFrom, if_pos rfl]
      exact inductionHypothesis.cons_cons '}'
  | case5 depth rest isOpen inductionHypothesis =>
      rw [plainFrom, if_neg isOpen]
      exact inductionHypothesis.cons '}'
  | case6 depth rest remaining _ isStop inductionHypothesis =>
      have forward : remaining.Sublist rest := movesForward_of_marker isStop
      rw [plainFrom_dollar, isStop]
      exact (inductionHypothesis.trans forward).cons '$'
  | case7 depth rest remaining _ isOpened inductionHypothesis =>
      have forward : remaining.Sublist rest := movesForward_of_marker isOpened
      rw [plainFrom_dollar, isOpened]
      exact (inductionHypothesis.trans forward).cons '$'
  | case8 depth rest first remaining _ isChoice inductionHypothesis =>
      have forward : (first ++ remaining).Sublist rest := movesForward_of_marker isChoice
      rw [plainFrom_dollar, isChoice]
      exact ((inductionHypothesis.append_left first).trans forward).cons '$'
  | case9 depth rest _ isLiteral inductionHypothesis =>
      rw [plainFrom_dollar, isLiteral]
      exact inductionHypothesis.cons_cons '$'
  | case10 depth char rest notEscape notBrace notDollar inductionHypothesis =>
      rw [plainFrom]
      · exact inductionHypothesis.cons_cons char
      · exact notEscape
      · exact notBrace
      · exact notDollar

/-- A text without dollar signs and backslashes is read as it is: braces, bars and commas mean
nothing in it. -/
theorem plainFrom_of_not_mem
    {chars : List Char}
    (noDollar : '$' ∉ chars)
    (noBackslash : '\\' ∉ chars) :
    plainFrom 0 chars = chars := by
  induction chars with
  | nil =>
      rw [plainFrom]
  | cons char rest inductionHypothesis =>
      rw [List.mem_cons, not_or] at noDollar noBackslash
      have same := inductionHypothesis noDollar.2 noBackslash.2
      by_cases isBrace : char = '}'
      · subst isBrace
        rw [plainFrom, if_pos rfl, same]
      · rw [plainFrom_plain, same]
        simp [isTextSpecial, Ne.symm noDollar.1, isBrace, Ne.symm noBackslash.1]

/-! ## Nesting -/

/-- Characters that are read past leave room for as many placeholders. -/
theorem le_count_of_sublist
    {kept chars : List Char}
    {depth deepest : Nat}
    (isKept : kept.Sublist chars)
    (bounded : deepest ≤ depth + kept.count '$') :
    deepest ≤ depth + chars.count '$' :=
  Nat.le_trans bounded (Nat.add_le_add_left (isKept.count_le '$') depth)

/-- A dollar sign accounts for the placeholder that it may open. -/
theorem le_count_of_marker
    {chars : List Char}
    {marked : Marker}
    {depth next deepest : Nat}
    (begins : marker chars = marked)
    (isNext : next ≤ depth + 1)
    (bounded : deepest ≤ next + (marked.rest chars).count '$') :
    deepest ≤ depth + ('$' :: chars).count '$' := by
  have behind : (marked.rest chars).Sublist chars :=
    (List.sublist_append_right ..).trans (movesForward_of_marker begins)
  have bounded := le_count_of_sublist behind bounded
  rw [List.count_cons_self]
  omega

/-- Every placeholder that is open was opened by a dollar sign of its own. -/
theorem deepestFrom_le_count
    (depth : Nat)
    (chars : List Char) :
    deepestFrom depth chars ≤ depth + chars.count '$' := by
  induction depth, chars using deepestFrom.induct with
  | case1 depth =>
      rw [deepestFrom]
      exact Nat.le_add_right ..
  | case2 depth char rest special inductionHypothesis =>
      rw [deepestFrom, if_pos special]
      exact le_count_of_sublist ((List.sublist_cons_self char rest).cons '\\') inductionHypothesis
  | case3 depth char rest plain inductionHypothesis =>
      rw [deepestFrom, if_neg plain]
      exact le_count_of_sublist (List.sublist_cons_self ..) inductionHypothesis
  | case4 depth rest inductionHypothesis =>
      rw [deepestFrom]
      have fewer : rest.count '$' ≤ ('}' :: rest).count '$' := List.count_le_count_cons
      omega
  | case5 depth rest remaining _ isStop inductionHypothesis =>
      rw [deepestFrom_dollar, isStop]
      exact le_count_of_marker isStop (Nat.le_succ depth) inductionHypothesis
  | case6 depth rest remaining _ isOpened inductionHypothesis =>
      rw [deepestFrom_dollar, isOpened]
      exact le_count_of_marker isOpened (Nat.le_refl _) inductionHypothesis
  | case7 depth rest first remaining _ isChoice inductionHypothesis =>
      rw [deepestFrom_dollar, isChoice]
      exact le_count_of_marker isChoice (Nat.le_succ depth) inductionHypothesis
  | case8 depth rest _ isLiteral inductionHypothesis =>
      rw [deepestFrom_dollar, isLiteral]
      exact le_count_of_sublist (List.sublist_cons_self ..) inductionHypothesis
  | case9 depth char rest notEscape notBrace notDollar inductionHypothesis =>
      rw [deepestFrom]
      · exact le_count_of_sublist (List.sublist_cons_self ..) inductionHypothesis
      · exact notEscape
      · exact notBrace
      · exact notDollar

/-! ## Plain texts -/

theorem plainText?_of_le
    {text : String}
    (shallow : deepestFrom 0 text.toList ≤ maxNesting) :
    plainText? text = some (plainText text) :=
  if_neg (Nat.not_lt.mpr shallow)

theorem plainText_sublist (text : String) : (plainText text).toList.Sublist text.toList := by
  rw [plainText, String.toList_ofList]
  exact plainFrom_sublist 0 text.toList

/-- A text is read unless too many placeholders are open at once in it, which takes as many dollar
signs.  What is read is what is left when characters are taken out of the text, and all of a text
that has neither dollar signs nor backslashes. -/
theorem plainText?_only_deletes (text : String) :
    (deepestFrom 0 text.toList ≤ maxNesting →
      ∃ plain, plainText? text = some plain ∧ plain.toList.Sublist text.toList) ∧
    (maxNesting < deepestFrom 0 text.toList → plainText? text = none) ∧
    deepestFrom 0 text.toList ≤ text.toList.count '$' ∧
    ('$' ∉ text.toList → '\\' ∉ text.toList → plainText? text = some text) := by
  have counted := deepestFrom_le_count 0 text.toList
  rw [Nat.zero_add] at counted
  refine ⟨fun shallow => ?_, fun deep => if_pos deep, counted, fun noDollar noBackslash => ?_⟩
  · exact ⟨plainText text, plainText?_of_le shallow, plainText_sublist text⟩
  · have shallow : deepestFrom 0 text.toList ≤ maxNesting := by
      rw [List.count_eq_zero.mpr noDollar] at counted
      exact Nat.le_trans counted (Nat.zero_le _)
    rw [plainText?_of_le shallow, plainText, plainFrom_of_not_mem noDollar noBackslash,
      String.ofList_toList]

/-- A text with a choice and a placeholder that are never closed: the choice stands for itself, and
the placeholder is read up to the end. -/
def unclosedText : String :=
  "\\,$\x7b1|a\\,b$\x7b2:c\\\x7d"

theorem unclosedText_only_deletes :
    deepestFrom 0 unclosedText.toList ≤ maxNesting ∧
      (∃ plain, plainText? unclosedText = some plain ∧
        plain.toList.Sublist unclosedText.toList) ∧
      plainText? unclosedText = some "\\,$\x7b1|a\\,bc\x7d" := by
  have shallow : deepestFrom 0 unclosedText.toList ≤ maxNesting := by
    decide +kernel
  exact ⟨shallow, (plainText?_only_deletes unclosedText).1 shallow, by decide +kernel⟩

/-- Not every text is read: placeholders may be nested too deeply. -/
theorem deep_snippet_keeps_nothing :
    ¬∀ text, ∃ plain, plainText? text = some plain ∧ plain.toList.Sublist text.toList := by
  intro isRead
  have notRead := (isReadAs_valueAll _ (nestedTree_wellNamed 1500)).plainText?_eq
  obtain ⟨plain, isPlain, -⟩ := isRead (String.ofList (renderAll (nestedTree 1500)))
  rw [isPlain, nestingAll_nestedTree, if_neg (by decide)] at notRead
  cases notRead

end AnalyzerSessions.Snippet
