import AnalyzerSessions.Proofs.FileUriTexts
import AnalyzerSessions.Proofs.NearestRoots
import Mathlib.Data.List.Basic
import Mathlib.Logic.Relation

namespace AnalyzerSessions.Path

open Text

/-!
# Contained paths

Every text spells a path: the slashes that it begins with are its anchor, and its components
are what stands between slashes, apart from single dots.  Two texts spell the same path
exactly when they can be turned into each other by taking out and putting in what stands for
nothing: further slashes and dots, but never one of exactly two slashes at the front.

A path lies within another one when both have the same anchor and the components of the other
one are the first ones of the path.  That orders paths, and it is a matter of the components
that the texts spell and not of the texts: a text that only goes on where another one ends
does not lie within it.
-/

/-! ## What a text spells -/

/-- The anchor that the slashes at the front of a text are. -/
inductive Begins : List Char → Anchor → Prop where
  | relative {text : List Char} (bare : text.head? ≠ some '/') :
      Begins text .relative
  | single {rest : List Char} (bare : rest.head? ≠ some '/') :
      Begins ('/' :: rest) .root
  | double {rest : List Char} (bare : rest.head? ≠ some '/') :
      Begins ('/' :: '/' :: rest) .doubleRoot
  | several (rest : List Char) :
      Begins ('/' :: '/' :: '/' :: rest) .root

/-- What follows a component: the next slash, or nothing. -/
def EndsPiece (rest : List Char) : Prop :=
  ∀ char ∈ rest.head?, char = '/'

/-- The components that a text spells, from the beginning of a component on. -/
inductive Spells : List Char → List String → Prop where
  | nothing :
      Spells [] []
  | slash {rest : List Char} {parts : List String}
      (spelled : Spells rest parts) :
      Spells ('/' :: rest) parts
  | dot {rest : List Char} {parts : List String}
      (ends : EndsPiece rest)
      (spelled : Spells rest parts) :
      Spells ('.' :: rest) parts
  | component {name : String} {rest : List Char} {parts : List String}
      (isComponent : IsComponent name)
      (ends : EndsPiece rest)
      (spelled : Spells rest parts) :
      Spells (name.toList ++ rest) (name :: parts)

theorem endsPiece_cases
    {rest : List Char}
    (ends : EndsPiece rest) :
    rest = [] ∨ ∃ tail, rest = '/' :: tail := by
  cases rest with
  | nil => exact .inl rfl
  | cons char tail => exact .inr ⟨tail, by rw [ends char rfl]⟩

theorem endsPiece_slash (rest : List Char) : EndsPiece ('/' :: rest) := by
  rintro char ⟨⟩
  rfl

theorem endsPiece_nil : EndsPiece [] := by
  rintro char ⟨⟩

/-! ## Anchors -/

theorem takeWhile_slash_of_bare
    {rest : List Char}
    (bare : rest.head? ≠ some '/') :
    rest.takeWhile (· == '/') = [] := by
  cases rest with
  | nil => rfl
  | cons char tail =>
      refine List.takeWhile_cons_of_neg ?_
      simpa using bare

theorem anchorOf_replicate
    {rest : List Char}
    (bare : rest.head? ≠ some '/')
    (count : Nat) :
    anchorOf (List.replicate count '/' ++ rest) =
      if count = 0 then .relative else if count = 2 then .doubleRoot else .root := by
  have slashes : (List.replicate count '/' ++ rest).takeWhile (· == '/') =
      List.replicate count '/' := by
    rw [List.takeWhile_append_of_pos, takeWhile_slash_of_bare bare, List.append_nil]
    intro char member
    simpa using List.eq_of_mem_replicate member
  rw [anchorOf, slashes, List.length_replicate]
  rcases count with _ | _ | _ | count <;> simp

theorem exists_slashes (text : List Char) :
    ∃ count rest, text = List.replicate count '/' ++ rest ∧ rest.head? ≠ some '/' := by
  induction text with
  | nil =>
      exact ⟨0, [], rfl, nofun⟩
  | cons char tail inductionHypothesis =>
      by_cases isSlash : char = '/'
      · obtain ⟨count, rest, rfl, bare⟩ := inductionHypothesis
        exact ⟨count + 1, rest, by rw [isSlash]; rfl, bare⟩
      · exact ⟨0, char :: tail, rfl, by simpa using isSlash⟩

/-- The anchor of a text is read from it. -/
theorem begins_iff
    {text : List Char}
    {anchor : Anchor} :
    Begins text anchor ↔ anchorOf text = anchor := by
  constructor
  · rintro (bare | bare | bare | rest)
    · exact anchorOf_replicate bare 0
    · exact anchorOf_replicate bare 1
    · exact anchorOf_replicate bare 2
    · simp [anchorOf]
  · rintro rfl
    obtain ⟨count, rest, rfl, bare⟩ := exists_slashes text
    rw [anchorOf_replicate bare]
    rcases count with _ | _ | _ | count
    · exact .relative bare
    · exact .single bare
    · exact .double bare
    · exact .several (List.replicate count '/' ++ rest)

/-! ## Components -/

theorem splitOn_append_slash
    (front rest : List Char) :
    splitOn '/' (front ++ '/' :: rest) = splitOn '/' front ++ splitOn '/' rest := by
  induction front with
  | nil =>
      exact splitOn_cons_self rest
  | cons char front inductionHypothesis =>
      obtain ⟨piece, pieces, isSplit⟩ := List.exists_cons_of_ne_nil (splitOn_ne_nil front)
      rw [isSplit] at inductionHypothesis
      rw [List.cons_append, splitOn, splitOn, inductionHypothesis, isSplit]
      dsimp only [List.cons_append]
      split <;> rfl

/-- A slash parts the components in front of it from those behind it. -/
theorem partsOf_append_slash
    (front rest : List Char) :
    partsOf (front ++ '/' :: rest) = partsOf front ++ partsOf rest := by
  rw [partsOf, splitOn_append_slash, List.filter_append, List.map_append]
  rfl

theorem partsOf_replicate
    (count : Nat)
    (rest : List Char) :
    partsOf (List.replicate count '/' ++ rest) = partsOf rest := by
  induction count with
  | zero =>
      rfl
  | succ count inductionHypothesis =>
      rw [List.replicate_succ, List.cons_append, partsOf_cons_slash, inductionHypothesis]

theorem partsOf_append
    {rest : List Char}
    (ends : EndsPiece rest)
    (front : List Char) :
    partsOf (front ++ rest) = partsOf front ++ partsOf rest := by
  rcases endsPiece_cases ends with rfl | ⟨tail, rfl⟩
  · have none : partsOf [] = [] := rfl
    rw [none, List.append_nil, List.append_nil]
  · rw [partsOf_append_slash, partsOf_cons_slash]

theorem partsOf_component
    {name : String}
    (isComponent : IsComponent name) :
    partsOf name.toList = [name] := by
  have components : ∀ part ∈ [name], IsComponent part := by
    simpa using isComponent
  exact partsOf_joinWith components

theorem Spells.partsOf_eq
    {text : List Char}
    {parts : List String}
    (spelled : Spells text parts) :
    partsOf text = parts := by
  induction spelled with
  | nothing =>
      rfl
  | slash _ inductionHypothesis =>
      rw [partsOf_cons_slash, inductionHypothesis]
  | @dot rest parts ends _ inductionHypothesis =>
      have idle : partsOf ['.'] = [] := rfl
      rw [← List.singleton_append, partsOf_append ends, idle, inductionHypothesis,
        List.nil_append]
  | component isComponent ends _ inductionHypothesis =>
      rw [partsOf_append ends, partsOf_component isComponent, inductionHypothesis,
        List.singleton_append]

/-- A text is a piece without slashes and what follows it. -/
theorem exists_piece (text : List Char) :
    ∃ piece rest, text = piece ++ rest ∧ '/' ∉ piece ∧ EndsPiece rest := by
  induction text with
  | nil =>
      exact ⟨[], [], rfl, List.not_mem_nil, endsPiece_nil⟩
  | cons char tail inductionHypothesis =>
      by_cases isSlash : char = '/'
      · exact ⟨[], char :: tail, rfl, List.not_mem_nil, isSlash ▸ endsPiece_slash tail⟩
      · obtain ⟨piece, rest, rfl, onePiece, ends⟩ := inductionHypothesis
        exact ⟨char :: piece, rest, rfl, by simp [Ne.symm isSlash, onePiece], ends⟩

theorem spells_partsOf (text : List Char) : Spells text (partsOf text) := by
  induction length : text.length using Nat.strongRecOn generalizing text with
  | ind _ inductionHypothesis =>
      obtain ⟨piece, rest, rfl, onePiece, ends⟩ := exists_piece text
      have restSpelled : Spells rest (partsOf rest) := by
        rcases endsPiece_cases ends with rfl | ⟨tail, rfl⟩
        · exact .nothing
        · have shorter : tail.length < (piece ++ '/' :: tail).length := by
            rw [List.length_append, List.length_cons]
            omega
          rw [partsOf_cons_slash]
          exact .slash (inductionHypothesis _ (length ▸ shorter) tail rfl)
      by_cases isEmpty : piece = []
      · rwa [isEmpty, List.nil_append]
      · rw [partsOf_append ends]
        by_cases isDot : piece = ['.']
        · rw [isDot]
          exact .dot ends restSpelled
        · have isComponent : IsComponent (String.ofList piece) := by
            refine ⟨fun same => isEmpty ?_, fun same => isDot ?_, by simpa using onePiece⟩
            · simpa using congrArg String.toList same
            · simpa using congrArg String.toList same
          have spelled := Spells.component isComponent ends restSpelled
          have alone := partsOf_component isComponent
          rw [String.toList_ofList] at spelled alone
          rwa [alone]

/-- The components of a text are read from it. -/
theorem spells_iff
    {text : List Char}
    {parts : List String} :
    Spells text parts ↔ partsOf text = parts :=
  ⟨Spells.partsOf_eq, fun isRead => isRead ▸ spells_partsOf text⟩

/-! ## Respelled texts -/

/-- A place in a text where a component may begin: its front, or behind a slash. -/
def BeginsPiece (front : List Char) : Prop :=
  ∀ char ∈ front.getLast?, char = '/'

/-- Some character of a text is no slash. -/
def IsNamed (front : List Char) : Prop :=
  ∃ char ∈ front, char ≠ '/'

/-- A text with something more that stands for nothing. -/
inductive Redundant : (text other : List Char) → Prop where
  /-- Any number of slashes at the front means the root, apart from exactly two. -/
  | root {count other : Nat} {rest : List Char}
      (bare : rest.head? ≠ some '/')
      (isRoot : count ≠ 0 ∧ count ≠ 2)
      (isOther : other ≠ 0 ∧ other ≠ 2) :
      Redundant (List.replicate count '/' ++ rest) (List.replicate other '/' ++ rest)
  /-- A slash in front of another one or at the end. -/
  | slash {front rest : List Char}
      (named : IsNamed front)
      (ends : EndsPiece rest) :
      Redundant (front ++ rest) (front ++ '/' :: rest)
  /-- A component that is a dot. -/
  | dot {front rest : List Char}
      (begins : BeginsPiece front)
      (bare : rest.head? ≠ some '/') :
      Redundant (front ++ rest) (front ++ '.' :: '/' :: rest)

/-- Two texts differ only in what stands for nothing. -/
def IsRespelled (text other : List Char) : Prop :=
  Relation.EqvGen Redundant text other

/-- A text is read as a path. -/
def ofChars (text : List Char) : Path :=
  ⟨anchorOf text, partsOf text⟩

theorem anchorOf_append_congr
    {front rest other : List Char}
    (same : IsNamed front ∨ rest.takeWhile (· == '/') = other.takeWhile (· == '/')) :
    anchorOf (front ++ rest) = anchorOf (front ++ other) := by
  have sameSlashes : (front ++ rest).takeWhile (· == '/') =
      (front ++ other).takeWhile (· == '/') := by
    rw [List.takeWhile_append, List.takeWhile_append]
    rcases same with ⟨char, member, noSlash⟩ | same
    · have shorter : (front.takeWhile (· == '/')).length ≠ front.length := by
        intro whole
        have isWhole := (List.takeWhile_prefix (· == '/')).eq_of_length whole
        have isSlash := List.mem_takeWhile_imp (isWhole ▸ member)
        exact noSlash (by simpa using isSlash)
      rw [if_neg shorter, if_neg shorter]
    · rw [same]
  rw [anchorOf, anchorOf, sameSlashes]

theorem partsOf_append_of_begins
    {front : List Char}
    (begins : BeginsPiece front)
    (rest : List Char) :
    partsOf (front ++ rest) = partsOf front ++ partsOf rest := by
  rcases List.eq_nil_or_concat' front with rfl | ⟨earlier, char, rfl⟩
  · rfl
  · have isSlash : char = '/' := begins char List.getLast?_concat
    have none : partsOf [] = [] := rfl
    rw [isSlash, List.append_assoc, List.singleton_append, partsOf_append_slash,
      partsOf_append_slash, none, List.append_nil]

/-- What stands for nothing does not change the path that is read. -/
theorem Redundant.ofChars_eq
    {text other : List Char}
    (redundant : Redundant text other) :
    ofChars text = ofChars other := by
  unfold ofChars
  cases redundant with
  | @root count other rest bare isRoot isOther =>
      rw [anchorOf_replicate bare, anchorOf_replicate bare, partsOf_replicate, partsOf_replicate,
        if_neg isRoot.1, if_neg isRoot.2, if_neg isOther.1, if_neg isOther.2]
  | @slash front rest named ends =>
      rw [anchorOf_append_congr (.inl named), partsOf_append ends, partsOf_append_slash]
  | @dot front rest begins bare =>
      have idle : partsOf ('.' :: '/' :: rest) = partsOf rest :=
        partsOf_append_slash ['.'] rest
      have sameSlashes : rest.takeWhile (· == '/') = ('.' :: '/' :: rest).takeWhile (· == '/') :=
        takeWhile_slash_of_bare bare
      rw [anchorOf_append_congr (.inr sameSlashes),
        partsOf_append_of_begins begins, partsOf_append_of_begins begins, idle]

theorem IsRespelled.ofChars_eq
    {text other : List Char}
    (respelled : IsRespelled text other) :
    ofChars text = ofChars other := by
  induction respelled with
  | rel _ _ redundant => exact redundant.ofChars_eq
  | refl _ => rfl
  | symm _ _ _ inductionHypothesis => exact inductionHypothesis.symm
  | trans _ _ _ _ _ first second => exact first.trans second

/-! ## Tidied texts -/

/-- The smallest number of slashes that are an anchor. -/
def fewestSlashes : Anchor → Nat
  | .relative => 0
  | .root => 1
  | .doubleRoot => 2

/-- Components behind a place in the middle of a text, with single slashes. -/
def written : List String → List Char
  | [] => []
  | part :: parts => '/' :: (joinWith "/" (part :: parts)).toList

theorem toList_joinWith_cons
    (part : String)
    (parts : List String) :
    (joinWith "/" (part :: parts)).toList = part.toList ++ written parts := by
  cases parts with
  | nil =>
      exact (List.append_nil _).symm
  | cons second parts =>
      rw [joinWith, String.toList_append, String.toList_append, List.append_assoc]
      · rfl
      · exact List.cons_ne_nil second parts

theorem bare_joinWith
    {parts : List String}
    (components : ∀ part ∈ parts, IsComponent part) :
    (joinWith "/" parts).toList.head? ≠ some '/' := by
  intro isSlash
  obtain ⟨tail, isText⟩ := List.head?_eq_some_iff.mp isSlash
  have noSlash := takeWhile_slash_joinWith components
  rw [isText, List.takeWhile_cons_of_pos rfl] at noSlash
  cases noSlash

theorem Spells.components
    {text : List Char}
    {parts : List String}
    (spelled : Spells text parts) :
    ∀ part ∈ parts, IsComponent part := by
  intro part member
  rw [← spelled.partsOf_eq] at member
  exact isComponent_of_mem_partsOf member

section

variable {front rest : List Char}

theorem isRespelled_slash
    (named : IsNamed front)
    (ends : EndsPiece rest) :
    IsRespelled (front ++ '/' :: rest) (front ++ rest) :=
  .symm _ _ (.rel _ _ (.slash named ends))

theorem isRespelled_dot
    (begins : BeginsPiece front)
    (bare : rest.head? ≠ some '/') :
    IsRespelled (front ++ '.' :: '/' :: rest) (front ++ rest) :=
  .symm _ _ (.rel _ _ (.dot begins bare))

theorem IsNamed.append
    (named : IsNamed front)
    (rest : List Char) :
    IsNamed (front ++ rest) := by
  obtain ⟨char, member, noSlash⟩ := named
  exact ⟨char, List.mem_append_left rest member, noSlash⟩

theorem isNamed_append_of_mem
    {char : Char}
    (member : char ∈ rest)
    (noSlash : char ≠ '/')
    (front : List Char) :
    IsNamed (front ++ rest) :=
  ⟨char, List.mem_append_right front member, noSlash⟩

/-- Behind a slash that is not at the front there is something in front of that slash. -/
theorem exists_of_beginsPiece
    (begins : BeginsPiece front)
    (named : IsNamed front) :
    ∃ earlier, front = earlier ++ ['/'] ∧ IsNamed earlier := by
  rcases List.eq_nil_or_concat' front with rfl | ⟨earlier, char, rfl⟩
  · obtain ⟨_, member, _⟩ := named
    exact absurd member List.not_mem_nil
  · have isSlash : char = '/' := begins char List.getLast?_concat
    subst isSlash
    obtain ⟨known, member, noSlash⟩ := named
    have isEarlier : known ∈ earlier := by
      simpa [noSlash] using member
    exact ⟨earlier, rfl, known, isEarlier, noSlash⟩

end

/-- The rest of a text can be tidied, where a component may begin and behind one. -/
structure IsTidied (rest : List Char) (parts : List String) : Prop where
  atPiece : ∀ {front}, BeginsPiece front → IsNamed front ∨ rest.head? ≠ some '/' →
    IsRespelled (front ++ rest) (front ++ (joinWith "/" parts).toList)
  behindPiece : ∀ {front}, IsNamed front → EndsPiece rest →
    IsRespelled (front ++ rest) (front ++ written parts)

theorem IsTidied.slash
    {rest : List Char}
    {parts : List String}
    (tidied : IsTidied rest parts) :
    IsTidied ('/' :: rest) parts where
  atPiece := by
    intro front begins place
    have named : IsNamed front := place.resolve_right fun bare => bare rfl
    obtain ⟨earlier, rfl, earlierNamed⟩ := exists_of_beginsPiece begins named
    have single := isRespelled_slash earlierNamed (endsPiece_slash rest)
    have goesOn := tidied.atPiece begins (.inl named)
    rw [List.append_assoc, List.singleton_append] at goesOn ⊢
    exact single.trans _ _ _ goesOn
  behindPiece := by
    intro front named _
    have begins : BeginsPiece (front ++ ['/']) := by
      intro char isLast
      rw [List.getLast?_concat] at isLast
      exact (Option.some.inj isLast).symm
    have goesOn := tidied.atPiece begins (.inl (named.append ['/']))
    rw [List.append_assoc, List.append_assoc, List.singleton_append, List.singleton_append]
      at goesOn
    cases parts with
    | nil =>
        have single := isRespelled_slash named endsPiece_nil
        exact goesOn.trans _ _ _ single
    | cons part parts =>
        exact goesOn

theorem IsTidied.dot
    {rest : List Char}
    {parts : List String}
    (ends : EndsPiece rest)
    (components : ∀ part ∈ parts, IsComponent part)
    (tidied : IsTidied rest parts) :
    IsTidied ('.' :: rest) parts where
  atPiece := by
    intro front begins _
    have named : IsNamed (front ++ ['.']) :=
      isNamed_append_of_mem (List.mem_singleton_self '.') (by decide) front
    have goesOn := tidied.behindPiece named ends
    rw [List.append_assoc, List.append_assoc, List.singleton_append, List.singleton_append]
      at goesOn
    have dropped := isRespelled_dot begins (bare_joinWith components)
    cases parts with
    | nil =>
        -- The dot is the last component, so that a slash comes behind it before it is dropped.
        have slash := isRespelled_slash named endsPiece_nil
        rw [List.append_assoc, List.append_assoc, List.singleton_append] at slash
        exact goesOn.trans _ _ _ ((slash.symm _ _).trans _ _ _ dropped)
    | cons part parts =>
        exact goesOn.trans _ _ _ dropped
  behindPiece _ ends := absurd (ends '.' rfl) (by decide)

theorem IsTidied.component
    {name : String}
    {rest : List Char}
    {parts : List String}
    (isComponent : IsComponent name)
    (ends : EndsPiece rest)
    (tidied : IsTidied rest parts) :
    IsTidied (name.toList ++ rest) (name :: parts) := by
  obtain ⟨first, letters, isName⟩ : ∃ first letters, name.toList = first :: letters :=
    List.exists_cons_of_ne_nil fun isEmpty => isComponent.nonempty (String.toList_inj.mp isEmpty)
  have member : first ∈ name.toList := isName ▸ List.mem_cons_self
  have noSlash : first ≠ '/' := fun isSlash => isComponent.onePiece (isSlash ▸ member)
  constructor
  · intro front _ _
    have named : IsNamed (front ++ name.toList) := isNamed_append_of_mem member noSlash front
    rw [toList_joinWith_cons, ← List.append_assoc, ← List.append_assoc]
    exact tidied.behindPiece named ends
  · intro front _ endsHere
    rw [isName] at endsHere
    exact absurd (endsHere first rfl) noSlash

/-- Whatever spells some components can be tidied. -/
theorem Spells.isTidied
    {rest : List Char}
    {parts : List String}
    (spelled : Spells rest parts) :
    IsTidied rest parts := by
  induction spelled with
  | nothing =>
      exact ⟨fun _ _ => .refl _, fun _ _ => .refl _⟩
  | slash _ inductionHypothesis =>
      exact inductionHypothesis.slash
  | dot ends spelled inductionHypothesis =>
      exact inductionHypothesis.dot ends spelled.components
  | component isComponent ends _ inductionHypothesis =>
      exact inductionHypothesis.component isComponent ends

/-- A path with no more slashes than its anchor and its components need, and no dots. -/
def tidyChars (path : Path) : List Char :=
  List.replicate (fewestSlashes path.anchor) '/' ++ (joinWith "/" path.parts).toList

theorem isRespelled_tidyChars (text : List Char) : IsRespelled text (tidyChars (ofChars text)) := by
  obtain ⟨count, rest, rfl, bare⟩ := exists_slashes text
  have spelled := spells_partsOf rest
  have begins : BeginsPiece (List.replicate count '/') := fun char isLast =>
    List.eq_of_mem_replicate (List.mem_of_getLast? isLast)
  have tidied := spelled.isTidied.atPiece begins (.inr bare)
  rw [tidyChars, ofChars, partsOf_replicate, anchorOf_replicate bare]
  rcases count with _ | _ | _ | count
  · exact tidied
  · exact tidied
  · exact tidied
  · have bareParts := bare_joinWith spelled.components
    have isRoot : count + 3 ≠ 0 ∧ count + 3 ≠ 2 := by omega
    have single : 1 ≠ 0 ∧ 1 ≠ 2 := by decide
    exact tidied.trans _ _ _ (.rel _ _ (.root bareParts isRoot single))

/-- Two texts spell the same path exactly when they differ only in what stands for nothing. -/
theorem isRespelled_iff
    {text other : List Char} :
    IsRespelled text other ↔ ofChars text = ofChars other := by
  refine ⟨IsRespelled.ofChars_eq, fun same => ?_⟩
  have tidied := isRespelled_tidyChars text
  rw [same] at tidied
  exact tidied.trans _ _ _ ((isRespelled_tidyChars other).symm _ _)

/-! ## Names that begin alike -/

/-- A text that goes on where a component ends has a longer component in its place. -/
theorem exists_longer_component
    {name : String}
    {char : Char}
    (isComponent : IsComponent name)
    (noSlash : char ≠ '/')
    (rest : List Char) :
    ∃ longer parts, longer ≠ name ∧ partsOf (name.toList ++ char :: rest) = longer :: parts := by
  obtain ⟨piece, behind, split, onePiece, ends⟩ := exists_piece (char :: rest)
  have nonempty : piece ≠ [] := by
    rintro rfl
    have isBehind : behind = char :: rest := split.symm
    exact noSlash (ends char (by rw [isBehind]; rfl))
  have long : 2 ≤ (name.toList ++ piece).length := by
    have someName : 0 < name.toList.length := List.length_pos_of_ne_nil fun isEmpty =>
      isComponent.nonempty (String.toList_inj.mp isEmpty)
    have somePiece := List.length_pos_of_ne_nil nonempty
    rw [List.length_append]
    omega
  have isLonger : IsComponent (String.ofList (name.toList ++ piece)) := by
    refine ⟨fun isEmpty => ?_, fun isDot => ?_, ?_⟩
    · have same : name.toList ++ piece = [] := by
        simpa using congrArg String.toList isEmpty
      simp [same] at long
    · have same : name.toList ++ piece = ['.'] := by
        simpa using congrArg String.toList isDot
      simp [same] at long
    · simpa using ⟨isComponent.onePiece, onePiece⟩
  refine ⟨String.ofList (name.toList ++ piece), partsOf behind, fun same => ?_, ?_⟩
  · have noMore : name.toList ++ piece = name.toList := by
      simpa using congrArg String.toList same
    exact nonempty (List.append_right_eq_self.mp noMore)
  · have alone := partsOf_component isLonger
    rw [String.toList_ofList] at alone
    rw [split, ← List.append_assoc, partsOf_append ends, alone, List.singleton_append]

/-- Neither of two texts lies within the other when a component of the one only begins with the
component in its place in the other. -/
theorem not_isWithin_of_longer
    {front name : String}
    {char : Char}
    (begins : BeginsPiece front.toList)
    (isComponent : IsComponent name)
    (noSlash : char ≠ '/')
    (rest : List Char) :
    ¬(ofText (front ++ name ++ String.ofList (char :: rest))).isWithin (ofText (front ++ name)) ∧
      ¬(ofText (front ++ name)).isWithin (ofText (front ++ name ++ String.ofList (char :: rest))) := by
  obtain ⟨longer, parts, different, isText⟩ := exists_longer_component isComponent noSlash rest
  have shorterParts : (ofText (front ++ name)).parts = partsOf front.toList ++ [name] := by
    show partsOf (front ++ name).toList = _
    rw [String.toList_append, partsOf_append_of_begins begins, partsOf_component isComponent]
  have longerParts : (ofText (front ++ name ++ String.ofList (char :: rest))).parts =
      partsOf front.toList ++ longer :: parts := by
    show partsOf (front ++ name ++ String.ofList (char :: rest)).toList = _
    rw [String.toList_append, String.toList_append, String.toList_ofList, List.append_assoc,
      partsOf_append_of_begins begins, isText]
  rw [isWithin_iff, isWithin_iff, shorterParts, longerParts, List.prefix_append_right_inj,
    List.prefix_append_right_inj, List.cons_prefix_cons, List.cons_prefix_cons]
  exact ⟨fun within => different within.2.1.symm, fun within => different within.2.1⟩

/-! ## Containment -/

/-- Where a path lies is told by what its text begins with and by the components in it. -/
theorem isWithin_ofText_iff
    {text root : String} :
    (ofText text).isWithin (ofText root) ↔
      ∃ anchor parts more, Begins text.toList anchor ∧ Begins root.toList anchor ∧
        Spells root.toList parts ∧ Spells text.toList (parts ++ more) := by
  simp only [isWithin_iff, begins_iff, spells_iff]
  constructor
  · rintro ⟨sameAnchor, more, isText⟩
    exact ⟨_, _, more, sameAnchor, rfl, rfl, isText.symm⟩
  · rintro ⟨anchor, parts, more, isAnchor, isRootAnchor, isRoot, isText⟩
    refine ⟨isAnchor.trans isRootAnchor.symm, more, ?_⟩
    exact (congrArg (· ++ more) isRoot).trans isText.symm

theorem isWithin_append
    {path root : Path}
    {more : String}
    (within : path.isWithin root)
    (begins : Begins more.toList .relative) :
    (path / more).isWithin root := by
  have isRelative : (ofText more).anchor = .relative := begins_iff.mp begins
  have joined : path / more = ⟨path.anchor, path.parts ++ (ofText more).parts⟩ := by
    show path.join (ofText more) = _
    rw [join, isRelative]
  rw [isWithin_iff] at within ⊢
  rw [joined]
  exact ⟨within.1, within.2.trans (List.prefix_append _ _)⟩

/-- A relation between paths is that of lying within, as it is told from their texts. -/
structure IsContainment (within : Path → Path → Prop) : Prop where
  /-- The anchors are the same, and more components may follow those of the root. -/
  exact : ∀ text root : String, within (ofText text) (ofText root) ↔
    ∃ anchor parts more, Begins text.toList anchor ∧ Begins root.toList anchor ∧
      Spells root.toList parts ∧ Spells text.toList (parts ++ more)
  refl : ∀ path, within path path
  trans : ∀ {path middle root}, within path middle → within middle root → within path root
  antisymm : ∀ {path other}, within path other → within other path → path = other
  /-- More components lead further down. -/
  appended : ∀ {path root} {more : String}, within path root → Begins more.toList .relative →
    within (path / more) root
  /-- Only texts that differ in what stands for nothing are within each other. -/
  bothWays : ∀ text other : String,
    within (ofText text) (ofText other) ∧ within (ofText other) (ofText text) ↔
      IsRespelled text.toList other.toList
  respelled : ∀ {text other root otherRoot : String}, IsRespelled text.toList other.toList →
    IsRespelled root.toList otherRoot.toList →
      (within (ofText text) (ofText root) ↔ within (ofText other) (ofText otherRoot))
  /-- A name that begins with another one is a name of its own. -/
  apart : ∀ {front name : String} {char : Char} {rest : List Char}, BeginsPiece front.toList →
    IsComponent name → char ≠ '/' →
      ¬within (ofText (front ++ name ++ String.ofList (char :: rest))) (ofText (front ++ name)) ∧
        ¬within (ofText (front ++ name)) (ofText (front ++ name ++ String.ofList (char :: rest)))

/-- Containment is told from the components of two texts, and orders paths. -/
theorem isWithin_isContainment :
    IsContainment fun path root => path.isWithin root where
  exact _ _ := isWithin_ofText_iff
  refl := isWithin_refl
  trans := isWithin_trans
  antisymm := isWithin_antisymm
  appended := isWithin_append
  bothWays text other := by
    rw [isRespelled_iff]
    refine ⟨fun within => isWithin_antisymm within.1 within.2, fun same => ?_⟩
    have same : ofText text = ofText other := same
    exact same ▸ ⟨isWithin_refl _, isWithin_refl _⟩
  respelled := by
    intro text other root otherRoot isText isRoot
    have sameText : ofText text = ofText other := isText.ofChars_eq
    have sameRoot : ofText root = ofText otherRoot := isRoot.ofChars_eq
    rw [sameText, sameRoot]
  apart begins isComponent noSlash := not_isWithin_of_longer begins isComponent noSlash _

end AnalyzerSessions.Path
