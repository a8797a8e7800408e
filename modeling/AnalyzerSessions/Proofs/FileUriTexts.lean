import AnalyzerSessions.Path.FileUri
import Mathlib.Data.List.TakeWhile

namespace AnalyzerSessions

open Text

/-!
# Texts of file URIs

Whatever characters the name of a file has, its URI holds no character that means something
in a URI, and reading it gives back the file's path.
-/

/-! ## UTF-8 -/

namespace Text.Utf8

theorem toNat_ofNat_byte
    {code : Nat}
    (isSmall : code < 256) :
    (UInt8.ofNat code).toNat = code := by
  rw [UInt8.toNat_ofNat', Nat.mod_eq_of_lt isSmall]

theorem isContinuation_add
    {code : Nat}
    (isSmall : code < 64) :
    isContinuation (0x80 + code) := by
  simp only [isContinuation, Bool.and_eq_true, decide_eq_true_eq]
  omega

/-- A character is read from its bytes, whatever follows them. -/
theorem piece_encodeChar
    (char : Char)
    (rest : List UInt8) :
    ∃ lead more, encodeChar char = lead :: more ∧
      piece lead.toNat (more ++ rest) = .char char (more.length + 1) := by
  have isChar : Char.ofNat char.toNat = char := Char.ofNat_toNat char
  have valid : char.toNat < 0xd800 ∨ 0xdfff < char.toNat ∧ char.toNat < 0x110000 := char.valid
  unfold encodeChar
  generalize char.toNat = code at isChar valid
  by_cases one : code < 0x80
  · refine ⟨UInt8.ofNat code, [], if_pos one, ?_⟩
    rw [toNat_ofNat_byte (by omega), piece.eq_def, if_pos one, isChar]
    rfl
  · by_cases two : code < 0x800
    · refine ⟨UInt8.ofNat (0xc0 + code / 64), [UInt8.ofNat (0x80 + code % 64)],
        (if_neg one).trans (if_pos two), ?_⟩
      have value : (0xc0 + code / 64 - 0xc0) * 64 + (0x80 + code % 64 - 0x80) = code := by
        omega
      rw [toNat_ofNat_byte (by omega), piece.eq_def, if_neg (by omega), if_neg (by omega),
        if_pos (by omega)]
      simp only [List.cons_append, toNat_ofNat_byte (show 0x80 + code % 64 < 256 by omega),
        isContinuation_add (Nat.mod_lt code (by decide)), ↓reduceIte, value, isChar]
      rfl
    · by_cases three : code < 0x10000
      · refine ⟨UInt8.ofNat (0xe0 + code / 4096),
          [UInt8.ofNat (0x80 + code / 64 % 64), UInt8.ofNat (0x80 + code % 64)],
          (if_neg one).trans ((if_neg two).trans (if_pos three)), ?_⟩
        have value : (0xe0 + code / 4096 - 0xe0) * 4096 + (0x80 + code / 64 % 64 - 0x80) * 64 +
            (0x80 + code % 64 - 0x80) = code := by
          omega
        have allowed : secondAllowed (0xe0 + code / 4096) (0x80 + code / 64 % 64) := by
          simp only [secondAllowed, isContinuation_add (Nat.mod_lt _ (by decide)), Bool.true_and]
          repeat' split
          all_goals first | rfl | (rw [decide_eq_true_eq]; omega)
        rw [toNat_ofNat_byte (by omega), piece.eq_def, if_neg (by omega), if_neg (by omega),
          if_neg (by omega), if_pos (by omega)]
        simp only [List.cons_append,
          toNat_ofNat_byte (show 0x80 + code / 64 % 64 < 256 by omega),
          toNat_ofNat_byte (show 0x80 + code % 64 < 256 by omega), allowed,
          isContinuation_add (Nat.mod_lt code (by decide)), ↓reduceIte, value, isChar]
        rfl
      · refine ⟨UInt8.ofNat (0xf0 + code / 262144), [UInt8.ofNat (0x80 + code / 4096 % 64),
          UInt8.ofNat (0x80 + code / 64 % 64), UInt8.ofNat (0x80 + code % 64)],
          (if_neg one).trans ((if_neg two).trans (if_neg three)), ?_⟩
        have value : (0xf0 + code / 262144 - 0xf0) * 262144 +
            (0x80 + code / 4096 % 64 - 0x80) * 4096 + (0x80 + code / 64 % 64 - 0x80) * 64 +
            (0x80 + code % 64 - 0x80) = code := by
          omega
        have allowed : secondAllowed (0xf0 + code / 262144) (0x80 + code / 4096 % 64) := by
          simp only [secondAllowed, isContinuation_add (Nat.mod_lt _ (by decide)), Bool.true_and]
          repeat' split
          all_goals first | rfl | (rw [decide_eq_true_eq]; omega)
        rw [toNat_ofNat_byte (by omega), piece.eq_def, if_neg (by omega), if_neg (by omega),
          if_neg (by omega), if_neg (by omega), if_pos (by omega)]
        simp only [List.cons_append,
          toNat_ofNat_byte (show 0x80 + code / 4096 % 64 < 256 by omega),
          toNat_ofNat_byte (show 0x80 + code / 64 % 64 < 256 by omega),
          toNat_ofNat_byte (show 0x80 + code % 64 < 256 by omega), allowed,
          isContinuation_add (Nat.mod_lt _ (show 0 < 64 by decide)), ↓reduceIte, value, isChar]
        rfl

/-- A text is read from its bytes. -/
theorem decodeReplacing_encode (chars : List Char) : decodeReplacing (encode chars) = chars := by
  induction chars with
  | nil =>
      rw [encode, List.flatMap_nil, decodeReplacing]
  | cons char rest inductionHypothesis =>
      obtain ⟨lead, more, isEncoded, isPiece⟩ := piece_encodeChar char (encode rest)
      have split : encode (char :: rest) = lead :: (more ++ encode rest) := by
        rw [encode, List.flatMap_cons, isEncoded]
        rfl
      rw [split, decodeReplacing, isPiece]
      simp only [Nat.add_sub_cancel, List.drop_left, inductionHypothesis]

/-- A text is read from its bytes, wherever they begin. -/
theorem decodeFrom_encode
    (position : Nat)
    (chars : List Char) :
    decodeFrom position (encode chars) = .ok chars := by
  induction chars generalizing position with
  | nil =>
      rw [encode, List.flatMap_nil, decodeFrom]
  | cons char rest inductionHypothesis =>
      obtain ⟨lead, more, isEncoded, isPiece⟩ := piece_encodeChar char (encode rest)
      have split : encode (char :: rest) = lead :: (more ++ encode rest) := by
        rw [encode, List.flatMap_cons, isEncoded]
        rfl
      rw [split, decodeFrom, isPiece]
      simp only [Nat.add_sub_cancel, List.drop_left, inductionHypothesis]
      rfl

theorem decode_encode (chars : List Char) : decode (encode chars) = .ok chars :=
  decodeFrom_encode 0 chars

theorem encode_inj
    {chars others : List Char} :
    encode chars = encode others ↔ chars = others := by
  refine ⟨fun same => ?_, congrArg encode⟩
  rw [← decodeReplacing_encode chars, same, decodeReplacing_encode]

end Text.Utf8

namespace FileUri

/-! ## Escapes -/

/-- A character of an escaped text, which means nothing else in a URI. -/
structure IsEscaped (char : Char) : Prop where
  isAscii : isAscii char
  isKept : isDropped char = false
  noFragment : char ≠ '#'
  noQuery : char ≠ '?'

theorem hexValue?_upperHexDigit : ∀ value < 16, hexValue? (upperHexDigit value) = some value := by
  decide

theorem isEscaped_upperHexDigit : ∀ value < 16, IsEscaped (upperHexDigit value) := by
  have all : ∀ value < 16, isAscii (upperHexDigit value) ∧
      isDropped (upperHexDigit value) = false ∧ upperHexDigit value ≠ '#' ∧
      upperHexDigit value ≠ '?' := by
    decide
  intro value isDigit
  obtain ⟨isAscii, isKept, noFragment, noQuery⟩ := all value isDigit
  exact ⟨isAscii, isKept, noFragment, noQuery⟩

/-- What a byte that stands for itself is as a character. -/
theorem ofNat_toNat_of_isPlain
    {byte : UInt8}
    (plain : isPlain byte) :
    IsEscaped (Char.ofNat byte.toNat) ∧ Char.ofNat byte.toNat ≠ '%' ∧
      UInt8.ofNat (Char.ofNat byte.toNat).toNat = byte := by
  have all : ∀ code < 256, isPlain (UInt8.ofNat code) → isAscii (Char.ofNat code) ∧
      isDropped (Char.ofNat code) = false ∧ Char.ofNat code ≠ '#' ∧ Char.ofNat code ≠ '?' ∧
      Char.ofNat code ≠ '%' ∧ UInt8.ofNat (Char.ofNat code).toNat = UInt8.ofNat code := by
    decide +kernel
  have isByte : UInt8.ofNat byte.toNat = byte := UInt8.ofNat_toNat
  obtain ⟨isAscii, isKept, noFragment, noQuery, noPercent, same⟩ :=
    all byte.toNat byte.toNat_lt (isByte.symm ▸ plain)
  exact ⟨⟨isAscii, isKept, noFragment, noQuery⟩, noPercent, same.trans isByte⟩

theorem isEscaped_escapeByte
    (byte : UInt8) :
    ∀ char ∈ escapeByte byte, IsEscaped char := by
  have isSmall := byte.toNat_lt
  unfold escapeByte
  split
  · rename_i plain
    rw [List.forall_mem_singleton]
    exact (ofNat_toNat_of_isPlain plain).1
  · simp only [List.forall_mem_cons, List.not_mem_nil, false_imp_iff, implies_true, and_true]
    exact ⟨⟨rfl, rfl, by decide, by decide⟩, isEscaped_upperHexDigit _ (by omega),
      isEscaped_upperHexDigit _ (by omega)⟩

theorem isEscaped_escape
    (chars : List Char) :
    ∀ char ∈ escape chars, IsEscaped char := by
  intro char member
  obtain ⟨byte, _, inByte⟩ := List.mem_flatMap.mp member
  exact isEscaped_escapeByte byte char inByte

/-- One byte is read from its escaped form. -/
theorem unescapeBytes_escapeByte
    (byte : UInt8)
    (rest : List Char) :
    unescapeBytes (escapeByte byte ++ rest) = byte :: unescapeBytes rest := by
  have isSmall := byte.toNat_lt
  unfold escapeByte
  split
  · rename_i plain
    obtain ⟨-, noPercent, same⟩ := ofNat_toNat_of_isPlain plain
    rw [List.singleton_append, unescapeBytes, same]
    intro _ _ _ isPercent
    exact absurd isPercent noPercent
  · have whole : byte.toNat / 16 * 16 + byte.toNat % 16 = byte.toNat := by
      omega
    simp only [List.cons_append, List.nil_append, unescapeBytes,
      hexValue?_upperHexDigit (byte.toNat / 16) (by omega),
      hexValue?_upperHexDigit (byte.toNat % 16) (by omega), whole, UInt8.ofNat_toNat]

theorem unescapeBytes_flatMap
    (bytes : List UInt8) :
    unescapeBytes (bytes.flatMap escapeByte) = bytes := by
  induction bytes with
  | nil =>
      rfl
  | cons byte rest inductionHypothesis =>
      rw [List.flatMap_cons, unescapeBytes_escapeByte, inductionHypothesis]

theorem unescapeFrom_of_isAscii
    {chars : List Char}
    (ascii : ∀ char ∈ chars, isAscii char)
    (run : List Char) :
    unescapeFrom run chars = Utf8.decodeReplacing (unescapeBytes (run.reverse ++ chars)) := by
  induction chars generalizing run with
  | nil =>
      rw [unescapeFrom, List.append_nil]
  | cons char rest inductionHypothesis =>
      simp only [List.forall_mem_cons] at ascii
      rw [unescapeFrom, if_pos ascii.1, inductionHypothesis ascii.2, List.reverse_cons,
        List.append_assoc, List.singleton_append]

/-- A text is read from its escaped form. -/
theorem unescape_escape (chars : List Char) : unescape (escape chars) = chars := by
  have ascii : ∀ char ∈ escape chars, isAscii char :=
    fun char member => (isEscaped_escape chars char member).isAscii
  rw [unescape, unescapeFrom_of_isAscii ascii, List.reverse_nil, List.nil_append, escape,
    unescapeBytes_flatMap, Utf8.decodeReplacing_encode]

/-! ## The path of a URI -/

theorem pathPart_of_isEscaped
    {chars : List Char}
    (escaped : ∀ char ∈ chars, IsEscaped char) :
    pathPart chars = chars := by
  have noFragment : chars.takeWhile (· != '#') = chars := by
    rw [List.takeWhile_eq_self_iff]
    exact fun char member => bne_iff_ne.mpr (escaped char member).noFragment
  have noQuery : chars.takeWhile (· != '?') = chars := by
    rw [List.takeWhile_eq_self_iff]
    exact fun char member => bne_iff_ne.mpr (escaped char member).noQuery
  rw [pathPart, noFragment, noQuery]

/-- What the parts of a file URI are that has no host. -/
theorem toPath_of_isEscaped
    {rest : List Char}
    (escaped : ∀ char ∈ rest, IsEscaped char) :
    toPath ("file://" ++ String.ofList ('/' :: rest)) =
      .ok (.ofText (String.ofList (unescape ('/' :: rest)))) := by
  have isList : ("file://" ++ String.ofList ('/' :: rest)).toList =
      'f' :: 'i' :: 'l' :: 'e' :: ':' :: '/' :: '/' :: '/' :: rest := by
    simp
  have escapedAll : ∀ char ∈ '/' :: rest, IsEscaped char := by
    rw [List.forall_mem_cons]
    exact ⟨⟨rfl, rfl, by decide, by decide⟩, escaped⟩
  have keepsAll : rest.filter (fun char => !isDropped char) = rest := by
    rw [List.filter_eq_self]
    intro char member
    rw [(escaped char member).isKept]
    rfl
  have isKept : (('f' :: 'i' :: 'l' :: 'e' :: ':' :: '/' :: '/' :: '/' :: rest).dropWhile
      isLeading).filter (fun char => !isDropped char) =
        'f' :: 'i' :: 'l' :: 'e' :: ':' :: '/' :: '/' :: '/' :: rest :=
    congrArg (fun rest => 'f' :: 'i' :: 'l' :: 'e' :: ':' :: '/' :: '/' :: '/' :: rest) keepsAll
  have isScheme : cutScheme ('f' :: 'i' :: 'l' :: 'e' :: ':' :: '/' :: '/' :: '/' :: rest) =
      ("file".toList, '/' :: '/' :: '/' :: rest) :=
    rfl
  have noHost : cutHost ('/' :: '/' :: '/' :: rest) = ([], '/' :: rest) :=
    rfl
  have isPath := pathPart_of_isEscaped escapedAll
  unfold toPath
  rw [isList, isKept]
  simp only [isScheme, noHost, isPath]
  rfl

end FileUri

/-! ## The text of a path -/

namespace Path

/-- A component that stands for something, in one piece. -/
structure IsComponent (part : String) : Prop where
  nonempty : part ≠ ""
  noDot : part ≠ "."
  onePiece : '/' ∉ part.toList

theorem splitOn_ne_nil (chars : List Char) : splitOn '/' chars ≠ [] := by
  cases chars with
  | nil =>
      exact List.cons_ne_nil _ _
  | cons char rest =>
      rw [splitOn]
      split
      · exact List.cons_ne_nil _ _
      · split <;> exact List.cons_ne_nil _ _

theorem splitOn_cons_self (chars : List Char) :
    splitOn '/' ('/' :: chars) = [] :: splitOn '/' chars := by
  rw [splitOn]
  cases isSplit : splitOn '/' chars with
  | nil =>
      exact absurd isSplit (splitOn_ne_nil chars)
  | cons piece pieces =>
      rfl

/-- No separator is left in what a text is split into. -/
theorem not_mem_splitOn (chars : List Char) : ∀ piece ∈ splitOn '/' chars, '/' ∉ piece := by
  induction chars with
  | nil =>
      simp [splitOn]
  | cons char rest inductionHypothesis =>
      rw [splitOn]
      split
      · rename_i isNone
        exact absurd isNone (splitOn_ne_nil rest)
      · rename_i piece pieces isSplit
        rw [isSplit, List.forall_mem_cons] at inductionHypothesis
        split
        · rw [List.forall_mem_cons, List.forall_mem_cons]
          exact ⟨List.not_mem_nil, inductionHypothesis⟩
        · rename_i apart
          rw [List.forall_mem_cons, List.mem_cons, not_or]
          exact ⟨⟨Ne.symm apart, inductionHypothesis.1⟩, inductionHypothesis.2⟩

/-- The components that are read from a text. -/
theorem isComponent_of_mem_partsOf
    {chars : List Char}
    {part : String}
    (member : part ∈ partsOf chars) :
    IsComponent part := by
  obtain ⟨piece, isKept, rfl⟩ := List.mem_map.mp member
  obtain ⟨isPiece, notIdle⟩ := List.mem_filter.mp isKept
  simp only [isIdle, Bool.not_eq_true', Bool.or_eq_false_iff, beq_eq_false_iff_ne] at notIdle
  refine ⟨fun isEmpty => notIdle.1 ?_, fun isDot => notIdle.2 ?_, ?_⟩
  · simpa using congrArg String.toList isEmpty
  · simpa using congrArg String.toList isDot
  · rw [String.toList_ofList]
    exact not_mem_splitOn chars piece isPiece

/-- A piece without separators is split off whole. -/
theorem splitOn_append
    {piece : List Char}
    (onePiece : '/' ∉ piece)
    (rest : List Char) :
    splitOn '/' piece = [piece] ∧
      splitOn '/' (piece ++ '/' :: rest) = piece :: splitOn '/' rest := by
  induction piece with
  | nil =>
      exact ⟨rfl, splitOn_cons_self rest⟩
  | cons char piece inductionHypothesis =>
      rw [List.mem_cons, not_or] at onePiece
      obtain ⟨alone, joined⟩ := inductionHypothesis onePiece.2
      refine ⟨?_, ?_⟩
      · rw [splitOn, alone]
        exact if_neg (Ne.symm onePiece.1)
      · rw [List.cons_append, splitOn, joined]
        exact if_neg (Ne.symm onePiece.1)

theorem splitOn_joinWith
    {parts : List String}
    (nonempty : parts ≠ [])
    (components : ∀ part ∈ parts, IsComponent part) :
    splitOn '/' (joinWith "/" parts).toList = parts.map String.toList := by
  induction parts with
  | nil =>
      exact absurd rfl nonempty
  | cons first rest inductionHypothesis =>
      simp only [List.forall_mem_cons] at components
      cases rest with
      | nil =>
          exact (splitOn_append components.1.onePiece []).1
      | cons second rest =>
          rw [joinWith, String.toList_append, String.toList_append, List.append_assoc]
          · have isSplit := (splitOn_append components.1.onePiece
              (joinWith "/" (second :: rest)).toList).2
            rw [inductionHypothesis (List.cons_ne_nil _ _) components.2] at isSplit
            exact isSplit
          · exact fun isEmpty => absurd isEmpty (List.cons_ne_nil _ _)

theorem partsOf_joinWith
    {parts : List String}
    (components : ∀ part ∈ parts, IsComponent part) :
    partsOf (joinWith "/" parts).toList = parts := by
  by_cases isEmpty : parts = []
  · subst isEmpty
    rfl
  · have keepsAll : (parts.map String.toList).filter (fun part => !isIdle part) =
        parts.map String.toList := by
      rw [List.filter_eq_self, List.forall_mem_map]
      intro part member
      have component := components part member
      have nonempty : part.toList ≠ [] := fun isEmpty =>
        component.nonempty (String.toList_inj.mp isEmpty)
      have noDot : part.toList ≠ ['.'] := fun isDot =>
        component.noDot (String.toList_inj.mp isDot)
      simp [isIdle, nonempty, noDot]
    rw [partsOf, splitOn_joinWith isEmpty components, keepsAll, List.map_map]
    simp [Function.comp_def]

theorem partsOf_cons_slash (chars : List Char) : partsOf ('/' :: chars) = partsOf chars := by
  rw [partsOf, splitOn_cons_self]
  rfl

/-- What is joined of components begins with none but the slashes in front of it. -/
theorem takeWhile_slash_joinWith
    {parts : List String}
    (components : ∀ part ∈ parts, IsComponent part) :
    (joinWith "/" parts).toList.takeWhile (· == '/') = [] := by
  cases parts with
  | nil =>
      rfl
  | cons first rest =>
      simp only [List.forall_mem_cons] at components
      obtain ⟨component, -⟩ := components
      have front : ∃ behind, (joinWith "/" (first :: rest)).toList = first.toList ++ behind := by
        cases rest with
        | nil =>
            exact ⟨[], (List.append_nil _).symm⟩
        | cons second rest =>
            rw [joinWith, String.toList_append, String.toList_append, List.append_assoc]
            · exact ⟨_, rfl⟩
            · exact fun isEmpty => absurd isEmpty (List.cons_ne_nil _ _)
      obtain ⟨behind, isFront⟩ := front
      rw [isFront]
      cases isFirst : first.toList with
      | nil =>
          exact absurd (String.toList_inj.mp isFirst) component.nonempty
      | cons char more =>
          have noSlash : char ≠ '/' := by
            rintro rfl
            exact component.onePiece (isFirst ▸ List.mem_cons_self)
          rw [List.cons_append, List.takeWhile_cons_of_neg]
          simpa using noSlash

theorem toList_text_root (parts : List String) :
    (text ⟨.root, parts⟩).toList = '/' :: (joinWith "/" parts).toList := by
  simp [text, Anchor.text]

theorem toList_text_doubleRoot (parts : List String) :
    (text ⟨.doubleRoot, parts⟩).toList = '/' :: '/' :: (joinWith "/" parts).toList := by
  simp [text, Anchor.text]

/-- An absolute path is read from its text. -/
theorem ofText_text
    {path : Path}
    (absolute : path.isAbsolute)
    (components : ∀ part ∈ path.parts, IsComponent part) :
    ofText path.text = path := by
  obtain ⟨anchor, parts⟩ := path
  have noSlash := takeWhile_slash_joinWith components
  have isParts := partsOf_joinWith components
  cases anchor with
  | relative =>
      cases absolute
  | root =>
      rw [ofText, toList_text_root, partsOf_cons_slash, isParts, anchorOf]
      simp [noSlash]
  | doubleRoot =>
      rw [ofText, toList_text_doubleRoot, partsOf_cons_slash, partsOf_cons_slash, isParts,
        anchorOf]
      simp [noSlash]

end Path

/-- The URI of an absolute path leads back to the path. -/
theorem FileUri.toPath_ofPlace
    {place : Path}
    (absolute : place.isAbsolute)
    (components : ∀ part ∈ place.parts, Path.IsComponent part) :
    toPath (ofPlace place) = .ok place := by
  have isSlash : ∃ rest, place.text.toList = '/' :: rest := by
    obtain ⟨anchor, parts⟩ := place
    cases anchor with
    | relative => cases absolute
    | root => exact ⟨_, Path.toList_text_root parts⟩
    | doubleRoot => exact ⟨_, Path.toList_text_doubleRoot parts⟩
  obtain ⟨rest, isText⟩ := isSlash
  have isEscape : escape place.text.toList = '/' :: escape rest := by
    rw [isText]
    rfl
  have read := toPath_of_isEscaped (isEscaped_escape rest)
  rw [← isEscape, unescape_escape, String.ofList_toList, Path.ofText_text absolute components]
    at read
  exact read

end AnalyzerSessions
