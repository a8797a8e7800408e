import AnalyzerSessions.Proofs.FileUriTexts
import AnalyzerSessions.Proofs.HeaderBlocks
import AnalyzerSessions.Proofs.JsonText

namespace AnalyzerSessions

open Json Number Text

/-!
# Documents behind header blocks

A JSON document is read behind whatever block announces the length of its text, and exactly its
text is taken from the stream, so what follows is read as if nothing had been in front of it.  A
row of such documents is read one after the other, however different their headers look.  The
messages that are written are such documents.
-/

namespace Wire

/-! ## One document -/

/-- A body is read as the document that it is the text of. -/
theorem decodeBody_encode
    {document : Json}
    {text : List Char}
    (isDocument : IsDocument maxDepth document text) :
    decodeBody (Utf8.encode text) = .ok document := by
  simp only [decodeBody, Utf8.decode_encode, isDocument.parseWithin]
  rfl

/-- A text that is not read as a value is a body that is malformed. -/
theorem decodeBody_of_fault
    {text : List Char}
    {fault : Fault}
    (begins : BeginsValue text)
    (failed : value maxDepth (2 * text.length + 2) text = .error fault) :
    decodeBody (Utf8.encode text) = .error (.malformed (fault.toError text)) := by
  obtain ⟨first, rest, rfl, noSpace, _, ascii⟩ := begins
  have noMark : (first :: rest).head? ≠ some (Char.ofNat 0xfeff) := by
    intro isMark
    obtain rfl := Option.some.inj isMark
    exact absurd ascii (by decide)
  simp only [decodeBody, Utf8.decode_encode, parseWithin, if_neg noMark, skipSpace_cons noSpace,
    failed]
  rfl

section

variable {lines : List (List Char)} {blank digits : List Char}

/-- Behind a length in decimal digits the body is read. -/
theorem read_block_of_digits
    (block : IsBlock lines blank)
    (last : LastGives lengthName lines digits)
    (areDigits : IsDigits digits)
    (few : digits.length ≤ maxDigits)
    (rest : List UInt8)
    (ended : Bool) :
    read .initial ⟨blockBytes lines blank ++ rest, ended⟩ =
      readBody (decimalValue digits) ⟨rest, ended⟩ :=
  read_block_of_length block last (.unsigned (.ofDigits areDigits few)) rest ended

/-- A document is read behind a block that announces the length of its text, and what follows the
text is left. -/
theorem read_document
    {document : Json}
    {text : List Char}
    (block : IsBlock lines blank)
    (last : LastGives lengthName lines digits)
    (areDigits : IsDigits digits)
    (few : digits.length ≤ maxDigits)
    (isDocument : IsDocument maxDepth document text)
    (isLength : decimalValue digits = (Utf8.encode text).length)
    (rest : List UInt8)
    (ended : Bool) :
    read .initial ⟨blockBytes lines blank ++ (Utf8.encode text ++ rest), ended⟩ =
      .finished (.ok document) ⟨rest, ended⟩ := by
  rw [read_block_of_digits block last areDigits few, isLength, readBody_append,
    decodeBody_encode isDocument]

end

/-! ## Rows of documents -/

/-- The bytes of a document behind a block that announces the length of its text. -/
inductive IsFrame : Json → List UInt8 → Prop where
  | behind
      {lines : List (List Char)}
      {blank digits text : List Char}
      {document : Json}
      (block : IsBlock lines blank)
      (last : LastGives lengthName lines digits)
      (areDigits : IsDigits digits)
      (few : digits.length ≤ maxDigits)
      (isDocument : IsDocument maxDepth document text)
      (isLength : decimalValue digits = (Utf8.encode text).length) :
      IsFrame document (blockBytes lines blank ++ Utf8.encode text)

theorem IsFrame.read
    {document : Json}
    {bytes : List UInt8}
    (frame : IsFrame document bytes)
    (rest : List UInt8)
    (ended : Bool) :
    Wire.read .initial ⟨bytes ++ rest, ended⟩ = .finished (.ok document) ⟨rest, ended⟩ := by
  obtain ⟨block, last, areDigits, few, isDocument, isLength⟩ := frame
  rw [List.append_assoc]
  exact read_document block last areDigits few isDocument isLength rest ended

/-- Documents in a row are all read, each behind its own block, and then the connection counts as
closed. -/
theorem readAll_frames
    {documents : List Json}
    {frames : List (List UInt8)}
    (each : List.Forall₂ IsFrame documents frames) :
    readAll frames.flatten = (documents, .closed) := by
  have reads : ReadsUntil ⟨frames.flatten, true⟩ documents .closed := by
    induction each with
    | nil =>
        exact .stop (readHeaders_nothing [])
    | cons frame _ inductionHypothesis =>
        exact .next (frame.read _ true) inductionHypothesis
  obtain ⟨sameDocuments, sameFault⟩ := (reads_readAll _).unique reads
  exact Prod.ext sameDocuments sameFault

/-! ## Headers with nothing but a length -/

/-- The name of the length header with its colon. -/
def lengthLabel : List Char :=
  ['C', 'o', 'n', 't', 'e', 'n', 't', '-', 'L', 'e', 'n', 'g', 't', 'h', ':', ' ']

/-- A header line with nothing but a length. -/
def lengthLine (digits : List Char) : List Char :=
  lengthLabel ++ (digits ++ ['\r'])

section

variable {digits : List Char}

theorem isBlock_lengthLine
    (areDigits : IsDigits digits)
    (short : digits.length < 60000) :
    IsBlock [lengthLine digits] ['\r'] where
  areLines := by
    have noFeed : '\n' ∉ digits := fun member => absurd (areDigits.2 _ member) (by decide)
    intro line isOnly
    obtain rfl := List.mem_singleton.mp isOnly
    unfold lengthLine
    constructor
    · exact isAscii_append.mpr ⟨by decide, isAscii_append.mpr ⟨areDigits.isAscii, by decide⟩⟩
    · simp [lengthLabel, noFeed]
    · simp only [lengthLabel, List.length_append, List.length_cons, List.length_nil,
        Stream.lineLimit]
      omega
  notBlank := List.forall_mem_singleton.mpr (trim_cons_ne_nil (by decide) _)
  isLine := isLine_of_length_lt (by decide) (by decide) (by decide)
  isBlank := by decide

theorem lastGives_lengthLine (areDigits : IsDigits digits) :
    LastGives lengthName [lengthLine digits] digits := by
  have isTrimmed : trim (' ' :: (digits ++ ['\r'])) = digits := by
    have noLast := trim_concat (by decide : isBlank '\r') (' ' :: digits)
    have noFirst : trim (' ' :: digits) = trim digits := rfl
    rw [← List.cons_append, noLast, noFirst]
    exact trimBoth_eq_self fun char member => isBlank_of_isAsciiDigit (areDigits.2 char member)
  exact ⟨[], _, [], rfl, ⟨"Content-Length".toList, _, rfl, by decide, by decide, isTrimmed⟩,
    fun _ member => (List.not_mem_nil member).elim⟩

/-- The bytes of a text behind a header line with its length. -/
def plainFrame (digits text : List Char) : List UInt8 :=
  blockBytes [lengthLine digits] ['\r'] ++ Utf8.encode text

/-- An ASCII text is decoded behind its length. -/
theorem read_plainFrame
    {text : List Char}
    (areDigits : IsDigits digits)
    (few : digits.length ≤ maxDigits)
    (ascii : IsAscii text)
    (isLength : decimalValue digits = text.length) :
    read .initial ⟨plainFrame digits text, true⟩ =
      .finished (decodeBody (Utf8.encode text)) ⟨[], true⟩ := by
  have short : digits.length < 60000 :=
    few.trans_lt (by decide)
  have size : (Utf8.encode text).length = text.length := by
    rw [encode_eq_asciiBytes ascii, length_asciiBytes]
  have isBody := readBody_append (Utf8.encode text) [] true
  rw [List.append_nil, size] at isBody
  rw [plainFrame, read_block_of_digits (isBlock_lengthLine areDigits short)
    (lastGives_lengthLine areDigits) areDigits few, isLength, isBody]

end

/-! ## Written messages -/

/-- The frame of a message has nothing but the length in its header. -/
theorem frame_eq_plainFrame
    {message : Json}
    (plain : Plain message) :
    frame message =
      plainFrame (Nat.toDigits 10 message.compactChars.length) message.compactChars := by
  have label : "Content-Length: ".toList = lengthLabel := by
    decide
  have isText : frameText message =
      (lengthLine (Nat.toDigits 10 message.compactChars.length) ++ ['\n']) ++
        ((['\r'] ++ ['\n']) ++ message.compactChars) := by
    unfold frameText header lengthLine
    rw [label]
    simp only [List.append_assoc]
    rfl
  rw [frame, isText, plainFrame, encode_eq_asciiBytes plain.isAscii_compactChars, blockBytes,
    List.flatMap_singleton, asciiBytes_append, asciiBytes_append (['\r'] ++ ['\n'])]
  exact (List.append_assoc ..).symm

/-- A message that can be written. -/
theorem encode_eq_ok
    {message : Json}
    {bytes : List UInt8}
    (written : encode message = .ok bytes) :
    message.depth ≤ maxDepth ∧ message.hasLongInteger = false ∧
      message.compactChars.length < Nat.pow 10 Number.maxDigits ∧ bytes = frame message := by
  unfold encode at written
  split at written
  · cases written
  · split at written
    · cases written
    · rename_i shallow short
      rw [Bool.or_eq_true, not_or, decide_eq_true_iff, Bool.not_eq_true] at short
      exact ⟨by omega, short.1, by omega, (Except.ok.inj written).symm⟩

/-- The length in the header of a message is that of its text. -/
theorem decimalValue_length
    {message : Json}
    (plain : Plain message) :
    decimalValue (Nat.toDigits 10 message.compactChars.length) =
      (Utf8.encode message.compactChars).length := by
  rw [decimalValue_toDigits, encode_eq_asciiBytes plain.isAscii_compactChars, length_asciiBytes]

/-- The bytes that are written for a message are a frame of it. -/
theorem isFrame_of_encode
    {message : Json}
    {bytes : List UInt8}
    (plain : Plain message)
    (written : encode message = .ok bytes) :
    IsFrame message bytes := by
  obtain ⟨shallow, short, small, rfl⟩ := encode_eq_ok written
  have areDigits := isDigits_toDigits message.compactChars.length
  have few := toDigits_length_le small
  have block := isBlock_lengthLine areDigits (few.trans_lt (by decide))
  have isDocument : IsDocument maxDepth message message.compactChars :=
    ⟨.bare message.compactChars, plain.spells short shallow, (Padded.chars_bare _).symm⟩
  rw [frame_eq_plainFrame plain]
  exact .behind block (lastGives_lengthLine areDigits) areDigits few isDocument
    (decimalValue_length plain)

/-! ## Beyond the limits of the reader -/

/-- Digits that are too many spell no integer. -/
theorem not_spellsInteger_of_many
    {digits : List Char}
    (areDigits : IsDigits digits)
    (many : maxDigits < digits.length)
    (number : Int) :
    ¬SpellsInteger digits number := by
  obtain ⟨first, others, rfl, isDigit, _⟩ := areDigits.head
  intro spelled
  cases spelled with
  | unsigned spelled =>
      have few := spelled.few
      rw [areDigits.filter_isDecimal] at few
      omega
  | plus => cases isDigit
  | minus => cases isDigit

/-- Arrays inside each other. -/
def nested : Nat → Json
  | 0 => .arr []
  | depth + 1 => .arr [nested depth]

/-- The text of arrays inside each other. -/
def nestedChars (depth : Nat) : List Char :=
  List.replicate (depth + 1) '[' ++ List.replicate (depth + 1) ']'

theorem nestedChars_succ (depth : Nat) :
    nestedChars (depth + 1) = '[' :: (nestedChars depth ++ [']']) := by
  unfold nestedChars
  rw [List.replicate_succ (n := depth + 1), List.replicate_succ' (n := depth + 1) (a := ']')]
  simp

theorem spells_nested (depth : Nat) : Spells (depth + 1) (nested depth) (nestedChars depth) := by
  induction depth with
  | zero =>
      exact @Spells.emptyArray 0 [] fun _ member => (List.not_mem_nil member).elim
  | succ depth inductionHypothesis =>
      have spelled := @Spells.array (depth + 1) ⟨nested depth, .bare (nestedChars depth)⟩ []
        (List.forall_mem_singleton.mpr inductionHypothesis)
      rw [nestedChars_succ]
      simpa [listTail, nested] using spelled

/-- Arrays that are too deep inside each other are not read. -/
theorem value_too_deep
    (room : Nat)
    {fuel : Nat}
    (enough : 2 * room < fuel)
    (rest : List Char) :
    value room fuel (List.replicate (room + 1) '[' ++ rest) = .error (.tooDeep .array) := by
  induction room generalizing fuel with
  | zero =>
      obtain ⟨more, rfl⟩ : ∃ more, fuel = more + 1 := ⟨fuel - 1, by omega⟩
      simp [value]
  | succ room inductionHypothesis =>
      obtain ⟨more, rfl⟩ : ∃ more, fuel = more + 2 := ⟨fuel - 2, by omega⟩
      have inner := inductionHypothesis (by omega : 2 * room < more)
      rw [List.replicate_succ, List.cons_append] at inner
      have begins := skipSpace_cons (rfl : isSpace '[' = false) (List.replicate room '[' ++ rest)
      rw [List.replicate_succ, List.replicate_succ, List.cons_append, List.cons_append,
        value_array (by decide) begins, begins]
      simp only [items, inner]
      rfl

/-- An integer with too many digits is not read. -/
theorem value_too_many_digits
    {digits : List Char}
    (isWhole : IsWhole digits)
    (many : maxDigits < digits.length)
    (room fuel : Nat) :
    value room (fuel + 1) digits = .error (.tooManyDigits digits.length) := by
  have noSign := sign_append .nothing isWhole.areDigits []
  have whole := @integerPart?_append digits [] isWhole (by simp)
  obtain ⟨first, others, rfl, isDigit, _⟩ := isWhole.areDigits.head
  obtain ⟨unnamed, _⟩ := named?_digit isDigit others
  rw [value_eq_number (ne_of_isAsciiDigit isDigit rfl) (ne_of_isAsciiDigit isDigit rfl)
    (ne_of_isAsciiDigit isDigit rfl) unnamed]
  simp only [List.append_nil, List.nil_append] at noSign whole
  simp only [number, noSign, whole, fraction, exponent, Option.isNone_none, Bool.and_self,
    ↓reduceIte, if_pos many]

/-- Two, with zeros in front. -/
def paddedTwo (zeros : Nat) : List Char :=
  List.replicate zeros '0' ++ ['2']

section

variable (count : Nat)

theorem isDigits_paddedTwo : IsDigits (paddedTwo count) := by
  constructor
  · simp [paddedTwo]
  · intro char member
    rcases List.mem_append.mp member with isZero | isTwo
    · obtain rfl := (List.mem_replicate.mp isZero).2
      decide
    · obtain rfl := List.mem_singleton.mp isTwo
      decide

theorem length_paddedTwo : (paddedTwo count).length = count + 1 := by
  simp [paddedTwo]

theorem decimalValue_paddedTwo : decimalValue (paddedTwo count) = 2 := by
  have zeros : decimalValue (List.replicate count '0') = 0 := by
    induction count with
    | zero => rfl
    | succ count inductionHypothesis => exact inductionHypothesis
  have behind : decimalValue (paddedTwo count) =
      decimalValue (List.replicate count '0') * 10 + 2 := by
    unfold paddedTwo decimalValue
    rw [List.foldl_append]
    rfl
  rw [behind, zeros]

theorem isWhole_ones : IsWhole (List.replicate (count + 1) '1') := by
  refine ⟨⟨by simp, ?_⟩, ?_⟩
  · intro char member
    obtain rfl := (List.mem_replicate.mp member).2
    decide
  · intro rest isZero
    exact absurd (List.cons.inj isZero).1 (by decide)

theorem length_nestedChars : (nestedChars count).length = 2 * count + 2 := by
  simp only [nestedChars, List.length_append, List.length_replicate]
  omega

/-- A text that is nested more deeply than there is room for is not read. -/
theorem value_nestedChars
    {room fuel : Nat}
    (more : room ≤ count)
    (enough : 2 * room < fuel) :
    value room fuel (nestedChars count) = .error (.tooDeep .array) := by
  have split : nestedChars count = List.replicate (room + 1) '[' ++
      (List.replicate (count - room) '[' ++ List.replicate (count + 1) ']') := by
    rw [nestedChars, ← List.append_assoc, List.replicate_append_replicate]
    congr 2
    omega
  rw [split]
  exact value_too_deep room enough _

theorem isAscii_nestedChars : IsAscii (nestedChars count) := by
  simp [nestedChars, IsAscii, or_imp, forall_and]

end

/-! ## Any block -/

/-- Whatever else a block of header lines says, the document behind it is read, the bytes behind
the document are read next, and the result is the same as behind any other block with the same
length. -/
theorem read_behind_any_block
    {lines : List (List Char)}
    {blank digits : List Char}
    (block : IsBlock lines blank)
    (last : LastGives lengthName lines digits)
    (areDigits : IsDigits digits)
    (few : digits.length ≤ maxDigits) :
    (∀ document text, IsDocument maxDepth document text →
      decimalValue digits = (Utf8.encode text).length → ∀ rest ended,
      read .initial ⟨blockBytes lines blank ++ (Utf8.encode text ++ rest), ended⟩ =
          .finished (.ok document) ⟨rest, ended⟩ ∧
        ∀ messages fault, ReadsUntil ⟨rest, ended⟩ messages fault →
          ReadsUntil ⟨blockBytes lines blank ++ (Utf8.encode text ++ rest), ended⟩
            (document :: messages) fault) ∧
    ∀ otherLines otherBlank otherDigits, IsBlock otherLines otherBlank →
      LastGives lengthName otherLines otherDigits → IsDigits otherDigits →
      otherDigits.length ≤ maxDigits → decimalValue otherDigits = decimalValue digits →
      ∀ rest ended, read .initial ⟨blockBytes otherLines otherBlank ++ rest, ended⟩ =
        read .initial ⟨blockBytes lines blank ++ rest, ended⟩ := by
  constructor
  · intro document text isDocument isLength rest ended
    have isRead := read_document block last areDigits few isDocument isLength rest ended
    exact ⟨isRead, fun messages fault later => .next isRead later⟩
  · intro otherLines otherBlank otherDigits otherBlock otherLast areOtherDigits otherFew sameLength
      rest ended
    rw [read_block_of_digits block last areDigits few,
      read_block_of_digits otherBlock otherLast areOtherDigits otherFew, sameLength]

/-- Two other headers, one of them with a colon in its value, an earlier length and a line without
a colon stand in front of the length of a document whose text has more bytes than characters. -/
theorem read_behind_four_lines :
    let lines := ["content-LENGTH:99".toList, "Content-Type: a:b\r".toList, "\tnothing".toList,
      "CONTENT-Length :\t06 \r".toList]
    let rest := asciiBytes "Content".toList
    read .initial ⟨blockBytes lines ['\r'] ++ (Utf8.encode "[\"é\"]".toList ++ rest), true⟩ =
      .finished (.ok (.arr [.str "é"])) ⟨rest, true⟩ := by
  intro lines rest
  have block : IsBlock lines ['\r'] :=
    isBlock_of_short (by decide)
  have last : LastGives lengthName lines ['0', '6'] :=
    ⟨lines.take 3, "CONTENT-Length :\t06 \r".toList, [], rfl,
      ⟨"CONTENT-Length ".toList, "\t06 \r".toList, by decide, by decide, by decide, by decide⟩,
      fun _ member => (List.not_mem_nil member).elim⟩
  have spelled : Spells 969 (.str "é") ['"', 'é', '"'] :=
    .string ⟨['é'], .cons (.itself (by decide) (by decide) (by decide)) .nil, rfl⟩
  have isDocument : IsDocument maxDepth (.arr [.str "é"]) "[\"é\"]".toList :=
    ⟨.bare _, @Spells.array 969 ⟨.str "é", .bare ['"', 'é', '"']⟩ []
      (List.forall_mem_singleton.mpr spelled), rfl⟩
  exact ((read_behind_any_block block last (by decide) (by decide)).1 _ _ isDocument (by decide)
    rest true).1

/-- A length, a depth and an integer far beyond the limits of the reader. -/
theorem frames_beyond_limits_fail :
    (IsDigits (paddedTwo 4300) ∧ decimalValue (paddedTwo 4300) = 2 ∧
      IsDocument maxDepth (.obj []) ['{', '}'] ∧
      read .initial ⟨plainFrame (paddedTwo 4300) ['{', '}'], true⟩ =
        .finished (.error (.badLength (String.ofList (paddedTwo 4300))))
          ⟨Utf8.encode ['{', '}'], true⟩) ∧
    (IsDocument 1500 (nested 1499) (nestedChars 1499) ∧
      read .initial ⟨plainFrame "3000".toList (nestedChars 1499), true⟩ =
        .finished (.error (.malformed (.tooDeep .array))) ⟨[], true⟩) ∧
    IsWhole (List.replicate 4301 '1') ∧
      read .initial ⟨plainFrame "4301".toList (List.replicate 4301 '1'), true⟩ =
        .finished (.error (.malformed (.tooManyDigits 4301))) ⟨[], true⟩ := by
  have areDigits := isDigits_paddedTwo 4300
  have size := length_paddedTwo 4300
  have depthSize := length_nestedChars 1499
  have isWhole := isWhole_ones 4300
  refine ⟨⟨areDigits, decimalValue_paddedTwo 4300, ?_, ?_⟩, ⟨?_, ?_⟩, isWhole, ?_⟩
  · exact ⟨.bare ['{', '}'],
      @Spells.emptyObject 969 [] fun _ member => (List.not_mem_nil member).elim, rfl⟩
  · have many : maxDigits < (paddedTwo 4300).length := by
      rw [size]
      decide
    exact read_block_of_not_spelled (isBlock_lengthLine areDigits (by rw [size]; decide))
      (lastGives_lengthLine areDigits) (not_spellsInteger_of_many areDigits many) _ true
  · exact ⟨.bare _, spells_nested 1499, (Padded.chars_bare _).symm⟩
  · have failed : value maxDepth (2 * (nestedChars 1499).length + 2) (nestedChars 1499) =
        .error (.tooDeep .array) :=
      value_nestedChars 1499 (by decide) (by rw [depthSize]; decide)
    rw [read_plainFrame (by decide) (by decide) (isAscii_nestedChars 1499)
      (by rw [depthSize]; decide), decodeBody_of_fault (spells_nested 1499).head failed]
    rfl
  · have onesSize : (List.replicate 4301 '1').length = 4301 := List.length_replicate ..
    have failed := value_too_many_digits isWhole (by rw [onesSize]; decide) maxDepth
      (2 * (List.replicate 4301 '1').length + 1)
    rw [read_plainFrame (by decide) (by decide) isWhole.areDigits.isAscii
      (by rw [onesSize]; decide), decodeBody_of_fault ?_ failed, onesSize]
    · rfl
    · exact ⟨'1', List.replicate 4300 '1', rfl, rfl, by decide, by decide⟩

end Wire

end AnalyzerSessions
