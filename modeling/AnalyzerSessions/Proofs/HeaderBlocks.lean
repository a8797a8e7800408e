import AnalyzerSessions.Proofs.FrameReading
import AnalyzerSessions.Proofs.SpelledIntegers
import Mathlib.Data.List.DropRight

namespace AnalyzerSessions

open Json Number Text

/-!
# Blocks of header lines

In front of every message stands a block of header lines and a blank line.  Of all that the lines
say only the length counts, and of several lengths the last: in what order the lines stand, what
other headers they give and in what letters their names are written makes no difference.
-/

/-! ## Trimming and cutting -/

namespace Text

section

variable {drops : Char → Bool} {stop last : Char} {text front back : List Char}

/-- What is dropped at the front ends at a character that is kept. -/
theorem dropWhile_append_stop
    (kept : drops stop = false)
    (front back : List Char) :
    (front ++ stop :: back).dropWhile drops = front.dropWhile drops ++ stop :: back := by
  induction front with
  | nil =>
      simp [kept]
  | cons char rest inductionHypothesis =>
      by_cases dropped : drops char
      · simp [dropped, inductionHypothesis]
      · simp [dropped]

theorem rdropWhile_append_stop
    (kept : drops stop = false)
    (front back : List Char) :
    (front ++ stop :: back).rdropWhile drops = front ++ stop :: back.rdropWhile drops := by
  simp [List.rdropWhile, dropWhile_append_stop kept]

theorem trimBoth_append_stop
    (kept : drops stop = false)
    (front back : List Char) :
    trimBoth drops (front ++ stop :: back) =
      front.dropWhile drops ++ stop :: back.rdropWhile drops := by
  rw [trimBoth, dropWhile_append_stop kept]
  exact rdropWhile_append_stop kept _ back

/-- A text is dropped as a whole, or some character of it is kept. -/
theorem all_dropped_or_stop
    (drops : Char → Bool)
    (text : List Char) :
    (∀ char ∈ text, drops char) ∨
      ∃ front stop back, text = front ++ stop :: back ∧ drops stop = false := by
  by_cases all : ∀ char ∈ text, drops char
  · exact .inl all
  · simp only [not_forall, Bool.not_eq_true] at all
    obtain ⟨stop, member, kept⟩ := all
    obtain ⟨front, back, rfl⟩ := List.append_of_mem member
    exact .inr ⟨front, stop, back, rfl, kept⟩

theorem trimBoth_eq_nil
    (all : ∀ char ∈ text, drops char) :
    trimBoth drops text = [] := by
  simp [trimBoth, List.dropWhile_eq_nil_iff.mpr all]

theorem trimBoth_dropWhile
    (drops : Char → Bool)
    (text : List Char) :
    trimBoth drops (text.dropWhile drops) = trimBoth drops text := by
  simp [trimBoth, List.dropWhile_idempotent]

theorem trimBoth_rdropWhile
    (drops : Char → Bool)
    (text : List Char) :
    trimBoth drops (text.rdropWhile drops) = trimBoth drops text := by
  rcases all_dropped_or_stop drops text with all | ⟨front, stop, back, rfl, kept⟩
  · rw [List.rdropWhile_eq_nil_iff.mpr all, trimBoth_eq_nil all]
    rfl
  · rw [rdropWhile_append_stop kept, trimBoth_append_stop kept, trimBoth_append_stop kept,
      List.rdropWhile_idempotent]

/-- Nothing more is trimmed from a text that was trimmed. -/
theorem trim_trim (text : List Char) : trim (trim text) = trim text :=
  (trimBoth_rdropWhile isBlank _).trans (trimBoth_dropWhile isBlank text)

/-- A blank at the end is trimmed. -/
theorem trim_concat
    (blank : isBlank last)
    (text : List Char) :
    trim (text ++ [last]) = trim text := by
  rcases all_dropped_or_stop isBlank text with all | ⟨front, stop, back, rfl, kept⟩
  · have alsoLast : ∀ char ∈ text ++ [last], isBlank char := by
      simpa [or_imp, forall_and, blank] using all
    rw [trim, trim, trimBoth_eq_nil all, trimBoth_eq_nil alsoLast]
  · rw [trim, trim, List.append_assoc, List.cons_append, trimBoth_append_stop kept,
      trimBoth_append_stop kept, List.rdropWhile_concat_pos isBlank back last blank]

/-- A text is cut at the first separator in it. -/
theorem cutAt?_eq_some_iff
    {separator : Char} :
    cutAt? separator text = some (front, back) ↔
      text = front ++ separator :: back ∧ separator ∉ front := by
  induction text generalizing front with
  | nil =>
      simp [cutAt?]
  | cons char rest inductionHypothesis =>
      by_cases isSeparator : char = separator
      · subst isSeparator
        cases front with
        | nil => simp [cutAt?, eq_comm]
        | cons other more => simp +contextual [cutAt?]
      · cases front with
        | nil =>
            simp [cutAt?, isSeparator]
        | cons other more =>
            have whole : cutAt? separator (char :: rest) = some (other :: more, back) ↔
                char = other ∧ cutAt? separator rest = some (more, back) := by
              simp [cutAt?, isSeparator, Option.map_eq_some_iff, and_comm]
            rw [whole, inductionHypothesis, List.cons_append, List.cons.injEq, List.mem_cons,
              not_or]
            constructor
            · rintro ⟨rfl, isRest, absent⟩
              exact ⟨⟨rfl, isRest⟩, Ne.symm isSeparator, absent⟩
            · rintro ⟨⟨rfl, isRest⟩, _, absent⟩
              exact ⟨rfl, isRest, absent⟩

theorem cutAt?_eq_none_iff
    {separator : Char} :
    cutAt? separator text = none ↔ separator ∉ text := by
  induction text with
  | nil =>
      simp [cutAt?]
  | cons char rest inductionHypothesis =>
      by_cases isSeparator : char = separator
      · simp [cutAt?, isSeparator]
      · simp [cutAt?, isSeparator, inductionHypothesis, Ne.symm isSeparator]

end

end Text

namespace Wire

/-! ## What lines say -/

/-- A line gives a header a value: the name stands in front of the first colon, in letters of any
case, and the value behind it, each with blanks around it or without. -/
def Gives (name : String) (line value : List Char) : Prop :=
  ∃ label content, line = label ++ ':' :: content ∧ ':' ∉ label ∧
    (trim label).map lowerAscii = name.toList ∧ trim content = value

/-- No line gives a header a value. -/
def NoneGives (name : String) (lines : List (List Char)) : Prop :=
  ∀ line ∈ lines, ∀ value, ¬Gives name line value

/-- The last line that gives a header a value gives it this one. -/
def LastGives (name : String) (lines : List (List Char)) (value : List Char) : Prop :=
  ∃ before line after, lines = before ++ line :: after ∧ Gives name line value ∧
    NoneGives name after

variable {name : String} {lines : List (List Char)} {line value : List Char} {headers : Headers}

/-- A header is given a value by some line, or by none. -/
theorem noneGives_or_lastGives
    (name : String)
    (lines : List (List Char)) :
    NoneGives name lines ∨ ∃ value, LastGives name lines value := by
  induction lines with
  | nil =>
      exact .inl fun _ member => (List.not_mem_nil member).elim
  | cons line rest inductionHypothesis =>
      rcases inductionHypothesis with none | ⟨value, before, last, after, rfl, gives, none⟩
      · by_cases given : ∃ value, Gives name line value
        · obtain ⟨value, gives⟩ := given
          exact .inr ⟨value, [], line, rest, rfl, gives, none⟩
        · exact .inl (List.forall_mem_cons.mpr ⟨not_exists.mp given, none⟩)
      · exact .inr ⟨value, line :: before, last, after, rfl, gives, none⟩

/-- Blanks around a header line say nothing. -/
theorem addLine_trim
    (headers : Headers)
    (line : List Char) :
    addLine headers (trim line) = addLine headers line := by
  have kept : isBlank ':' = false := by
    decide
  cases cut : cutAt? ':' line with
  | none =>
      have absent : ':' ∉ trim line := fun member =>
        cutAt?_eq_none_iff.mp cut (mem_of_mem_trim member)
      simp only [addLine, cut, cutAt?_eq_none_iff.mpr absent]
  | some parts =>
      obtain ⟨label, content⟩ := parts
      obtain ⟨rfl, absent⟩ := cutAt?_eq_some_iff.mp cut
      have stillAbsent : ':' ∉ label.dropWhile isBlank := fun member =>
        absent ((List.dropWhile_sublist _).subset member)
      have cutTrimmed : cutAt? ':' (trim (label ++ ':' :: content)) =
          some (label.dropWhile isBlank, content.rdropWhile isBlank) :=
        cutAt?_eq_some_iff.mpr ⟨trimBoth_append_stop kept label content, stillAbsent⟩
      have sameName : trim (label.dropWhile isBlank) = trim label := trimBoth_dropWhile ..
      have sameValue : trim (content.rdropWhile isBlank) = trim content := trimBoth_rdropWhile ..
      simp only [addLine, cut, cutTrimmed, sameName, sameValue]

/-- A line that gives a header a value is the one that counts from then on. -/
theorem headerValue?_addLine_of_gives
    (gives : Gives name line value) :
    headerValue? (addLine headers line) name = some value := by
  obtain ⟨label, content, rfl, absent, isName, isValue⟩ := gives
  have cut := cutAt?_eq_some_iff.mpr ⟨(rfl : label ++ ':' :: content = _), absent⟩
  simp [addLine, cut, headerValue?, isName, isValue]

/-- A line that gives a header no value changes nothing about it. -/
theorem headerValue?_addLine_of_not_gives
    (none : ∀ value, ¬Gives name line value) :
    headerValue? (addLine headers line) name = headerValue? headers name := by
  cases cut : cutAt? ':' line with
  | none =>
      simp only [addLine, cut]
  | some parts =>
      obtain ⟨label, content⟩ := parts
      obtain ⟨isLine, absent⟩ := cutAt?_eq_some_iff.mp cut
      have otherName : String.ofList ((trim label).map lowerAscii) ≠ name := by
        rintro rfl
        exact none _ ⟨label, content, isLine, absent, String.toList_ofList.symm, rfl⟩
      simp [addLine, cut, headerValue?, otherName]

theorem headerValue?_of_noneGives
    (none : NoneGives name lines) :
    headerValue? (lines.foldl addLine headers) name = headerValue? headers name := by
  induction lines generalizing headers with
  | nil =>
      rfl
  | cons line rest inductionHypothesis =>
      obtain ⟨notFirst, noneAfter⟩ := List.forall_mem_cons.mp none
      rw [List.foldl_cons, inductionHypothesis noneAfter,
        headerValue?_addLine_of_not_gives notFirst]

theorem headerValue?_of_lastGives
    (last : LastGives name lines value) :
    headerValue? (lines.foldl addLine headers) name = some value := by
  obtain ⟨before, line, after, rfl, gives, none⟩ := last
  rw [List.foldl_append, List.foldl_cons, headerValue?_of_noneGives none,
    headerValue?_addLine_of_gives gives]

/-! ## Blocks -/

/-- A line of a block, without its line feed: ASCII, and not too long.  A carriage return may stand
at its end. -/
structure IsLine (line : List Char) : Prop where
  ascii : IsAscii line
  oneLine : '\n' ∉ line
  short : line.length ≤ Stream.lineLimit

/-- Header lines, none of which is blank, and a blank line. -/
structure IsBlock (lines : List (List Char)) (blank : List Char) : Prop where
  areLines : ∀ line ∈ lines, IsLine line
  notBlank : ∀ line ∈ lines, trim line ≠ []
  isLine : IsLine blank
  isBlank : trim blank = []

/-- The bytes of a line with its line feed. -/
def lineBytes (line : List Char) : List UInt8 :=
  asciiBytes (line ++ ['\n'])

/-- The bytes of a block. -/
def blockBytes (lines : List (List Char)) (blank : List Char) : List UInt8 :=
  lines.flatMap lineBytes ++ lineBytes blank

/-- No line feed is among the bytes of a line without one. -/
theorem IsLine.feed_not_mem (isLine : IsLine line) : 10 ∉ asciiBytes line := by
  intro member
  obtain ⟨char, inside, isFeed⟩ := List.mem_map.mp member
  have code := congrArg UInt8.toNat isFeed
  rw [toNat_asciiByte (isLine.ascii char inside)] at code
  have feed : char = '\n' := by
    rw [← Char.ofNat_toNat char, code]
    rfl
  exact isLine.oneLine (feed ▸ inside)

theorem takeLine?_lineBytes
    (isLine : IsLine line)
    (rest : List UInt8)
    (ended : Bool) :
    Stream.takeLine? ⟨lineBytes line ++ rest, ended⟩ =
      some (.ok (lineBytes line), ⟨rest, ended⟩) := by
  have isBytes : lineBytes line = asciiBytes line ++ [10] := asciiBytes_append line ['\n']
  have short : ¬Stream.lineLimit < (asciiBytes line ++ [10]).length - 1 := by
    simpa [length_asciiBytes] using isLine.short
  rw [isBytes, List.append_assoc, List.singleton_append]
  simp only [Stream.takeLine?, cutLine?_append isLine.feed_not_mem, if_neg short]

/-- A header line is added to those before it, and behind a blank line the body is read. -/
theorem readHeaders_lineBytes
    (isLine : IsLine line)
    (rest : List UInt8)
    (ended : Bool) :
    readHeaders headers ⟨lineBytes line ++ rest, ended⟩ =
      if trim line = [] then
        match announcedLength headers with
        | .error fault => .finished (.error fault) ⟨rest, ended⟩
        | .ok length => readBody length ⟨rest, ended⟩
      else readHeaders (addLine headers line) ⟨rest, ended⟩ := by
  have taken := takeLine?_lineBytes isLine rest ended
  have nonempty : lineBytes line ≠ [] := by
    simp [lineBytes, asciiBytes]
  have ascii : IsAscii (line ++ ['\n']) := isAscii_append.mpr ⟨isLine.ascii, by decide⟩
  have isText := lineText_asciiBytes ascii 0
  have trimmed : trim (line ++ ['\n']) = trim line := trim_concat (by decide) line
  have isRead := @readHeaders_line headers _ _ _ _ taken nonempty isText
  rw [trimmed, addLine_trim] at isRead
  exact isRead

/-- A block is read as what its lines say together, and the body behind it. -/
theorem readHeaders_block
    {blank : List Char}
    (block : IsBlock lines blank)
    (headers : Headers)
    (rest : List UInt8)
    (ended : Bool) :
    readHeaders headers ⟨blockBytes lines blank ++ rest, ended⟩ =
      match announcedLength (lines.foldl addLine headers) with
      | .error fault => .finished (.error fault) ⟨rest, ended⟩
      | .ok length => readBody length ⟨rest, ended⟩ := by
  obtain ⟨areLines, notBlank, isLine, isBlank⟩ := block
  induction lines generalizing headers with
  | nil =>
      rw [blockBytes, List.flatMap_nil, List.nil_append, readHeaders_lineBytes isLine,
        if_pos isBlank]
      rfl
  | cons line more inductionHypothesis =>
      obtain ⟨isFirst, areMore⟩ := List.forall_mem_cons.mp areLines
      obtain ⟨firstNotBlank, moreNotBlank⟩ := List.forall_mem_cons.mp notBlank
      have first : blockBytes (line :: more) blank ++ rest =
          lineBytes line ++ (blockBytes more blank ++ rest) := by
        simp [blockBytes]
      rw [first, readHeaders_lineBytes isFirst, if_neg firstNotBlank,
        inductionHypothesis _ areMore moreNotBlank, List.foldl_cons]

/-! ## The announced length -/

/-- The name of the header that counts. -/
def lengthName : String :=
  "content-length"

/-- A value that a line gives is ASCII and was trimmed. -/
theorem LastGives.isAscii
    (last : LastGives name lines value)
    (areLines : ∀ line ∈ lines, IsLine line) :
    IsAscii value ∧ trim value = value := by
  obtain ⟨before, line, after, rfl, ⟨label, content, rfl, -, -, rfl⟩, -⟩ := last
  have ascii := (areLines _ (List.mem_append_right _ List.mem_cons_self)).ascii
  have contentAscii := (isAscii_cons.mp (isAscii_append.mp ascii).2).2
  exact ⟨fun char member => contentAscii char (mem_of_mem_trim member), trim_trim content⟩

/-- The length that a block announces is the integer that the last value of the header spells. -/
theorem integer?_of_lastGives
    {number : Int}
    (last : LastGives name lines value)
    (areLines : ∀ line ∈ lines, IsLine line) :
    integer? value = some number ↔ SpellsInteger value number := by
  obtain ⟨ascii, isTrimmed⟩ := last.isAscii areLines
  have spells := @integer?_eq_some_iff value ascii number
  rwa [isTrimmed] at spells

/-- Lines give no length, or a value that spells no integer, one below zero or a length. -/
theorem noneGives_or_spells (lines : List (List Char)) :
    NoneGives lengthName lines ∨ ∃ value, LastGives lengthName lines value ∧
      ((∀ number, ¬SpellsInteger value number) ∨ (∃ number < 0, SpellsInteger value number) ∨
        ∃ length : Nat, SpellsInteger value length) := by
  rcases noneGives_or_lastGives lengthName lines with none | ⟨value, last⟩
  · exact .inl none
  · refine .inr ⟨value, last, ?_⟩
    by_cases isSpelled : ∃ number, SpellsInteger value number
    · obtain ⟨number, spelled⟩ := isSpelled
      rcases Int.lt_or_le number 0 with negative | notNegative
      · exact .inr (.inl ⟨number, negative, spelled⟩)
      · obtain ⟨length, rfl⟩ := Int.eq_ofNat_of_zero_le notNegative
        exact .inr (.inr ⟨length, spelled⟩)
    · exact .inl (not_exists.mp isSpelled)

/-- Lines that give a length announce it. -/
theorem announcedLength_of_lastGives
    {length : Nat}
    (last : LastGives lengthName lines value)
    (areLines : ∀ line ∈ lines, IsLine line)
    (spelled : SpellsInteger value length) :
    announcedLength (lines.foldl addLine []) = .ok length := by
  have isValue : headerValue? (lines.foldl addLine []) "content-length" = some value :=
    headerValue?_of_lastGives last
  have isRead := (integer?_of_lastGives last areLines).mpr spelled
  have notNegative : ¬(length : Int) < 0 := by
    omega
  simp only [announcedLength, isValue, isRead, if_neg notNegative, Int.toNat_natCast]

/-! ## Reading behind a block -/

section

variable {blank : List Char} {value : List Char}

theorem read_block
    (block : IsBlock lines blank)
    (rest : List UInt8)
    (ended : Bool) :
    read .initial ⟨blockBytes lines blank ++ rest, ended⟩ =
      match announcedLength (lines.foldl addLine []) with
      | .error fault => .finished (.error fault) ⟨rest, ended⟩
      | .ok length => readBody length ⟨rest, ended⟩ :=
  readHeaders_block block [] rest ended

/-- Without a length there is no message. -/
theorem read_block_of_noneGives
    (block : IsBlock lines blank)
    (none : NoneGives lengthName lines)
    (rest : List UInt8)
    (ended : Bool) :
    read .initial ⟨blockBytes lines blank ++ rest, ended⟩ =
      .finished (.error .missingLength) ⟨rest, ended⟩ := by
  have noValue : headerValue? (lines.foldl addLine []) "content-length" = Option.none :=
    headerValue?_of_noneGives none
  simp only [read_block block, announcedLength, noValue]

/-- A length that spells no integer is no length. -/
theorem read_block_of_not_spelled
    (block : IsBlock lines blank)
    (last : LastGives lengthName lines value)
    (unspelled : ∀ number, ¬SpellsInteger value number)
    (rest : List UInt8)
    (ended : Bool) :
    read .initial ⟨blockBytes lines blank ++ rest, ended⟩ =
      .finished (.error (.badLength (String.ofList value))) ⟨rest, ended⟩ := by
  have isValue : headerValue? (lines.foldl addLine []) "content-length" = some value :=
    headerValue?_of_lastGives last
  have notRead : integer? value = none := by
    apply Option.eq_none_iff_forall_ne_some.mpr
    intro number isRead
    exact unspelled number ((integer?_of_lastGives last block.areLines).mp isRead)
  simp only [read_block block, announcedLength, isValue, notRead]

/-- A length below zero is taken for an integer, and only then refused. -/
theorem read_block_of_negative
    {number : Int}
    (block : IsBlock lines blank)
    (last : LastGives lengthName lines value)
    (spelled : SpellsInteger value number)
    (negative : number < 0)
    (rest : List UInt8)
    (ended : Bool) :
    read .initial ⟨blockBytes lines blank ++ rest, ended⟩ =
      .finished (.error .negativeLength) ⟨rest, ended⟩ := by
  have isValue : headerValue? (lines.foldl addLine []) "content-length" = some value :=
    headerValue?_of_lastGives last
  have isRead := (integer?_of_lastGives last block.areLines).mpr spelled
  simp only [read_block block, announcedLength, isValue, isRead, if_pos negative]

/-- Behind a length the body is read. -/
theorem read_block_of_length
    {length : Nat}
    (block : IsBlock lines blank)
    (last : LastGives lengthName lines value)
    (spelled : SpellsInteger value length)
    (rest : List UInt8)
    (ended : Bool) :
    read .initial ⟨blockBytes lines blank ++ rest, ended⟩ = readBody length ⟨rest, ended⟩ := by
  simp only [read_block block, announcedLength_of_lastGives last block.areLines spelled]

theorem readBody_of_le
    {length : Nat}
    {rest : List UInt8}
    (enough : length ≤ rest.length)
    (ended : Bool) :
    readBody length ⟨rest, ended⟩ =
      .finished (decodeBody (rest.take length)) ⟨rest.drop length, ended⟩ := by
  simp only [readBody, Stream.takeExactly?, if_pos enough]

/-- No message is read, and the fault counts as one of the framing. -/
def FailsInFrame (stream : Stream) (fault : FrameFault) (after : Stream) : Prop :=
  read .initial stream = .finished (.error fault) after ∧ fault.isProtocolError

/-- A block without a length, or with one that spells no integer, and a body that is cut off are
faults of the framing, and there are no others but a length below zero: any other fault is one of a
body that is there as a whole. -/
theorem read_block_faults
    {lines : List (List Char)}
    (block : IsBlock lines blank)
    (rest : List UInt8) :
    (NoneGives lengthName lines → ∀ ended,
      FailsInFrame ⟨blockBytes lines blank ++ rest, ended⟩ .missingLength ⟨rest, ended⟩) ∧
    (∀ value, LastGives lengthName lines value →
      ((∀ number, ¬SpellsInteger value number) → ∀ ended,
        FailsInFrame ⟨blockBytes lines blank ++ rest, ended⟩ (.badLength (String.ofList value))
          ⟨rest, ended⟩) ∧
      (∀ length : Nat, SpellsInteger value length → rest.length < length →
        FailsInFrame ⟨blockBytes lines blank ++ rest, true⟩ .truncated ⟨[], true⟩) ∧
      (∀ number < 0, SpellsInteger value number → ∀ ended,
        read .initial ⟨blockBytes lines blank ++ rest, ended⟩ =
          .finished (.error .negativeLength) ⟨rest, ended⟩)) ∧
    ∀ ended fault after,
      read .initial ⟨blockBytes lines blank ++ rest, ended⟩ = .finished (.error fault) after →
      fault.isProtocolError = false →
      ∃ value, LastGives lengthName lines value ∧
        ((∃ number < 0, SpellsInteger value number ∧ fault = .negativeLength) ∨
          ∃ length : Nat, SpellsInteger value length ∧ length ≤ rest.length ∧
            decodeBody (rest.take length) = .error fault) := by
  refine ⟨fun none ended => ⟨read_block_of_noneGives block none rest ended, rfl⟩,
    fun value last => ⟨fun unspelled ended =>
      ⟨read_block_of_not_spelled block last unspelled rest ended, rfl⟩, ?_,
      fun number negative spelled => read_block_of_negative block last spelled negative rest⟩, ?_⟩
  · intro length spelled few
    refine ⟨?_, rfl⟩
    rw [read_block_of_length block last spelled, readBody_truncated few]
  · intro ended fault after isRead notProtocol
    rcases noneGives_or_spells lines with
      none | ⟨value, last, unspelled | ⟨number, negative, spelled⟩ | ⟨length, spelled⟩⟩
    · rw [read_block_of_noneGives block none] at isRead
      cases isRead
      cases notProtocol
    · rw [read_block_of_not_spelled block last unspelled] at isRead
      cases isRead
      cases notProtocol
    · rw [read_block_of_negative block last spelled negative] at isRead
      cases isRead
      exact ⟨value, last, .inl ⟨number, negative, spelled, rfl⟩⟩
    · rw [read_block_of_length block last spelled] at isRead
      by_cases enough : length ≤ rest.length
      · rw [readBody_of_le enough] at isRead
        exact ⟨value, last, .inr ⟨length, spelled, enough, (Reading.finished.inj isRead).1⟩⟩
      · -- A body that is cut off is a fault of the framing, and without an end it is waited for.
        cases ended with
        | true =>
            rw [readBody_truncated (Nat.not_le.mp enough)] at isRead
            cases isRead
            cases notProtocol
        | false =>
            simp [readBody, Stream.takeExactly?, enough] at isRead

end

/-! ## A length that is too large and one that is too small -/

theorem isLine_of_length_lt
    (ascii : IsAscii line)
    (oneLine : '\n' ∉ line)
    (short : line.length < 100) :
    IsLine line :=
  ⟨ascii, oneLine, by simp only [Stream.lineLimit]; omega⟩

theorem isBlock_of_short
    (areLines : ∀ line ∈ lines, IsAscii line ∧ '\n' ∉ line ∧ line.length < 100 ∧ trim line ≠ []) :
    IsBlock lines ['\r'] where
  areLines line member :=
    isLine_of_length_lt (areLines line member).1 (areLines line member).2.1
      (areLines line member).2.2.1
  notBlank line member := (areLines line member).2.2.2
  isLine := isLine_of_length_lt (by decide) (by decide) (by decide)
  isBlank := by decide

/-- Fewer bytes follow than the nine that the last line announces. -/
theorem read_cut_body_fails :
    let lines := ["Content-Length: two\r".toList, "content-LENGTH :9 \r".toList]
    FailsInFrame ⟨blockBytes lines ['\r'] ++ asciiBytes "\x7b\x7d".toList, true⟩ .truncated
      ⟨[], true⟩ := by
  intro lines
  have block : IsBlock lines ['\r'] :=
    isBlock_of_short (by decide)
  have last : LastGives lengthName lines ['9'] :=
    ⟨[_], _, [], rfl, ⟨"content-LENGTH ".toList, "9 \r".toList, by decide, by decide, by decide,
      by decide⟩, fun _ member => (List.not_mem_nil member).elim⟩
  have spelled : SpellsInteger ['9'] (9 : Nat) :=
    .unsigned (.ofDigits (by decide) (by decide))
  exact ((read_block_faults block _).2.1 _ last).2.1 9 spelled (by decide)

/-- A length below zero is no length, but the reader takes it for no fault of the framing. -/
theorem negative_length_is_no_protocol_error :
    let lines := ["Content-Length: -1\r".toList]
    read .initial ⟨blockBytes lines ['\r'] ++ asciiBytes "\x7b\x7d".toList, true⟩ =
        .finished (.error .negativeLength) ⟨asciiBytes "\x7b\x7d".toList, true⟩ ∧
      FrameFault.isProtocolError .negativeLength = false := by
  intro lines
  have block : IsBlock lines ['\r'] :=
    isBlock_of_short (by decide)
  have last : LastGives lengthName lines ['-', '1'] :=
    ⟨[], _, [], rfl, ⟨"Content-Length".toList, " -1\r".toList, by decide, by decide, by decide,
      by decide⟩, fun _ member => (List.not_mem_nil member).elim⟩
  have spelled : SpellsInteger ['-', '1'] (-(1 : Nat)) :=
    .minus (.ofDigits (by decide) (by decide))
  exact ⟨read_block_of_negative block last spelled (by decide) _ true, rfl⟩

end Wire

end AnalyzerSessions
