import AnalyzerSessions.Proofs.FramedDocuments

namespace AnalyzerSessions.Wire

open Json Number Text

/-!
# Streams that end early

Of a row of frames that is cut off anywhere a reader gets the messages whose frames are whole, and
then it is told that the connection is closed.
-/

/-! ## One frame that is cut off -/

theorem IsLine.take
    {line : List Char}
    (isLine : IsLine line)
    (cut : Nat) :
    IsLine (line.take cut) where
  ascii char member := isLine.ascii char (List.mem_of_mem_take member)
  oneLine member := isLine.oneLine (List.mem_of_mem_take member)
  short := Nat.le_trans (List.take_sublist cut line).length_le isLine.short

/-- A line that the stream ends in is read as a whole one, and nothing is left. -/
theorem readHeaders_last_line
    {headers : Headers}
    {line : List Char}
    (isLine : IsLine line)
    (nonempty : line ≠ []) :
    readHeaders headers ⟨asciiBytes line, true⟩ =
      if trim line = [] then
        match announcedLength headers with
        | .error fault => .finished (.error fault) ⟨[], true⟩
        | .ok length => readBody length ⟨[], true⟩
      else .finished (.error .closed) ⟨[], true⟩ := by
  have short : ¬Stream.lineLimit < (asciiBytes line).length := by
    rw [length_asciiBytes, Nat.not_lt]
    exact isLine.short
  have taken : Stream.takeLine? ⟨asciiBytes line, true⟩ =
      some (.ok (asciiBytes line), ⟨[], true⟩) := by
    simp only [Stream.takeLine?, cutLine?_eq_none isLine.feed_not_mem, if_neg short, if_pos]
  have someBytes : asciiBytes line ≠ [] := by
    simpa [asciiBytes] using nonempty
  have isRead := @readHeaders_line headers _ _ _ _ taken someBytes
    (lineText_asciiBytes isLine.ascii 0)
  rw [readHeaders_nothing] at isRead
  exact isRead

section

variable {digits : List Char} {cut : Nat}

/-- The end of a stream inside the header line is taken for the end of the connection. -/
theorem readHeaders_cut_lengthLine
    (isLine : IsLine (lengthLine digits))
    (cut : Nat) :
    readHeaders [] ⟨asciiBytes ((lengthLine digits).take cut), true⟩ =
      .finished (.error .closed) ⟨[], true⟩ := by
  cases cut with
  | zero =>
      exact readHeaders_nothing []
  | succ more =>
      have notBlank : trim ((lengthLine digits).take (more + 1)) ≠ [] :=
        trim_cons_ne_nil (by decide) _
      have nonempty : (lengthLine digits).take (more + 1) ≠ [] := by
        simp [lengthLine, lengthLabel]
      rw [readHeaders_last_line (isLine.take _) nonempty, if_neg notBlank]

/-- The end of a stream behind the header line or inside the body is no message. -/
theorem readHeaders_cut_body
    {headers : Headers}
    {length : Nat}
    (announced : announcedLength headers = .ok length)
    (positive : 0 < length)
    {body : List UInt8}
    (size : body.length = length)
    (short : cut < length + 2) :
    ∃ fault, readHeaders headers ⟨(lineBytes ['\r'] ++ body).take cut, true⟩ =
        .finished (.error fault) ⟨[], true⟩ ∧
      fault.isProtocolError := by
  have isLine : IsLine ['\r'] := isLine_of_length_lt (by decide) (by decide) (by decide)
  have blank : trim ['\r'] = [] := by
    decide
  match cut with
  | 0 =>
      exact ⟨.closed, readHeaders_nothing _, rfl⟩
  | 1 =>
      -- A lone carriage return at the end of the stream is a blank line.
      refine ⟨.truncated, ?_, rfl⟩
      have isRead := @readHeaders_last_line headers _ isLine (by decide)
      rw [if_pos blank, announced] at isRead
      exact isRead.trans (readBody_truncated positive)
  | read + 2 =>
      have few : (body.take read).length < length := by
        rw [List.length_take]
        omega
      refine ⟨.truncated, ?_, rfl⟩
      have isRead := @readHeaders_lineBytes _ headers isLine (body.take read) true
      rw [if_pos blank, announced] at isRead
      exact isRead.trans (readBody_truncated few)

/-- A text behind its length that is cut off is not read, and the connection counts as closed. -/
theorem read_cut_plainFrame
    {text : List Char}
    (areDigits : IsDigits digits)
    (few : digits.length ≤ maxDigits)
    (isLength : (Utf8.encode text).length = decimalValue digits)
    (positive : 0 < decimalValue digits)
    (short : cut < (plainFrame digits text).length) :
    ∃ fault, read .initial ⟨(plainFrame digits text).take cut, true⟩ =
        .finished (.error fault) ⟨[], true⟩ ∧
      fault.isProtocolError := by
  have block := isBlock_lengthLine areDigits (few.trans_lt (by decide))
  have isLine := block.areLines _ List.mem_cons_self
  have notBlank := block.notBlank _ List.mem_cons_self
  have announced := announcedLength_of_lastGives (lastGives_lengthLine areDigits) block.areLines
    (.unsigned (.ofDigits areDigits few))
  have isFeed : lineBytes (lengthLine digits) = asciiBytes (lengthLine digits) ++ [10] :=
    asciiBytes_append _ ['\n']
  have isFrame : plainFrame digits text =
      lineBytes (lengthLine digits) ++ (lineBytes ['\r'] ++ Utf8.encode text) := by
    rw [plainFrame, blockBytes, List.flatMap_singleton, List.append_assoc]
  rw [isFrame] at short ⊢
  by_cases inLine : cut ≤ (asciiBytes (lengthLine digits)).length
  · refine ⟨.closed, ?_, rfl⟩
    rw [isFeed, List.append_assoc, List.take_append_of_le_length inLine, asciiBytes,
      ← List.map_take]
    exact readHeaders_cut_lengthLine isLine cut
  · have lineSize : (lineBytes (lengthLine digits)).length =
        (asciiBytes (lengthLine digits)).length + 1 := by
      rw [isFeed, List.length_append, List.length_singleton]
    have blankSize : (lineBytes ['\r']).length = 2 := rfl
    obtain ⟨more, rfl⟩ : ∃ more, cut = (lineBytes (lengthLine digits)).length + more :=
      ⟨cut - (lineBytes (lengthLine digits)).length, by omega⟩
    rw [List.length_append, List.length_append, isLength, blankSize] at short
    obtain ⟨fault, stopped, protocolError⟩ :=
      readHeaders_cut_body announced positive isLength (by omega : more < _)
    refine ⟨fault, ?_, protocolError⟩
    rw [List.take_length_add_append, ReadPhase.initial, read, readHeaders_lineBytes isLine,
      if_neg notBlank]
    exact stopped

/-- A frame that is cut off is no message, and the connection counts as closed. -/
theorem read_cut_frame
    {message : Json}
    {bytes : List UInt8}
    (plain : Plain message)
    (written : encode message = .ok bytes)
    (short : cut < bytes.length) :
    ∃ fault, read .initial ⟨bytes.take cut, true⟩ = .finished (.error fault) ⟨[], true⟩ ∧
      fault.isProtocolError := by
  obtain ⟨shallow, noLongInteger, small, rfl⟩ := encode_eq_ok written
  have positive : 0 < decimalValue (Nat.toDigits 10 message.compactChars.length) := by
    obtain ⟨first, others, text, _⟩ := (plain.spells noLongInteger shallow).head
    rw [decimalValue_toDigits, text]
    exact Nat.succ_pos _
  rw [frame_eq_plainFrame plain] at short ⊢
  exact read_cut_plainFrame (isDigits_toDigits _) (toDigits_length_le small)
    (decimalValue_length plain).symm positive short

end

/-! ## A row of frames that is cut off -/

/-- Messages are written one by one. -/
theorem mapM_encode_cons
    {message : Json}
    {messages : List Json}
    {frames : List (List UInt8)}
    (written : (message :: messages).mapM encode = .ok frames) :
    ∃ bytes others, encode message = .ok bytes ∧ messages.mapM encode = .ok others ∧
      frames = bytes :: others := by
  rw [List.mapM_cons] at written
  cases first : encode message with
  | error fault =>
      rw [first] at written
      cases written
  | ok bytes =>
      cases rest : messages.mapM encode with
      | error fault =>
          rw [first, rest] at written
          cases written
      | ok others =>
          rw [first, rest] at written
          exact ⟨bytes, others, rfl, rfl, (Except.ok.inj written).symm⟩

/-- The messages that are read from frames that are cut off are those whose frames are whole. -/
theorem reads_take
    {messages : List Json}
    {frames : List (List UInt8)}
    (plain : ∀ message ∈ messages, Plain message)
    (written : messages.mapM encode = .ok frames)
    (cut : Nat) :
    ∃ whole fault, ReadsUntil ⟨frames.flatten.take cut, true⟩ (messages.take whole) fault ∧
      fault.isProtocolError ∧ whole ≤ messages.length ∧
      ∀ place < messages.length,
        place < whole ↔ (frames.take (place + 1)).flatten.length ≤ cut := by
  induction messages generalizing frames cut with
  | nil =>
      rw [List.mapM_nil] at written
      cases written
      have closed : read .initial ⟨[], true⟩ = .finished (.error .closed) ⟨[], true⟩ :=
        readHeaders_nothing []
      refine ⟨0, .closed, ?_, rfl, Nat.le_refl 0,
        fun place inside => absurd inside (Nat.not_lt_zero place)⟩
      rw [List.flatten_nil, List.take_nil]
      exact .stop closed
  | cons message others inductionHypothesis =>
      obtain ⟨bytes, rest, firstWritten, othersWritten, rfl⟩ := mapM_encode_cons written
      obtain ⟨firstPlain, othersPlain⟩ := List.forall_mem_cons.mp plain
      by_cases fits : bytes.length ≤ cut
      · -- The first frame is whole: it is read, and the rest is cut off behind it.
        obtain ⟨more, rfl⟩ : ∃ more, cut = bytes.length + more := ⟨cut - bytes.length, by omega⟩
        obtain ⟨whole, fault, reads, protocolError, bounded, places⟩ :=
          inductionHypothesis othersPlain othersWritten more
        have firstRead := (isFrame_of_encode firstPlain firstWritten).read (rest.flatten.take more)
          true
        refine ⟨whole + 1, fault, ?_, protocolError, Nat.succ_le_succ bounded, ?_⟩
        · rw [List.flatten_cons, List.take_length_add_append, List.take_succ_cons]
          exact .next firstRead reads
        · intro place inside
          cases place with
          | zero =>
              simp
          | succ place =>
              have placeInside : place < others.length := Nat.lt_of_succ_lt_succ inside
              have restPlace := places place placeInside
              rw [List.take_succ_cons, List.flatten_cons, List.length_append]
              omega
      · -- The first frame is cut off: nothing is read.
        obtain ⟨fault, stopped, protocolError⟩ :=
          read_cut_frame firstPlain firstWritten (Nat.not_le.mp fits)
        refine ⟨0, fault, ?_, protocolError, Nat.zero_le _, ?_⟩
        · rw [List.flatten_cons, List.take_append_of_le_length (Nat.le_of_not_le fits)]
          exact .stop stopped
        · intro place inside
          rw [List.take_succ_cons, List.flatten_cons, List.length_append]
          omega

/-- Messages that are written in a row are read back from the first bytes of the row, however many
these are: exactly those come whose frames lie within these bytes, each as it was written, and then
the connection counts as closed. -/
theorem readAll_cut_frames
    {messages : List Json}
    {frames : List (List UInt8)}
    (plain : ∀ message ∈ messages, Plain message)
    (written : messages.mapM encode = .ok frames)
    (cut : Nat) :
    ∃ whole fault,
      readAll (frames.flatten.take cut) = (messages.take whole, fault) ∧
        ReadsUntil ⟨frames.flatten.take cut, true⟩ (messages.take whole) fault ∧
        fault.isProtocolError ∧ whole ≤ messages.length ∧
        ∀ place < messages.length,
          place < whole ↔ (frames.take (place + 1)).flatten.length ≤ cut := by
  obtain ⟨whole, fault, reads, protocolError, bounded, places⟩ := reads_take plain written cut
  obtain ⟨sameMessages, sameFault⟩ := (reads_readAll _).unique reads
  exact ⟨whole, fault, Prod.ext sameMessages sameFault, reads, protocolError, bounded, places⟩

/-- An answer with text outside ASCII and an answer without a result. -/
def answers : List Json := [
  .obj [("id", .int 1), ("result", .arr [.str "Länge:\r\n😀", .bool true])],
  .obj [("id", .int (-2)), ("result", .null)]]

/-- The second of two answers is cut off inside its body. -/
theorem readAll_cut_answers :
    (∀ answer ∈ answers, Plain answer) ∧ answers.mapM encode = .ok (answers.map frame) ∧
      ∃ whole fault,
        readAll ((answers.map frame).flatten.take 120) = (answers.take whole, fault) ∧
          ReadsUntil ⟨(answers.map frame).flatten.take 120, true⟩ (answers.take whole) fault ∧
          fault.isProtocolError ∧ whole ≤ answers.length ∧
          ∀ place < answers.length,
            place < whole ↔ ((answers.map frame).take (place + 1)).flatten.length ≤ 120 := by
  have result : Plain (.arr [.str "Länge:\r\n😀", .bool true]) :=
    .arr (by simp [Plain.str, Plain.bool])
  have plain : ∀ answer ∈ answers, Plain answer := by
    simp only [answers, List.forall_mem_cons, List.not_mem_nil, false_implies, implies_true,
      and_true]
    refine ⟨.obj (by decide) ?_, .obj (by decide) ?_⟩
    · simp [Plain.int, result]
    · simp [Plain.int, Plain.null]
  have written : answers.mapM encode = .ok (answers.map frame) := by
    decide +kernel
  exact ⟨plain, written, readAll_cut_frames plain written 120⟩

end AnalyzerSessions.Wire
