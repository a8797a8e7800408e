import AnalyzerSessions.Proofs.StringEscapes
import AnalyzerSessions.Wire.Frame
import Mathlib.Data.List.TakeWhile

namespace AnalyzerSessions.Wire

open Json Text

/-!
# Reading messages

A reader takes lines off a stream up to a blank one, and then as many bytes as were announced.  It
reads message after message until one cannot be read, and of a stream that has ended it never waits
for more.
-/

/-! ## ASCII as bytes -/

/-- Texts in a row are written as bytes in a row. -/
theorem asciiBytes_append
    (first second : List Char) :
    asciiBytes (first ++ second) = asciiBytes first ++ asciiBytes second :=
  List.map_append

/-- A text has as many bytes as characters. -/
theorem length_asciiBytes (chars : List Char) : (asciiBytes chars).length = chars.length :=
  List.length_map _

/-- The byte of an ASCII character is its code. -/
theorem toNat_asciiByte
    {char : Char}
    (small : char.toNat < 128) :
    (UInt8.ofNat char.toNat).toNat = char.toNat := by
  rw [UInt8.toNat_ofNat']
  omega

/-- An ASCII text has the same bytes in UTF-8. -/
theorem encode_eq_asciiBytes
    {chars : List Char}
    (ascii : IsAscii chars) :
    Utf8.encode chars = asciiBytes chars := by
  induction chars with
  | nil =>
      rfl
  | cons char rest inductionHypothesis =>
      obtain ⟨small, restAscii⟩ := isAscii_cons.mp ascii
      have isByte : Utf8.encodeChar char = [UInt8.ofNat char.toNat] := if_pos small
      have restBytes := inductionHypothesis restAscii
      unfold Utf8.encode asciiBytes at restBytes ⊢
      rw [List.flatMap_cons, List.map_cons, isByte, restBytes]
      rfl

/-- A line of ASCII text is read from its bytes. -/
theorem lineText_asciiBytes
    {chars : List Char}
    (ascii : IsAscii chars)
    (position : Nat) :
    lineText position (asciiBytes chars) = .ok chars := by
  induction chars generalizing position with
  | nil =>
      rfl
  | cons char rest inductionHypothesis =>
      obtain ⟨small, restAscii⟩ := isAscii_cons.mp ascii
      have restRead := inductionHypothesis restAscii (position + 1)
      have smallByte : UInt8.ofNat char.toNat < 128 := by
        rw [UInt8.lt_iff_toNat_lt, toNat_asciiByte small]
        exact small
      unfold asciiBytes at restRead ⊢
      rw [List.map_cons, lineText, if_pos smallByte, restRead, toNat_asciiByte small,
        Char.ofNat_toNat]

/-! ## Lines -/

/-- A line ends at its first line feed. -/
theorem cutLine?_append
    {line : List UInt8}
    (noFeed : 10 ∉ line)
    (rest : List UInt8) :
    Stream.cutLine? (line ++ 10 :: rest) = some (line ++ [10], rest) := by
  induction line with
  | nil =>
      rfl
  | cons byte more inductionHypothesis =>
      rw [List.mem_cons, not_or] at noFeed
      rw [List.cons_append, Stream.cutLine?, if_neg (Ne.symm noFeed.1),
        inductionHypothesis noFeed.2]
      rfl

/-- Bytes without a line feed have no line. -/
theorem cutLine?_eq_none
    {bytes : List UInt8}
    (noFeed : 10 ∉ bytes) :
    Stream.cutLine? bytes = none := by
  induction bytes with
  | nil =>
      rfl
  | cons byte more inductionHypothesis =>
      rw [List.mem_cons, not_or] at noFeed
      rw [Stream.cutLine?, if_neg (Ne.symm noFeed.1), inductionHypothesis noFeed.2]
      rfl

/-- Something stands on a line that does not begin with a blank. -/
theorem trim_cons_ne_nil
    {first : Char}
    (kept : isBlank first = false)
    (rest : List Char) :
    trim (first :: rest) ≠ [] := by
  have front : (first :: rest).dropWhile isBlank = first :: rest := by
    rw [List.dropWhile_cons_of_neg (by simp [kept])]
  intro nothing
  rw [trim, trimBoth, front, List.reverse_eq_nil_iff, List.dropWhile_eq_nil_iff] at nothing
  have blank := nothing first (by simp)
  rw [kept] at blank
  cases blank

/-! ## Reading one message -/

/-- How reading goes on with a line that has been taken. -/
def afterLine
    (headers : Headers)
    (after : Stream) :
    Except LineFault (List UInt8) → Reading
  | .error fault => .finished (.error (.line fault)) after
  | .ok [] => .finished (.error .closed) after
  | .ok (byte :: line) =>
    match lineText 0 (byte :: line) with
    | .error fault => .finished (.error fault) after
    | .ok text =>
      if trim text = [] then
        match announcedLength headers with
        | .error fault => .finished (.error fault) after
        | .ok length => readBody length after
      else readHeaders (addLine headers (trim text)) after

/-- Headers are read line by line. -/
theorem readHeaders_of_takeLine?
    {headers : Headers}
    {stream after : Stream}
    {line : Except LineFault (List UInt8)}
    (taken : stream.takeLine? = some (line, after)) :
    readHeaders headers stream = afterLine headers after line := by
  rw [readHeaders]
  split
  · rename_i same
    rw [taken] at same
    cases same
  · rename_i same
    rw [taken] at same
    cases same
    rfl
  · rename_i same
    rw [taken] at same
    cases same
    rfl
  · rename_i same
    rw [taken] at same
    cases same
    rfl

/-- A line is a header, or it is blank and the body is read. -/
theorem readHeaders_line
    {headers : Headers}
    {stream after : Stream}
    {line : List UInt8}
    {text : List Char}
    (taken : stream.takeLine? = some (.ok line, after))
    (nonempty : line ≠ [])
    (lineRead : lineText 0 line = .ok text) :
    readHeaders headers stream =
      if trim text = [] then
        match announcedLength headers with
        | .error fault => .finished (.error fault) after
        | .ok length => readBody length after
      else readHeaders (addLine headers (trim text)) after := by
  rw [readHeaders_of_takeLine? taken]
  cases line with
  | nil =>
      exact (nonempty rfl).elim
  | cons byte more =>
      simp only [afterLine, lineRead]

/-- A stream without bytes is a connection that was closed. -/
theorem readHeaders_nothing (headers : Headers) :
    readHeaders headers ⟨[], true⟩ = .finished (.error .closed) ⟨[], true⟩ := by
  have taken : Stream.takeLine? ⟨[], true⟩ = some (.ok [], ⟨[], true⟩) := rfl
  rw [readHeaders_of_takeLine? taken, afterLine]

/-- A body is read from as many bytes as it has, and what follows them is left. -/
theorem readBody_append
    (body rest : List UInt8)
    (ended : Bool) :
    readBody body.length ⟨body ++ rest, ended⟩ = .finished (decodeBody body) ⟨rest, ended⟩ := by
  have inside : body.length ≤ (body ++ rest).length := by
    rw [List.length_append]
    omega
  simp only [readBody, Stream.takeExactly?, if_pos inside, List.take_left, List.drop_left]

/-- A body is not read when the stream ends before it. -/
theorem readBody_truncated
    {length : Nat}
    {bytes : List UInt8}
    (few : bytes.length < length) :
    readBody length ⟨bytes, true⟩ = .finished (.error .truncated) ⟨[], true⟩ := by
  simp only [readBody, Stream.takeExactly?, if_neg (Nat.not_le.mpr few), if_pos]

/-! ## Reading until a fault -/

/-- Messages are read one after the other until one cannot be read. -/
inductive ReadsUntil : Stream → List Json → FrameFault → Prop where
  | stop
      {stream after : Stream}
      {fault : FrameFault}
      (failed : read .initial stream = .finished (.error fault) after) :
      ReadsUntil stream [] fault
  | next
      {stream after : Stream}
      {message : Json}
      {messages : List Json}
      {fault : FrameFault}
      (succeeded : read .initial stream = .finished (.ok message) after)
      (later : ReadsUntil after messages fault) :
      ReadsUntil stream (message :: messages) fault

/-- What is read from a stream, and why it ends, is determined by the stream. -/
theorem ReadsUntil.unique
    {stream : Stream}
    {messages others : List Json}
    {fault otherFault : FrameFault}
    (reads : ReadsUntil stream messages fault)
    (alsoReadsUntil : ReadsUntil stream others otherFault) :
    messages = others ∧ fault = otherFault := by
  induction reads generalizing others with
  | stop failed =>
      cases alsoReadsUntil with
      | stop alsoFailed =>
          rw [failed] at alsoFailed
          cases alsoFailed
          exact ⟨rfl, rfl⟩
      | next succeeded later =>
          rw [failed] at succeeded
          cases succeeded
  | next succeeded later inductionHypothesis =>
      cases alsoReadsUntil with
      | stop failed =>
          rw [succeeded] at failed
          cases failed
      | next alsoSucceeded alsoLater =>
          rw [succeeded] at alsoSucceeded
          cases alsoSucceeded
          obtain ⟨sameMessages, sameFault⟩ := inductionHypothesis alsoLater
          exact ⟨congrArg _ sameMessages, sameFault⟩

/-- A body at the end of a stream is read without waiting, and adds no bytes. -/
theorem readBody_of_ended
    (length : Nat)
    (bytes : List UInt8) :
    ∃ result rest, readBody length ⟨bytes, true⟩ = .finished result ⟨rest, true⟩ ∧
      rest.length ≤ bytes.length := by
  unfold readBody Stream.takeExactly?
  split
  · rename_i taken
    split at taken
    · cases taken
    · cases taken
  · rename_i taken
    split at taken
    · cases taken
    · cases taken
      exact ⟨_, _, rfl, Nat.zero_le _⟩
  · rename_i taken
    split at taken
    · cases taken
      exact ⟨_, _, rfl, (List.drop_sublist length bytes).length_le⟩
    · cases taken

/-- A line at the end of a stream is taken without waiting. -/
theorem takeLine?_of_ended (bytes : List UInt8) :
    ∃ result rest, Stream.takeLine? ⟨bytes, true⟩ = some (result, ⟨rest, true⟩) := by
  unfold Stream.takeLine?
  split
  · split
    · exact ⟨_, _, rfl⟩
    · exact ⟨_, _, rfl⟩
  · split
    · exact ⟨_, _, rfl⟩
    · exact ⟨_, _, rfl⟩

/-- Headers at the end of a stream are read without waiting, and a message takes bytes. -/
theorem readHeaders_of_ended
    (headers : Headers)
    (bytes : List UInt8) :
    ∃ result rest, readHeaders headers ⟨bytes, true⟩ = .finished result ⟨rest, true⟩ ∧
      (result.isOk → rest.length < bytes.length) := by
  induction size : bytes.length using Nat.strongRecOn generalizing headers bytes with
  | ind size inductionHypothesis =>
      subst size
      obtain ⟨line, after, taken⟩ := takeLine?_of_ended bytes
      rw [readHeaders_of_takeLine? taken]
      cases line with
      | error fault =>
          exact ⟨_, _, rfl, fun succeeded => absurd succeeded Bool.false_ne_true⟩
      | ok line =>
          cases line with
          | nil =>
              exact ⟨_, _, rfl, fun succeeded => absurd succeeded Bool.false_ne_true⟩
          | cons byte more =>
              have shorter : after.length < bytes.length :=
                Stream.takeLine?_shorter taken (by simp)
              rw [afterLine]
              cases lineText 0 (byte :: more) with
              | error fault =>
                  exact ⟨_, _, rfl, fun succeeded => absurd succeeded Bool.false_ne_true⟩
              | ok text =>
                  by_cases blank : trim text = []
                  · simp only [if_pos blank]
                    cases announcedLength headers with
                    | error fault =>
                        exact ⟨_, _, rfl, fun succeeded => absurd succeeded Bool.false_ne_true⟩
                    | ok length =>
                        obtain ⟨result, rest, bodyRead, fewer⟩ := readBody_of_ended length after
                        exact ⟨result, rest, bodyRead, fun _ => by omega⟩
                  · simp only [if_neg blank]
                    obtain ⟨result, rest, othersRead, fewer⟩ :=
                      inductionHypothesis after.length shorter (addLine headers (trim text)) after
                        rfl
                    exact ⟨result, rest, othersRead, fun succeeded => by
                      have fewerThanAfter := fewer succeeded
                      omega⟩

/-- However the bytes of a stream that has ended look, messages are read from it until one cannot
be read: the reader never waits, and its bound on the number of messages is never reached. -/
theorem reads_readAll (bytes : List UInt8) :
    ReadsUntil ⟨bytes, true⟩ (readAll bytes).1 (readAll bytes).2 := by
  have enough : ∀ fuel, bytes.length < fuel →
      ReadsUntil ⟨bytes, true⟩ (readMessages fuel ⟨bytes, true⟩).1
        (readMessages fuel ⟨bytes, true⟩).2 := by
    intro fuel
    induction fuel generalizing bytes with
    | zero =>
        intro none
        omega
    | succ fuel inductionHypothesis =>
        intro some
        obtain ⟨result, rest, finished, fewer⟩ := readHeaders_of_ended [] bytes
        have firstRead : read .initial ⟨bytes, true⟩ = .finished result ⟨rest, true⟩ := finished
        rw [readMessages, firstRead]
        cases result with
        | error fault =>
            exact .stop firstRead
        | ok message =>
            have fewerLeft := fewer rfl
            exact .next firstRead (inductionHypothesis rest (by omega))
  exact enough (bytes.length + 1) (Nat.lt_succ_self _)

end AnalyzerSessions.Wire
