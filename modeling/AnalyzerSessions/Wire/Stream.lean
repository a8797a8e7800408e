import AnalyzerSessions.Text.Class

namespace AnalyzerSessions.Wire

/-!
# Byte streams

The bytes that have arrived and are not yet read, and whether more may come.
Taking something from a stream that does not hold it yet gives no result, and
the reader waits.
-/

/-- The bytes that have arrived, and whether the stream has ended. -/
structure Stream where
  buffer : List UInt8
  ended : Bool
  deriving Repr, DecidableEq, Inhabited

/-- Why a line cannot be taken: it is longer than the limit, with or without an end in sight. -/
inductive LineFault where
  | tooLong
  | endless
  deriving Repr, DecidableEq

/-- The message of a fault. -/
def LineFault.message : LineFault → String
  | .tooLong => "Separator is found, but chunk is longer than limit"
  | .endless => "Separator is not found, and chunk exceed the limit"

namespace Stream

/-- A stream before its first byte. -/
def empty : Stream := ⟨[], false⟩

/-- Add bytes that have arrived. -/
def feed (stream : Stream) (bytes : List UInt8) : Stream :=
  { stream with buffer := stream.buffer ++ bytes }

/-- End a stream. -/
def finish (stream : Stream) : Stream :=
  { stream with ended := true }

/-- The number of bytes that a line may have. -/
def lineLimit : Nat := 65536

/-- The bytes up to and with the first line feed, and those after it. -/
def cutLine? : List UInt8 → Option (List UInt8 × List UInt8)
  | [] => none
  | byte :: rest =>
    if byte = 10 then some ([byte], rest)
    else (cutLine? rest).map fun parts => (byte :: parts.1, parts.2)

/--
Take a line with its line feed.  At the end of the stream what is left is a line
too, and an empty line says that nothing is left.
-/
def takeLine? (stream : Stream) : Option (Except LineFault (List UInt8) × Stream) :=
  match cutLine? stream.buffer with
  | some (line, rest) =>
    if lineLimit < line.length - 1 then some (.error .tooLong, { stream with buffer := rest })
    else some (.ok line, { stream with buffer := rest })
  | none =>
    if lineLimit < stream.buffer.length then some (.error .endless, { stream with buffer := [] })
    else if stream.ended then some (.ok stream.buffer, { stream with buffer := [] })
    else none

/-- Take a number of bytes; a stream that ends before them gives none and loses its rest. -/
def takeExactly? (stream : Stream) (count : Nat) : Option (Option (List UInt8) × Stream) :=
  if count ≤ stream.buffer.length then
    some (some (stream.buffer.take count), { stream with buffer := stream.buffer.drop count })
  else if stream.ended then some (none, { stream with buffer := [] })
  else none

/-- Take what has arrived, up to a number of bytes; nothing at the end of the stream. -/
def takeSome? (stream : Stream) (limit : Nat) : Option (List UInt8 × Stream) :=
  if stream.buffer.isEmpty && !stream.ended then none
  else some (stream.buffer.take limit, { stream with buffer := stream.buffer.drop limit })

/-- A line takes at least its line feed off the bytes. -/
theorem cutLine?_shorter {bytes line rest : List UInt8}
    (found : cutLine? bytes = some (line, rest)) : rest.length < bytes.length := by
  induction bytes generalizing line rest with
  | nil => simp [cutLine?] at found
  | cons byte tail inductionHypothesis =>
    simp only [cutLine?] at found
    split at found
    · simp only [Option.some.injEq, Prod.mk.injEq] at found
      rw [← found.2]
      exact Nat.lt_succ_self _
    · simp only [Option.map_eq_some_iff, Prod.mk.injEq] at found
      obtain ⟨⟨innerLine, innerRest⟩, inner, _, same⟩ := found
      have shorter := inductionHypothesis inner
      subst same
      simp only [List.length_cons]
      omega

/-- Taking a nonempty line leaves fewer bytes. -/
theorem takeLine?_shorter {stream after : Stream} {line : List UInt8}
    (taken : stream.takeLine? = some (.ok line, after)) (nonempty : line ≠ []) :
    after.buffer.length < stream.buffer.length := by
  unfold takeLine? at taken
  split at taken
  · rename_i cut rest found
    have shorter := cutLine?_shorter found
    split at taken
    · simp at taken
    · simp only [Option.some.injEq, Prod.mk.injEq, Except.ok.injEq] at taken
      rw [← taken.2]
      exact shorter
  · split at taken
    · simp at taken
    · split at taken
      · simp only [Option.some.injEq, Prod.mk.injEq, Except.ok.injEq] at taken
        obtain ⟨sameLine, sameStream⟩ := taken
        subst sameLine sameStream
        simpa using List.length_pos_iff.mpr nonempty
      · simp at taken

end Stream

end AnalyzerSessions.Wire
