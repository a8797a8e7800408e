import AnalyzerSessions.Json.Parser
import AnalyzerSessions.Json.Printer
import AnalyzerSessions.Text.Utf8
import AnalyzerSessions.Wire.Stream

namespace AnalyzerSessions.Wire

open Text

/-!
# Message frames

A message is the text of a JSON value behind a header with its length in bytes.
Reading takes header lines up to a blank one, where the last length counts, and
then as many bytes as announced.
-/

/-- Why the next message cannot be read. -/
inductive FrameFault where
  | closed
  | missingLength
  | badLength (text : String)
  | truncated
  | negativeLength
  | line (fault : LineFault)
  | notAscii (byte position : Nat)
  | undecodable (fault : Utf8.Fault)
  | malformed (error : Json.ParseError)
  deriving Repr, DecidableEq

/-- Whether a fault is one of the framing itself, so that the connection is of no more use. -/
def FrameFault.isProtocolError : FrameFault → Bool
  | .closed => true
  | .missingLength => true
  | .badLength _ => true
  | .truncated => true
  | _ => false

/-- The message of a fault. -/
def FrameFault.message : FrameFault → String
  | .closed => "Connection closed"
  | .missingLength => "Missing Content-Length header"
  | .badLength text => "Invalid Content-Length: " ++ text
  | .truncated => "Connection closed mid-message"
  | .negativeLength => "readexactly size can not be less than zero"
  | .line fault => fault.message
  | .notAscii byte position =>
    "'ascii' codec can't decode byte 0x" ++
      String.ofList [hexDigit (byte / 16), hexDigit (byte % 16)] ++ " in position " ++
      toString position ++ ": ordinal not in range(128)"
  | .undecodable fault => fault.message
  | .malformed error => error.message

/-- The bytes of an ASCII text. -/
def asciiBytes (chars : List Char) : List UInt8 :=
  chars.map fun char => UInt8.ofNat char.toNat

/-- The header in front of a body of a given length. -/
def header (length : Nat) : List Char :=
  "Content-Length: ".toList ++ Nat.toDigits 10 length ++ ['\r', '\n', '\r', '\n']

/-- The frame of a message as text; a body is ASCII and has as many bytes as characters. -/
def frameText (message : Json) : List Char :=
  let body := message.compactChars
  header body.length ++ body

/-- The frame of a message. -/
def frame (message : Json) : List UInt8 :=
  asciiBytes (frameText message)

/-- The deepest nesting of arrays and objects in a message.  It depends on the calls that are open
when a message is read or written: this is the limit for one that is handled near the top. -/
def maxDepth : Nat := 970

/-- Why a message cannot be written: it is nested too deeply, or an integer in it or the length of
its body has more digits than are written. -/
inductive WriteFault where
  | tooDeep
  | longInteger
  deriving Repr, DecidableEq

/-- Write a message as a frame. -/
def encode (message : Json) : Except WriteFault (List UInt8) :=
  if maxDepth < message.depth then .error .tooDeep
  else if message.hasLongInteger || Nat.pow 10 Number.maxDigits ≤ message.compactChars.length then
    .error .longInteger
  else .ok (frame message)

/-- Header fields by name in lower case, the latest first. -/
abbrev Headers := List (String × List Char)

/-- The text of a header line, or the first byte that is not ASCII. -/
def lineText (position : Nat) : List UInt8 → Except FrameFault (List Char)
  | [] => .ok []
  | byte :: rest =>
    if byte < 128 then
      match lineText (position + 1) rest with
      | .ok chars => .ok (Char.ofNat byte.toNat :: chars)
      | .error fault => .error fault
    else .error (.notAscii byte.toNat position)

/-- Add a header line; one without a colon says nothing. -/
def addLine (headers : Headers) (line : List Char) : Headers :=
  match cutAt? ':' line with
  | none => headers
  | some (name, value) =>
    (String.ofList ((trim name).map lowerAscii), trim value) :: headers

/-- The last value of a header. -/
def headerValue? (headers : Headers) (name : String) : Option (List Char) :=
  (headers.find? fun header => header.1 == name).map Prod.snd

/-- The length that headers announce. -/
def announcedLength (headers : Headers) : Except FrameFault Nat :=
  match headerValue? headers "content-length" with
  | none => .error .missingLength
  | some text =>
    match Number.integer? text with
    | none => .error (.badLength (String.ofList text))
    | some length => if length < 0 then .error .negativeLength else .ok length.toNat

/-- The value of a body. -/
def decodeBody (bytes : List UInt8) : Except FrameFault Json :=
  match Utf8.decode bytes with
  | .error fault => .error (.undecodable fault)
  | .ok chars => (Json.parseWithin maxDepth chars).mapError .malformed

/-- What of a message has been read. -/
inductive ReadPhase where
  | headers (headers : Headers)
  | body (length : Nat)
  deriving Repr, DecidableEq

/-- The phase before a message. -/
def ReadPhase.initial : ReadPhase := .headers []

/-- How far a reader gets: it waits for bytes, or it is through with a message. -/
inductive Reading where
  | waiting (phase : ReadPhase) (stream : Stream)
  | finished (result : Except FrameFault Json) (stream : Stream)
  deriving Repr

/-- Read a body of a given length. -/
def readBody (length : Nat) (stream : Stream) : Reading :=
  match stream.takeExactly? length with
  | none => .waiting (.body length) stream
  | some (none, after) => .finished (.error .truncated) after
  | some (some bytes, after) => .finished (decodeBody bytes) after

/-- Read header lines up to a blank one, and the body after them. -/
def readHeaders (headers : Headers) (stream : Stream) : Reading :=
  match _taken : stream.takeLine? with
  | none => .waiting (.headers headers) stream
  | some (.error fault, after) => .finished (.error (.line fault)) after
  | some (.ok [], after) => .finished (.error .closed) after
  | some (.ok (byte :: line), after) =>
    match lineText 0 (byte :: line) with
    | .error fault => .finished (.error fault) after
    | .ok text =>
      if trim text = [] then
        match announcedLength headers with
        | .error fault => .finished (.error fault) after
        | .ok length => readBody length after
      else readHeaders (addLine headers (trim text)) after
  termination_by stream.buffer.length
  decreasing_by exact Stream.takeLine?_shorter _taken (by simp)

/-- Go on reading a message. -/
def read : ReadPhase → Stream → Reading
  | .headers headers, stream => readHeaders headers stream
  | .body length, stream => readBody length stream

/-- Read messages until one cannot be read; `fuel` bounds their number. -/
def readMessages : (fuel : Nat) → Stream → List Json × FrameFault
  | 0, _ => ([], .closed)
  | fuel + 1, stream =>
    match read .initial stream with
    | .waiting _ _ => ([], .closed)
    | .finished (.error fault) _ => ([], fault)
    | .finished (.ok message) after =>
      let (messages, fault) := readMessages fuel after
      (message :: messages, fault)

/-- The messages of a whole stream of bytes, and why there are no more. -/
def readAll (bytes : List UInt8) : List Json × FrameFault :=
  readMessages (bytes.length + 1) ⟨bytes, true⟩

end AnalyzerSessions.Wire
