import AnalyzerSessions.Text.Class

namespace AnalyzerSessions.Text.Utf8

/-!
# UTF-8

Encoding, strict decoding with the place and reason of the first fault, and
decoding that puts U+FFFD for every maximal faulty piece.  A faulty piece is the
longest beginning of a well-formed sequence, or one byte where there is none.
-/

/-- The bytes of one character. -/
def encodeChar (char : Char) : List UInt8 :=
  let code := char.toNat
  if code < 0x80 then [UInt8.ofNat code]
  else if code < 0x800 then
    [UInt8.ofNat (0xc0 + code / 64), UInt8.ofNat (0x80 + code % 64)]
  else if code < 0x10000 then
    [UInt8.ofNat (0xe0 + code / 4096), UInt8.ofNat (0x80 + code / 64 % 64),
      UInt8.ofNat (0x80 + code % 64)]
  else
    [UInt8.ofNat (0xf0 + code / 262144), UInt8.ofNat (0x80 + code / 4096 % 64),
      UInt8.ofNat (0x80 + code / 64 % 64), UInt8.ofNat (0x80 + code % 64)]

/-- The bytes of a text. -/
def encode (chars : List Char) : List UInt8 :=
  chars.flatMap encodeChar

/-- Why a byte sequence is no text. -/
inductive Reason where
  | invalidStart
  | invalidContinuation
  | unexpectedEnd
  deriving Repr, DecidableEq

/-- The usual words for a reason. -/
def Reason.text : Reason → String
  | .invalidStart => "invalid start byte"
  | .invalidContinuation => "invalid continuation byte"
  | .unexpectedEnd => "unexpected end of data"

/-- The first fault of a byte sequence: where it starts, how many bytes it has, and why. -/
structure Fault where
  start : Nat
  length : Nat
  firstByte : Nat
  reason : Reason
  deriving Repr, DecidableEq

/-- The message of a fault, with one byte shown in hexadecimal and more as a range. -/
def Fault.message (fault : Fault) : String :=
  if fault.length = 1 then
    "'utf-8' codec can't decode byte 0x" ++
      String.ofList [hexDigit (fault.firstByte / 16), hexDigit (fault.firstByte % 16)] ++
      " in position " ++ toString fault.start ++ ": " ++ fault.reason.text
  else
    "'utf-8' codec can't decode bytes in position " ++ toString fault.start ++ "-" ++
      toString (fault.start + fault.length - 1) ++ ": " ++ fault.reason.text

/-- What the beginning of a byte sequence is: one character, or a faulty piece. -/
inductive Piece where
  | char (char : Char) (length : Nat)
  | faulty (length : Nat) (reason : Reason)
  deriving Repr, DecidableEq

/-- A byte of the form `10xxxxxx`. -/
def isContinuation (byte : Nat) : Bool :=
  0x80 ≤ byte && byte < 0xc0

/-- The second bytes allowed after a lead byte of three or four byte sequences. -/
def secondAllowed (lead second : Nat) : Bool :=
  isContinuation second &&
    (if lead = 0xe0 then 0xa0 ≤ second
    else if lead = 0xed then second < 0xa0
    else if lead = 0xf0 then 0x90 ≤ second
    else if lead = 0xf4 then second < 0x90
    else true)

/-- Read the piece at the beginning of a nonempty byte sequence. -/
def piece (lead : Nat) (rest : List UInt8) : Piece :=
  if lead < 0x80 then .char (Char.ofNat lead) 1
  else if lead < 0xc2 then .faulty 1 .invalidStart
  else if lead < 0xe0 then
    match rest with
    | [] => .faulty 1 .unexpectedEnd
    | second :: _ =>
      if isContinuation second.toNat then
        .char (Char.ofNat ((lead - 0xc0) * 64 + (second.toNat - 0x80))) 2
      else .faulty 1 .invalidContinuation
  else if lead < 0xf0 then
    match rest with
    | [] => .faulty 1 .unexpectedEnd
    | second :: rest =>
      if secondAllowed lead second.toNat then
        match rest with
        | [] => .faulty 2 .unexpectedEnd
        | third :: _ =>
          if isContinuation third.toNat then
            .char (Char.ofNat ((lead - 0xe0) * 4096 + (second.toNat - 0x80) * 64 +
              (third.toNat - 0x80))) 3
          else .faulty 2 .invalidContinuation
      else .faulty 1 .invalidContinuation
  else if lead < 0xf5 then
    match rest with
    | [] => .faulty 1 .unexpectedEnd
    | second :: rest =>
      if secondAllowed lead second.toNat then
        match rest with
        | [] => .faulty 2 .unexpectedEnd
        | third :: rest =>
          if isContinuation third.toNat then
            match rest with
            | [] => .faulty 3 .unexpectedEnd
            | fourth :: _ =>
              if isContinuation fourth.toNat then
                .char (Char.ofNat ((lead - 0xf0) * 262144 + (second.toNat - 0x80) * 4096 +
                  (third.toNat - 0x80) * 64 + (fourth.toNat - 0x80))) 4
              else .faulty 3 .invalidContinuation
          else .faulty 2 .invalidContinuation
      else .faulty 1 .invalidContinuation
  else .faulty 1 .invalidStart

/-- Decode from a given position on, or report the first fault. -/
def decodeFrom (position : Nat) : List UInt8 → Except Fault (List Char)
  | [] => .ok []
  | lead :: rest =>
    match piece lead.toNat rest with
    | .char char length =>
      (decodeFrom (position + length) (rest.drop (length - 1))).map (char :: ·)
    | .faulty length reason => .error ⟨position, length, lead.toNat, reason⟩
  termination_by bytes => bytes.length
  decreasing_by simp only [List.length_cons, List.length_drop]; omega

/-- Decode a whole byte sequence, or report its first fault. -/
def decode (bytes : List UInt8) : Except Fault (List Char) :=
  decodeFrom 0 bytes

/-- Decode with U+FFFD in place of every faulty piece. -/
def decodeReplacing : List UInt8 → List Char
  | [] => []
  | lead :: rest =>
    match piece lead.toNat rest with
    | .char char length => char :: decodeReplacing (rest.drop (length - 1))
    | .faulty length _ => Char.ofNat 0xfffd :: decodeReplacing (rest.drop (length - 1))
  termination_by bytes => bytes.length
  decreasing_by all_goals simp only [List.length_cons, List.length_drop]; omega

end AnalyzerSessions.Text.Utf8
