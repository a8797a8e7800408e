import AnalyzerSessions.Path.HostAddress
import AnalyzerSessions.Path.Resolution

namespace AnalyzerSessions.FileUri

open Text

/-!
# File URIs

The URI of a path has every byte outside letters, digits and `_.-~/:` escaped
with a percent sign.  Reading takes the path of a `file` URI, with its escapes
undone; the host, the query and the fragment are dropped.
-/

/-- Why a text is no file URI. -/
inductive Fault where
  | notFile (uri : String)
  | unbalancedBrackets
  | badHost (fault : HostAddress.Fault)
  | disguisedDelimiter (host : List Char)
  deriving Repr, DecidableEq

/-- The message of a fault. -/
def Fault.message : Fault → String
  | .notFile uri => "Not a file URI: " ++ uri
  | .unbalancedBrackets => "Invalid IPv6 URL"
  | .badHost fault => fault.message
  | .disguisedDelimiter host =>
    "netloc '" ++ String.ofList host ++ "' contains invalid characters under NFKC normalization"

/-- A byte that stands for itself in a URI. -/
def isPlain (byte : UInt8) : Bool :=
  let char := Char.ofNat byte.toNat
  isAsciiLetter char || isAsciiDigit char || char == '_' || char == '.' || char == '-' ||
    char == '~' || char == '/' || char == ':'

/-- A hexadecimal digit in upper case. -/
def upperHexDigit (value : Nat) : Char :=
  upperAscii (hexDigit value)

/-- One byte of a path inside a URI. -/
def escapeByte (byte : UInt8) : List Char :=
  if isPlain byte then [Char.ofNat byte.toNat]
  else ['%', upperHexDigit (byte.toNat / 16), upperHexDigit (byte.toNat % 16)]

/-- The escaped form of a text. -/
def escape (chars : List Char) : List Char :=
  (Utf8.encode chars).flatMap escapeByte

/-- The bytes of an ASCII text with its escapes undone; what is no escape stands for itself. -/
def unescapeBytes : List Char → List UInt8
  | '%' :: high :: low :: rest =>
    match hexValue? high, hexValue? low with
    | some highValue, some lowValue =>
      UInt8.ofNat (highValue * 16 + lowValue) :: unescapeBytes rest
    | _, _ => UInt8.ofNat 37 :: unescapeBytes (high :: low :: rest)
  | char :: rest => UInt8.ofNat char.toNat :: unescapeBytes rest
  | [] => []

/-- An ASCII character. -/
def isAscii (char : Char) : Bool :=
  char.toNat < 0x80

/--
Undo the escapes of a text.  Each run of ASCII characters is decoded by itself,
with U+FFFD for what is no text.
-/
def unescapeFrom : (run : List Char) → List Char → List Char
  | run, [] => Utf8.decodeReplacing (unescapeBytes run.reverse)
  | run, char :: rest =>
    if isAscii char then unescapeFrom (char :: run) rest
    else Utf8.decodeReplacing (unescapeBytes run.reverse) ++ char :: unescapeFrom [] rest

/-- Undo the escapes of a text. -/
def unescape (chars : List Char) : List Char :=
  unescapeFrom [] chars

/-- A control character or a blank, dropped at the front of a URI. -/
def isLeading (char : Char) : Bool :=
  char.toNat ≤ 0x20

/-- A tabulator or the end of a line, dropped everywhere in a URI. -/
def isDropped (char : Char) : Bool :=
  char == '\t' || char == '\r' || char == '\n'

/-- A character of a scheme. -/
def isSchemeChar (char : Char) : Bool :=
  isAsciiLetter char || isAsciiDigit char || char == '+' || char == '-' || char == '.'

/-- The scheme in lower case and the text after it; a text without one has an empty scheme. -/
def cutScheme (chars : List Char) : List Char × List Char :=
  match cutAt? ':' chars with
  | some (first :: scheme, rest) =>
    if isAsciiLetter first && scheme.all isSchemeChar then
      ((first :: scheme).map lowerAscii, rest)
    else ([], chars)
  | _ => ([], chars)

/-- A character that ends the host. -/
def endsHost (char : Char) : Bool :=
  char == '/' || char == '?' || char == '#'

/-- The host after two slashes and the text after it. -/
def cutHost (chars : List Char) : List Char × List Char :=
  match chars with
  | '/' :: '/' :: rest =>
    (rest.takeWhile fun char => !endsHost char, rest.dropWhile fun char => !endsHost char)
  | _ => ([], chars)

/-- The characters whose compatibility form holds one of `/`, `?`, `#`, `@` and `:`. -/
def delimiterForms : List Nat := [
  0x2047, 0x2048, 0x2049, 0x2100, 0x2101, 0x2105, 0x2106, 0x2a74, 0xfe13, 0xfe16, 0xfe55,
  0xfe56, 0xfe5f, 0xfe6b, 0xff03, 0xff0f, 0xff1a, 0xff1f, 0xff20]

/-- The host and the port behind the last `@`. -/
def withoutUser (host : List Char) : List Char :=
  (host.reverse.takeWhile (· != '@')).reverse

/-- The name of the host: what stands between brackets, with nothing before them and at most a
port behind them, or else what stands before the port. -/
def hostName? (address : List Char) : Option (List Char) :=
  match cutAt? '[' address with
  | some ([], behind) =>
    match cutAt? ']' behind with
    | some (name, []) => some name
    | some (name, ':' :: _) => some name
    | some _ => none
    | none => some behind
  | some _ => none
  | none => some (address.takeWhile (· != ':'))

/-- Check the brackets of a host; where there are any, its name has to be such an address. -/
def checkBrackets (host : List Char) : Except Fault Unit :=
  if host.contains '[' != host.contains ']' then .error .unbalancedBrackets
  else if host.contains '[' then
    match hostName? (withoutUser host) with
    | none => .error .unbalancedBrackets
    | some name => (HostAddress.check name).mapError .badHost
  else .ok ()

/-- Check that no character of a host is a delimiter in disguise. -/
def checkDelimiters (host : List Char) : Except Fault Unit :=
  if host.any fun char => delimiterForms.contains char.toNat then .error (.disguisedDelimiter host)
  else .ok ()

/-- The path part of a text after scheme and host. -/
def pathPart (chars : List Char) : List Char :=
  (chars.takeWhile (· != '#')).takeWhile (· != '?')

/-- The path of a file URI. -/
def toPath (uri : String) : Except Fault Path :=
  let kept := (uri.toList.dropWhile isLeading).filter fun char => !isDropped char
  let (scheme, afterScheme) := cutScheme kept
  let (host, afterHost) := cutHost afterScheme
  match checkBrackets host with
  | .error fault => .error fault
  | .ok () =>
    match checkDelimiters host with
    | .error fault => .error fault
    | .ok () =>
      if scheme = "file".toList then
        .ok (Path.ofText (String.ofList (unescape (pathPart afterHost))))
      else .error (.notFile uri)

/-- The URI of a place. -/
def ofPlace (path : Path) : String :=
  "file://" ++ String.ofList (escape path.text.toList)

/-- The URI of the place that a path leads to. -/
def ofPath (disk : Disk) (path : Path) : Except FileError String :=
  (disk.resolve path).map ofPlace

end AnalyzerSessions.FileUri
