import AnalyzerSessions.Text.Class
import AnalyzerSessions.Text.Quoted

namespace AnalyzerSessions.HostAddress

open Text

/-!
# Bracketed hosts

The host of a URI may be a number address between square brackets.  Only a
version 6 address, with an optional zone, or a tagged address of a later version
may stand there.
-/

/-- Why the text between brackets is no host. -/
inductive Fault where
  | badTag
  | versionFour
  | noAddress (host : List Char)
  deriving Repr, DecidableEq

/-- The message of a fault. -/
def Fault.message : Fault → String
  | .badTag => "IPvFuture address is invalid"
  | .versionFour => "An IPv4 address cannot be in brackets"
  | .noAddress host =>
    quoted (String.ofList host) ++ " does not appear to be an IPv4 or IPv6 address"

/-- The value of a run of ASCII digits. -/
def decimalValue (digits : List Char) : Nat :=
  digits.foldl (fun value digit => value * 10 + (digit.toNat - 48)) 0

/-- One of the four numbers of a version 4 address: below 256, without leading zeros. -/
def isOctet (part : List Char) : Bool :=
  part != [] && part.all isAsciiDigit && part.length ≤ 3 &&
    (part == ['0'] || part.head? != some '0')
    && decimalValue part ≤ 255

/-- Four numbers with points between them. -/
def isVersionFour (chars : List Char) : Bool :=
  let parts := splitOn '.' chars
  parts.length == 4 && parts.all isOctet

/-- One to four hexadecimal digits. -/
def isGroup (part : List Char) : Bool :=
  part != [] && part.length ≤ 4 && part.all fun char => (hexValue? char).isSome

/-- The groups of a version 6 address; a version 4 address at the end stands for two. -/
def groups? (chars : List Char) : Option (List (List Char)) :=
  let parts := splitOn ':' chars
  let last := parts.getLast?.getD []
  if parts.length < 3 then none
  else if last.contains '.' then
    if isVersionFour last then some (parts.dropLast ++ [['0'], ['0']]) else none
  else some parts

/-- The indices of empty groups other than the first and the last. -/
def innerGaps (groups : List (List Char)) : List Nat :=
  (List.range groups.length).filter fun index =>
    0 < index && index + 1 < groups.length && groups[index]? == some []

/-- Eight groups of digits, or fewer with one gap that stands for the missing zeros. -/
def areGroups (groups : List (List Char)) : Bool :=
  if 9 < groups.length then false
  else
    match innerGaps groups with
    | [] => groups.length == 8 && groups.all isGroup
    | [gap] =>
      let high := groups.take gap
      let low := groups.drop (gap + 1)
      let high := if high == [[]] then [] else high
      let low := if low == [[]] then [] else low
      high.length + low.length < 8 && high.all isGroup && low.all isGroup
    | _ => false

/-- A version 6 address, with an optional nonempty zone after a percent sign. -/
def isVersionSix (chars : List Char) : Bool :=
  let (address, zoneFits) :=
    match cutAt? '%' chars with
    | none => (chars, true)
    | some (address, zone) => (address, zone != [] && !zone.contains '%')
  zoneFits && ((groups? address).map areGroups).getD false

/-- A tag `v` with hexadecimal digits, a point and at least one more character. -/
def isTagged (chars : List Char) : Bool :=
  match chars with
  | 'v' :: rest =>
    let digits := rest.takeWhile fun char => (hexValue? char).isSome
    match rest.drop digits.length with
    | '.' :: _ :: _ => digits != []
    | _ => false
  | _ => false

/-- Check the text between brackets. -/
def check (host : List Char) : Except Fault Unit :=
  if host.head? = some 'v' then
    if isTagged host then .ok () else .error .badTag
  else if isVersionFour host then .error .versionFour
  else if isVersionSix host then .ok ()
  else .error (.noAddress host)

end AnalyzerSessions.HostAddress
