import AnalyzerSessions.Text.Class
import AnalyzerSessions.Text.Printable

namespace AnalyzerSessions.Text

/-!
# Quoted texts

The way a text stands in a log line: between single quotes, or between double
quotes when it holds a single quote and no double one, with everything that
cannot be printed escaped.
-/

/-- The lowest `count` hexadecimal digits of a number. -/
def hexDigits : (count : Nat) → Nat → List Char
  | 0, _ => []
  | count + 1, value => hexDigits count (value / 16) ++ [hexDigit (value % 16)]

/-- The quote around a text: a double one only to avoid escaping single ones. -/
def quoteFor (chars : List Char) : Char :=
  if chars.contains '\'' && !chars.contains '"' then '"' else '\''

/-- One character inside quotes of a given kind. -/
def quotedChar (around char : Char) : List Char :=
  if char = around || char = '\\' then ['\\', char]
  else if char = '\n' then ['\\', 'n']
  else if char = '\r' then ['\\', 'r']
  else if char = '\t' then ['\\', 't']
  else if isPrintable char then [char]
  else if char.toNat < 0x100 then '\\' :: 'x' :: hexDigits 2 char.toNat
  else if char.toNat < 0x10000 then '\\' :: 'u' :: hexDigits 4 char.toNat
  else '\\' :: 'U' :: hexDigits 8 char.toNat

/-- A text in quotes. -/
def quoted (text : String) : String :=
  let around := quoteFor text.toList
  String.ofList (around :: text.toList.flatMap (quotedChar around) ++ [around])

end AnalyzerSessions.Text
