import AnalyzerSessions.Json.Printer

namespace AnalyzerSessions

/-!
# Tables with values as keys

A table that is given as a list of pairs may have keys that are no texts.  Keys
that are numbers or truth values are the same key if their numeric values are
equal.  Written as an object such a table has its keys as texts.
-/

/-- A table by its keys and values, in the order in which the keys were first given. -/
abbrev Keyed (α : Type) := List (Json × α)

/-- Whether two values are the same key. -/
def Json.sameKey (left right : Json) : Bool :=
  match left.rat?, right.rat? with
  | some leftNumber, some rightNumber => leftNumber == rightNumber
  | _, _ => left == right

/-- The text that a key has in an object. -/
def Json.keyText : Json → String
  | .str text => text
  | key => key.compact

namespace Keyed

/-- The value of a key. -/
def find? {α : Type} (key : Json) (table : Keyed α) : Option α :=
  (List.find? (fun entry => entry.1.sameKey key) table).map Prod.snd

/-- Give a key a value: in its place if it is there, else at the end. -/
def insert {α : Type} (key : Json) (value : α) : Keyed α → Keyed α
  | [] => [(key, value)]
  | (known, old) :: rest =>
    if known.sameKey key then (known, value) :: rest else (known, old) :: insert key value rest

/-- The entries whose keys are texts. -/
def named {α : Type} (table : Keyed α) : List (String × α) :=
  table.filterMap fun entry => entry.1.str?.map fun name => (name, entry.2)

/-- The first key that is no text. -/
def unnamed? {α : Type} (table : Keyed α) : Option Json :=
  (List.find? (fun entry => entry.1.str?.isNone) table).map Prod.fst

/-- The object that a table is written as; of keys with the same text the last one counts. -/
def toJson (table : Keyed Json) : Json :=
  Json.ofFields (table.map fun entry => (entry.1.keyText, entry.2))

end Keyed

end AnalyzerSessions
