import AnalyzerSessions.Json.Basic

namespace AnalyzerSessions.Config

/-!
# Configuration trees

A configuration is a tree of named entries whose leaves are anything but tables.
Merging two trees goes down where both have a table and otherwise takes the
entry of the second; entries keep the order of the first tree, and new ones
follow.
-/

/-- A tree with values at its leaves and named entries in its tables. -/
inductive Tree (α : Type) where
  | leaf (value : α)
  | table (entries : List (String × Tree α))
  deriving Repr, Inhabited

/-- The entries of a table. -/
abbrev Entries (α : Type) := List (String × Tree α)

variable {α : Type}

/-- The entry with a name. -/
def find? (name : String) : Entries α → Option (Tree α)
  | [] => none
  | (entry, tree) :: rest => if entry = name then some tree else find? name rest

/-- Give a name an entry: in its place if it is there, else at the end. -/
def insert (name : String) (tree : Tree α) : Entries α → Entries α
  | [] => [(name, tree)]
  | (entry, old) :: rest =>
    if entry = name then (entry, tree) :: rest else (entry, old) :: insert name tree rest

mutual

/-- Merge one entry into a table. -/
def mergeEntry (base : Entries α) (name : String) : Tree α → Entries α
  | .leaf value => insert name (.leaf value) base
  | .table added =>
    match find? name base with
    | some (.table inner) => insert name (.table (mergeInto inner added)) base
    | _ => insert name (.table added) base

/-- Merge entries into a table, one after the other. -/
def mergeInto (base : Entries α) : Entries α → Entries α
  | [] => base
  | (name, tree) :: rest => mergeInto (mergeEntry base name tree) rest

end

/-- Merge several tables into one; later ones win, absent ones change nothing. -/
def merge (base : Entries α) (overrides : List (Option (Entries α))) : Entries α :=
  overrides.foldl (fun merged override => mergeInto merged (override.getD [])) base

mutual

/-- How many tables stand inside each other in a tree. -/
def depth : Tree α → Nat
  | .leaf _ => 0
  | .table entries => depthOfEntries entries + 1

/-- How many tables stand inside each other below the entries of a table. -/
def depthOfEntries : Entries α → Nat
  | [] => 0
  | (_, tree) :: rest => max (depth tree) (depthOfEntries rest)

end

/-- How many tables may stand inside each other in what is merged.  It depends on the calls that are
open already: this is the limit for a merge that is called near the top. -/
def maxDepth : Nat := 490

/-- Merge several tables into one, unless tables stand too deep inside each other. -/
def merge? (base : Entries α) (overrides : List (Option (Entries α))) : Option (Entries α) :=
  if (some base :: overrides).any fun table => maxDepth ≤ depthOfEntries (table.getD []) then none
  else some (merge base overrides)

mutual

/-- A JSON value as a tree with JSON leaves. -/
def ofJson : Json → Tree Json
  | .obj fields => .table (ofFields fields)
  | .null => .leaf .null
  | .bool value => .leaf (.bool value)
  | .int value => .leaf (.int value)
  | .float value => .leaf (.float value)
  | .str text => .leaf (.str text)
  | .arr items => .leaf (.arr items)

/-- The fields of an object as entries. -/
def ofFields : List (String × Json) → Entries Json
  | [] => []
  | (name, value) :: rest => (name, ofJson value) :: ofFields rest

end

mutual

/-- Change the leaves of a tree. -/
def mapTree {β : Type} (change : α → β) : Tree α → Tree β
  | .leaf value => .leaf (change value)
  | .table entries => .table (mapEntries change entries)

/-- Change the leaves below the entries of a table. -/
def mapEntries {β : Type} (change : α → β) : Entries α → Entries β
  | [] => []
  | (name, tree) :: rest => (name, mapTree change tree) :: mapEntries change rest

end

mutual

/-- A tree as a JSON value, given what stands for a leaf. -/
def toJson (leaf : α → Json) : Tree α → Json
  | .leaf value => leaf value
  | .table entries => .obj (toFields leaf entries)

/-- The entries of a table as fields. -/
def toFields (leaf : α → Json) : Entries α → List (String × Json)
  | [] => []
  | (name, tree) :: rest => (name, toJson leaf tree) :: toFields leaf rest

end

end AnalyzerSessions.Config
