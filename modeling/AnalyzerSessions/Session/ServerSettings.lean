import AnalyzerSessions.Session.Desk

namespace AnalyzerSessions.ServerSettings

open Config

/-!
# Settings of a server

The section of the configuration about the server, merged with what a start asks
for, is read here.  The values of a configuration file are not checked when it
is loaded, so every use says what it needs.
-/

/-- Whether a setting counts as present. -/
def isPresent : Config.Tree Setting → Bool
  | .table entries => !entries.isEmpty
  | .leaf (.plain value) => value.isTruthy
  | .leaf (.listeners listeners) => !listeners.isEmpty
  | .leaf _ => true

/-- The plain value that a leaf shows. -/
def plainLeaf : Setting → Json
  | .plain value => value
  | _ => .null

/-- A setting as a plain value. -/
def plain (tree : Config.Tree Setting) : Json :=
  Config.toJson plainLeaf tree

/-- The setting with a name, if it counts as present. -/
def present? (server : Entries Setting) (name : String) : Option (Config.Tree Setting) :=
  (find? name server).filter isPresent

/-- The two parts of an element of a list of pairs. -/
def pair? (index : Nat) : Json → Except Misuse (Json × Json)
  | .arr [first, second] => .ok (first, second)
  | .arr items => .error (.pairLength index items.length)
  | .str text =>
    match text.toList with
    | [first, second] => .ok (.str first.toString, .str second.toString)
    | chars => .error (.pairLength index chars.length)
  | .obj [(first, _), (second, _)] => .ok (.str first, .str second)
  | .obj fields => .error (.pairLength index fields.length)
  | _ => .error (.notAPair index)

/-- The table that a list of pairs adds to. -/
def addPairs (done : Keyed (Config.Tree Setting)) :
    (index : Nat) → List Json → Except Misuse (Keyed (Config.Tree Setting))
  | _, [] => .ok done
  | index, item :: rest =>
    match pair? index item with
    | .error misuse => .error misuse
    | .ok (.arr items, _) => .error (.unhashable (.arr items))
    | .ok (.obj fields, _) => .error (.unhashable (.obj fields))
    | .ok (key, value) =>
      addPairs (done.insert key (mapTree .plain (ofJson value))) (index + 1) rest

/-- The entries that a setting gives: those of a table, or a list of pairs. -/
def given : Config.Tree Setting → Except Misuse (Keyed (Config.Tree Setting))
  | .table entries => .ok (entries.map fun entry => (.str entry.1, entry.2))
  | .leaf (.plain (.arr items)) => addPairs [] 0 items
  | .leaf (.plain (.str text)) =>
    addPairs [] 0 (text.toList.map fun char => .str char.toString)
  | .leaf (.listeners listeners) =>
    if listeners.isEmpty then .ok [] else .error (.notAPair 0)
  | .leaf setting => .error (.notIterable (plainLeaf setting))

/-- The options that a setting stands for, empty when it is not there. -/
def options (server : Entries Setting) (name : String) : Except Misuse Options :=
  match present? server name with
  | none => .ok (.value (.obj []))
  | some tree => (given tree).map fun table =>
      .ofKeyed (table.map fun entry => (entry.1, plain entry.2))

/-- The items of a plain value that can be gone through. -/
def itemsOf : Json → Except Misuse (List Json)
  | .arr items => .ok items
  | .str text => .ok (text.toList.map fun char => .str char.toString)
  | .obj fields => .ok (fields.map fun field => .str field.1)
  | value => .error (.notIterable value)

/-- The command line of the server. -/
def command (server : Entries Setting) : Except Misuse (List Json) :=
  match present? server "cmd" with
  | none => .ok [.str serverName]
  | some (.leaf (.program command)) => itemsOf command
  | some tree => itemsOf (plain tree)

/-- The capabilities that the server is told, with those of the settings merged in. -/
def capabilities (server : Entries Setting) : Except Misuse Json :=
  match present? server "capabilities" with
  | none => .ok (Capabilities.toJson Capabilities.rustAnalyzer)
  | some (.table entries) =>
    .ok (.obj (toFields plainLeaf
      (mergeInto (mapEntries .plain Capabilities.rustAnalyzer) entries)))
  | some (.leaf setting) => .error (.noMember (plainLeaf setting) "items")

/-- A setting as the handler of a method. -/
def handlerOf : Config.Tree Setting → Handler
  | .leaf (.handler code) => .supplied code
  | tree => .value (plain tree)

/-- The handlers that every session has. -/
def standardHandlers : Keyed Handler := [
  (.str "experimental/serverStatus", .status), (.str "workspace/applyEdit", .applyEdit)]

/-- The handlers of a session: the standard ones and those of the settings. -/
def handlers (server : Entries Setting) : Except Misuse (Keyed Handler) :=
  match present? server "handlers" with
  | none => .ok standardHandlers
  | some tree =>
    (given tree).map fun table =>
      table.foldl (fun done entry => done.insert entry.1 (handlerOf entry.2)) standardHandlers

/-- The listeners that a setting names: one, a list, or none. -/
def listeners (server : Entries Setting) (name : String) : Except Misuse (List Listener) :=
  match find? name server with
  | none => .ok []
  | some (.leaf (.plain .null)) => .ok []
  | some (.leaf (.listener listener)) => .ok [listener]
  | some (.leaf (.listeners listeners)) => .ok listeners
  | some tree => (itemsOf (plain tree)).map fun items => items.map .value

end ServerSettings

/-- A section of the configuration; one that is not there is empty. -/
def Config.section (config : Config.Entries Json) (name : String) : Json :=
  match Config.find? name config with
  | none => .obj []
  | some tree => Config.toJson id tree

/-- An entry of a section, or a default; the section has to be a table. -/
def Config.sectionEntry (config : Config.Entries Json) (name entry : String) (default : Json) :
    Except Misuse Json :=
  match Config.section config name with
  | .obj fields => .ok ((Json.lookup? entry fields).getD default)
  | value => .error (.noMember value "get")

/-- How the build tool is run, as the configuration says. -/
def ProbeSettings.ofConfig (config : Config.Entries Json) : Except Misuse ProbeSettings :=
  match Config.sectionEntry config "probe" "cargo" (.str "cargo") with
  | .error misuse => .error misuse
  | .ok cargo =>
    (Config.sectionEntry config "probe" "timeout" .null).map fun timeout => ⟨cargo, timeout⟩

end AnalyzerSessions
