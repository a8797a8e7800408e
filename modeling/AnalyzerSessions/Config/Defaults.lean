import AnalyzerSessions.Config.Places
import AnalyzerSessions.Config.Tree
import AnalyzerSessions.Path.FileTree
import AnalyzerSessions.Toml.Document

namespace AnalyzerSessions.Config

open Text

/-!
# Configuration files

The configuration is that of the file, merged over the defaults.  A file that
does not exist changes nothing.
-/

mutual

/-- A value of a file as a tree; arrays are leaves. -/
def treeOfToml : Toml.Value → Tree Toml.Value
  | .table fields => .table (ofToml fields)
  | .text content => .leaf (.text content)
  | .integer value => .leaf (.integer value)
  | .decimal value => .leaf (.decimal value)
  | .truth value => .leaf (.truth value)
  | .moment shown => .leaf (.moment shown)
  | .array items => .leaf (.array items)

/-- The fields of a table of a file as entries. -/
def ofToml : Toml.Fields → Entries Toml.Value
  | [] => []
  | (name, value) :: rest => (name, treeOfToml value) :: ofToml rest

end

/-- The configuration without a file. -/
def defaults : Entries Toml.Value := ofToml [
  ("client", .table [("log_level", .text "info"), ("request_timeout", .integer 30)]),
  ("server", .table [("cmd", .array [.text "rust-analyzer"]), ("settings", .table []),
    ("init_options", .table [])]),
  ("tools", .table [("reload_workspace_from_cargo_toml", .truth true)]),
  ("probe", .table [("cargo", .text "cargo")]),
  ("workspace", .table [("require_root", .truth false)])]

/-- Why a configuration cannot be loaded. -/
inductive LoadFault where
  | noHome
  | file (error : FileError)
  | malformed (fault : Toml.Fault)
  deriving Repr, DecidableEq

/-- The message of a fault. -/
def LoadFault.message : LoadFault → String
  | .noHome => "Could not determine home directory."
  | .file error => error.message
  | .malformed .malformed => "Invalid configuration file"
  | .malformed .tooDeep => "The configuration file nests its values too deeply"
  | .malformed (.tooManyDigits count) =>
    "Exceeds the limit (4300 digits) for integer string conversion: value has " ++
      toString count ++ " digits; use sys.set_int_max_str_digits() to increase the limit"

/-- The entries of a configuration file. -/
def readFile (disk : Disk) (path : Path) : Except LoadFault (Entries Toml.Value) :=
  match disk.readBytes path with
  | .error error => .error (.file error)
  | .ok bytes =>
    match Utf8.decode bytes with
    | .error fault => .error (.file (.undecodable fault))
    | .ok chars => ((Toml.parse chars).map ofToml).mapError .malformed

/-- Load the configuration of a file. -/
def loadFrom (disk : Disk) (path : Path) : Except LoadFault (Entries Toml.Value) :=
  match disk.contains path with
  | .error error => .error (.file error)
  | .ok true => (readFile disk path).map (mergeInto defaults)
  | .ok false => .ok defaults

/-- Load the configuration of a given file, or of the usual one, with the leaves of a file. -/
def loadValues (disk : Disk) (environment : Environment) (path : Option Path) :
    Except LoadFault (Entries Toml.Value) :=
  match path with
  | some given => loadFrom disk given
  | none =>
    match environment.configFile? with
    | none => .error .noHome
    | some usual => loadFrom disk usual

/-- A configuration with the leaves of a file as one with JSON leaves. -/
def withJsonLeaves (entries : Entries Toml.Value) : Entries Json :=
  mapEntries Toml.Value.toJson entries

/-- Load the configuration of a given file, or of the usual one. -/
def load (disk : Disk) (environment : Environment) (path : Option Path) :
    Except LoadFault (Entries Json) :=
  (loadValues disk environment path).map withJsonLeaves

end AnalyzerSessions.Config
