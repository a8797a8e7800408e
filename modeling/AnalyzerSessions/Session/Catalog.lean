import AnalyzerSessions.Host.Basic
import AnalyzerSessions.Json.Basic
import AnalyzerSessions.Supplied

namespace AnalyzerSessions

/-!
# Command catalog

The editor commands that a running session offers.  A command names the leaf
action behind it; a few leaves are built in, the others are supplied by the
editor.
-/

/-- A command and the leaf action that it runs, with the arguments it puts in front. -/
structure CommandBinding where
  name : String
  leaf : String
  arity : Arity
  complete : Option String
  leafArguments : List Json
  deriving Repr, DecidableEq

namespace CommandBinding

/-- A command without arguments. -/
def plain (name leaf : String) : CommandBinding :=
  ⟨name, leaf, .none, none, []⟩

/-- The commands of a session in the order in which they are created. -/
def catalog : List CommandBinding := [
  plain "RustCodeAction" "code_action_group",
  ⟨"RustViewCrateGraph", "crate_graph", .any,
    some "customlist,v:lua.rust_tools_get_graphviz_backends", []⟩,
  plain "RustDebuggables" "debuggables",
  plain "RustExpandMacro" "expand_macro",
  plain "RustOpenExternalDocs" "external_docs",
  plain "RustHoverActions" "hover_actions",
  plain "RustHoverRange" "hover_range",
  plain "RustLastDebug" "last_debug",
  plain "RustLastRun" "last_run",
  plain "RustJoinLines" "join_lines",
  plain "RustMoveItemDown" "move_item",
  { plain "RustMoveItemUp" "move_item" with leafArguments := [.bool true] },
  plain "RustOpenCargo" "open_cargo_toml",
  plain "RustParentModule" "parent_module",
  plain "RustRunnables" "runnables",
  { plain "RustSSR" "ssr" with arity := .atMostOne },
  plain "RustReloadWorkspace" "workspace_refresh",
  plain "RustSyntaxTree" "syntax_tree",
  plain "RustFlyCheck" "fly_check"]

/-- Put a command in the place of the one with the same name, or at the end. -/
def put (bindings : List CommandBinding) (binding : CommandBinding) : List CommandBinding :=
  if bindings.any fun old => old.name == binding.name then
    bindings.map fun old => if old.name = binding.name then binding else old
  else bindings ++ [binding]

/-- The commands of a manager that is given some, one for each name; without any those of the
catalog. -/
def chosen (given : List CommandBinding) : List CommandBinding :=
  if given.isEmpty then catalog else given.foldl put []

end CommandBinding

/-- The command that starts a session. -/
def startCommand : String := "RustAnalyzerStart"

/-- The command that stops the sessions of a buffer. -/
def stopCommand : String := "RustAnalyzerStop"

/-- The leaf that makes a server read its workspace again. -/
def reloadLeaf : String := "workspace_refresh"

/-- What a leaf does. -/
inductive LeafAction where
  | reloadWorkspace
  | flyCheck
  | crateGraph
  | syntaxTree
  | openManifest
  | runnables
  | supplied (code : Code)

namespace LeafAction

/-- The built-in leaves by name. -/
def builtIn : List (String × LeafAction) := [
  (reloadLeaf, .reloadWorkspace), ("fly_check", .flyCheck), ("crate_graph", .crateGraph),
  ("syntax_tree", .syntaxTree), ("open_cargo_toml", .openManifest), ("runnables", .runnables)]

/-- Whether a leaf takes arguments after the session and the host. -/
def takesArguments : LeafAction → Bool
  | .crateGraph => true
  | .supplied _ => true
  | _ => false

end LeafAction

/-- The leaves that a manager knows: supplied ones go before the built-in ones. -/
def findLeaf? (supplied : List (String × Code)) (leaf : String) : Option LeafAction :=
  match supplied.find? fun entry => entry.1 == leaf with
  | some entry => some (.supplied entry.2)
  | none => (LeafAction.builtIn.find? fun entry => entry.1 == leaf).map Prod.snd

/-- What a command or an auto-command of the host runs. -/
inductive Action where
  | start
  | stop
  | leaf (binding : CommandBinding)
  /-- Reload the workspace of a session when its manifest is saved. -/
  | reload (session : Nat)
  | supplied (code : Code)

end AnalyzerSessions
