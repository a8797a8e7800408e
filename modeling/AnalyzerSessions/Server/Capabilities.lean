import AnalyzerSessions.Config.Tree

namespace AnalyzerSessions.Capabilities

/-!
# Client capabilities

What an editor can do, as it is told to a server: the general capabilities, and
the extensions that the Rust language server understands.
-/

/-- An object with named fields. -/
def object (fields : List (String × Json)) : Json := .obj fields

/-- A list of strings. -/
def strings (items : List String) : Json := .arr (items.map Json.str)

/-- The natural numbers from one up to a given one. -/
def upTo (last : Nat) : Json := .arr ((List.range last).map fun index => Json.nat (index + 1))

/-- A capability that cannot be registered later. -/
def static (fields : List (String × Json)) : Json :=
  .obj (("dynamicRegistration", .bool false) :: fields)

/-- Capabilities about the session as a whole. -/
def general : Json := object [("positionEncodings", strings ["utf-16"])]

/-- Capabilities about the editor's window. -/
def window : Json := object [
  ("workDoneProgress", .bool true),
  ("showMessage",
    object [("messageActionItem", object [("additionalPropertiesSupport", .bool false)])])]

/-- Capabilities about the workspace. -/
def workspace : Json := object [
  ("applyEdit", .bool true),
  ("workspaceEdit",
    object [("documentChanges", .bool true), ("resourceOperations", .arr [])]),
  ("configuration", .bool true),
  ("workspaceFolders", .bool true),
  ("didChangeWatchedFiles", static []),
  ("symbol", static [("symbolKind", object [("valueSet", upTo 26)])]),
  ("executeCommand", static []),
  ("semanticTokens", object [("refreshSupport", .bool true)])]

/-- Capabilities about completion. -/
def completion : Json := static [
  ("contextSupport", .bool false),
  ("completionItem", object [
    ("snippetSupport", .bool false),
    ("commitCharactersSupport", .bool false),
    ("preselectSupport", .bool false),
    ("deprecatedSupport", .bool false),
    ("documentationFormat", strings ["markdown", "plaintext"])]),
  ("completionItemKind", object [("valueSet", upTo 25)])]

/-- Capabilities about code actions. -/
def codeAction : Json := static [
  ("codeActionLiteralSupport", object [
    ("codeActionKind", object [
      ("valueSet", strings ["", "quickfix", "refactor", "refactor.extract", "refactor.inline",
        "refactor.rewrite", "source", "source.organizeImports"])])]),
  ("isPreferredSupport", .bool true),
  ("resolveSupport", object [("properties", strings ["edit"])])]

/-- Capabilities about semantic tokens. -/
def semanticTokens : Json := static [
  ("requests", object [("range", .bool false), ("full", object [("delta", .bool true)])]),
  ("tokenTypes", .arr []),
  ("tokenModifiers", .arr []),
  ("formats", strings ["relative"]),
  ("augmentsSyntaxTokens", .bool true),
  ("multilineTokenSupport", .bool false),
  ("overlappingTokenSupport", .bool true)]

/-- Capabilities about documents. -/
def textDocument : Json := object [
  ("synchronization", static [("didSave", .bool true), ("willSave", .bool true)]),
  ("completion", completion),
  ("hover", static [("contentFormat", strings ["markdown", "plaintext"])]),
  ("signatureHelp", static [
    ("signatureInformation",
      object [("documentationFormat", strings ["markdown", "plaintext"])])]),
  ("definition", static [("linkSupport", .bool true)]),
  ("typeDefinition", static [("linkSupport", .bool true)]),
  ("implementation", static [("linkSupport", .bool true)]),
  ("references", static []),
  ("documentSymbol", static [
    ("symbolKind", object [("valueSet", upTo 26)]),
    ("hierarchicalDocumentSymbolSupport", .bool true)]),
  ("codeAction", codeAction),
  ("formatting", static []),
  ("rangeFormatting", static []),
  ("rename", static [("prepareSupport", .bool true)]),
  ("publishDiagnostics", object [("relatedInformation", .bool true)]),
  ("semanticTokens", semanticTokens),
  ("callHierarchy", static [])]

/-- The general capabilities. -/
def client : List (String × Json) := [
  ("general", general), ("window", window), ("workspace", workspace),
  ("textDocument", textDocument)]

/-- The commands that a server may ask the editor to run. -/
def clientCommands : List String := [
  "rust-analyzer.runSingle", "rust-analyzer.debugSingle", "rust-analyzer.showReferences",
  "rust-analyzer.gotoLocation", "editor.action.triggerParameterHints"]

/-- What the Rust language server is told beyond the general capabilities. -/
def extensions : List (String × Json) := [
  ("textDocument", object [
    ("completion", object [
      ("completionItem", object [
        ("snippetSupport", .bool true),
        ("resolveSupport",
          object [("properties", strings ["documentation", "detail", "additionalTextEdits"])])])]),
    ("semanticTokens", object [("augmentsSyntaxTokens", .bool false)])]),
  ("experimental", object [
    ("hoverActions", .bool true),
    ("hoverRange", .bool true),
    ("serverStatusNotification", .bool true),
    ("snippetTextEdit", .bool true),
    ("codeActionGroup", .bool true),
    ("ssr", .bool true),
    ("commands", object [("commands", strings clientCommands)])])]

/-- The general capabilities with the extensions merged in. -/
def rustAnalyzer : Config.Entries Json :=
  Config.mergeInto (Config.ofFields client) (Config.ofFields extensions)

/-- The written form of merged capabilities. -/
def toJson (entries : Config.Entries Json) : Json :=
  .obj (Config.toFields id entries)

end AnalyzerSessions.Capabilities
