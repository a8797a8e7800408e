import AnalyzerSessions.Schema.Basic

namespace AnalyzerSessions

open Schema

/-!
# Handshake messages

The parameters with which a client introduces itself and what a server answers.
-/

/-- The name and version of a server. -/
structure ServerInfo where
  name : String
  version : Option String
  deriving Repr, DecidableEq

/-- What a server answers: its capabilities, as it sent them, and who it is. -/
structure InitializeResult where
  capabilities : List (String × Json)
  serverInfo : Option ServerInfo
  deriving Repr, DecidableEq

/-- A folder that the client works in. -/
structure WorkspaceFolder where
  uri : String
  name : String
  deriving Repr, DecidableEq

/-- How a client introduces itself. -/
structure InitializeParams where
  processId : Option Int
  rootUri : Option String
  rootPath : Option String
  capabilities : Json
  workspaceFolders : Option (List WorkspaceFolder)
  initializationOptions : Option Json
  clientInfo : Option (List (String × String))
  deriving Repr, DecidableEq

namespace ServerInfo

/-- Read the name and version of a server. -/
def read : Reader ServerInfo :=
  model fun fields =>
    ServerInfo.mk <$> required fields "name" string
      <*> optional fields "version" none (nullable string)

/-- The written form of the name and version of a server. -/
def toJson (nulls : Nulls) (info : ServerInfo) : Json :=
  record nulls [("name", .str info.name), ("version", Json.ofOption .str info.version)]

end ServerInfo

namespace InitializeResult

/-- Read the answer of a server. -/
def read : Reader InitializeResult :=
  model fun fields =>
    InitializeResult.mk <$> optional fields "capabilities" [] (model .accepted)
      <*> optional fields "serverInfo" none (nullable ServerInfo.read)

/-- The written form of the answer of a server. -/
def toJson (nulls : Nulls) (result : InitializeResult) : Json :=
  record nulls [("capabilities", record nulls result.capabilities),
    ("serverInfo", Json.ofOption (ServerInfo.toJson nulls) result.serverInfo)]

end InitializeResult

namespace WorkspaceFolder

/-- Read a folder. -/
def read : Reader WorkspaceFolder :=
  model fun fields =>
    WorkspaceFolder.mk <$> required fields "uri" string <*> required fields "name" string

/-- The written form of a folder. -/
def toJson (folder : WorkspaceFolder) : Json :=
  .obj [("uri", .str folder.uri), ("name", .str folder.name)]

end WorkspaceFolder

namespace InitializeParams

/-- Read the parameters of a handshake. -/
def read : Reader InitializeParams :=
  model fun fields =>
    InitializeParams.mk <$> required fields "processId" (nullable integer)
      <*> required fields "rootUri" (nullable string)
      <*> optional fields "rootPath" none (nullable string)
      <*> required fields "capabilities" anyObject
      <*> optional fields "workspaceFolders" none (nullable (array WorkspaceFolder.read))
      <*> optional fields "initializationOptions" none (nullable anyObject)
      <*> optional fields "clientInfo" none (nullable (dictionary string))

/-- The written form of the parameters of a handshake. -/
def toJson (nulls : Nulls) (params : InitializeParams) : Json :=
  record nulls [
    ("processId", Json.ofOption .int params.processId),
    ("rootUri", Json.ofOption .str params.rootUri),
    ("rootPath", Json.ofOption .str params.rootPath),
    ("capabilities", params.capabilities),
    ("workspaceFolders",
      Json.ofOption (fun folders => .arr (folders.map WorkspaceFolder.toJson))
        params.workspaceFolders),
    ("initializationOptions", Json.ofOption id params.initializationOptions),
    ("clientInfo",
      Json.ofOption (fun info => .obj (info.map fun entry => (entry.1, .str entry.2)))
        params.clientInfo)]

end InitializeParams

end AnalyzerSessions
