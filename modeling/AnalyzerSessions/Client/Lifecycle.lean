import AnalyzerSessions.Client.Reading
import AnalyzerSessions.Server.Handshake

namespace AnalyzerSessions.Move

/-!
# The life of a client

A client starts with the handshake.  It stops by asking the server to shut down
and to exit, by terminating it when it does not, and by killing it in the end.
When the server is gone the client is closed: whoever still waits for something
is told.
-/

/-! ## Start -/

/-- How a client introduces itself. -/
def introduction (processId : Int) (session : Session) (uri : Option String) :
    InitializeParams where
  processId := some processId
  rootUri := uri
  rootPath := session.root.map Path.text
  capabilities := session.capabilities
  workspaceFolders :=
    match session.root, uri with
    | some root, some uri => some [⟨uri, root.name⟩]
    | _, _ => none
  initializationOptions :=
    if session.initOptions.isPresent then some session.initOptions.toJson else none
  clientInfo := some [("name", "ferris")]

/-- The URI of the root of a session. -/
def rootUri (session : Session) : Move (Option String) := do
  match session.root with
  | none => return none
  | some root =>
    match FileUri.ofPath (← get).desk.disk root with
    | .ok uri => return some uri
    | .error error => throw (.file error)

/-- Read the introduction of a client; the keys of its options have to be texts. -/
def readIntroduction (options : Options) : Schema.Reader InitializeParams :=
  fun value => (InitializeParams.read value).withIssues (options.keyIssues "initializationOptions")

/-- Begin the handshake with the server; the capabilities and options have to be objects. -/
def greet (id : Nat) : Move Next := do
  let session ← session id
  let proposed := introduction (← get).processId session (← rootUri session)
  match Schema.check "InitializeParams" (readIntroduction session.initOptions)
      (proposed.toJson .kept) with
  | .error rejection => throw (.rejected rejection)
  | .ok params => into (request id "initialize" (params.toJson .dropped) .null) (.handshaken id)

/-- Change the files. -/
def changeDisk (change : Disk → Except FileError Disk) : Move Unit := do
  match change (← get).desk.disk with
  | .error error => throw (.file error)
  | .ok disk => modify fun station => { station with desk := { station.desk with disk } }

/-- Open the log file of a client, if it has one. -/
def openLog (session : Nat) : Move Unit := do
  match (← client session).logFile with
  | none => pure ()
  | some file =>
    changeDisk fun disk => disk.makeDirectories file.parent
    changeDisk fun disk => disk.appendText file ""
    modifyClient session fun client => { client with logIsOpen := true }

/-- Start a client: read what the server sends, and introduce the client. -/
def startClient (session : Nat) : Move Next := do
  let reader ← spawn (.readMessages session)
  modifyClient session fun client => { client with reader := some reader }
  if (((← get).clientProcess? session).bind ServerProcess.errors).isSome then
    openLog session
    let drain ← spawn (.drainErrors session)
    modifyClient session fun client => { client with drain := some drain }
  greet session

/-- The encoding that a server has chosen, or the one that was in use. -/
def chosenEncoding (answer : InitializeResult) (current : Json) : Json :=
  let chosen := (Json.lookup? "positionEncoding" answer.capabilities).getD .null
  if chosen.isTruthy then chosen else current

/-- The line about a server that has introduced itself. -/
def introducedLine (info : ServerInfo) : String :=
  "Initialized " ++ info.name ++ " " ++ info.version.getD ""

/-- Accept what the server answered to the handshake. -/
def acceptHandshake (session : Nat) (answer : Json) : Move Next := do
  match Schema.check "InitializeResult" InitializeResult.read (Act.presentParams answer) with
  | .error rejection => throw (.rejected rejection)
  | .ok result =>
    modifySession session fun current => { current with
      serverCapabilities := .obj result.capabilities
      offsetEncoding := chosenEncoding result current.offsetEncoding }
    let _ ← notify session "initialized" (.obj [])
    modifyClient session fun client => { client with isInitialized := true }
    match result.serverInfo with
    | some info => say .info (introducedLine info)
    | none => pure ()
    return Next.value (result.toJson .kept)

/-- Go on after the server's answer to the handshake. -/
def afterHandshake (session : Nat) : Outcome → Move Next
  | .ok (.json answer) => acceptHandshake session answer
  | .ok _ => acceptHandshake session .null
  | .error failure => return Next.fail failure

/-! ## Stop -/

/-- The seconds that each step of a stop may take. -/
def patience : Json := .float (Number.Binary64.ofDecimal false 5 0)

/-- Whether a failure of the shutdown is logged and does not end the stop. -/
def endsPolitely : Failure → Bool
  | .response _ _ _ => true
  | .brokenPipe => true
  | .timedOut => true
  | failure => isProtocolFailure failure

/-- End the stop of a client. -/
def endStop (session : Nat) (outcome : Outcome) : Move Next := do
  record (.stopped session outcome)
  return Next.give outcome

/-- Wait until the server has exited, and terminate it if it does not. -/
def awaitDeparture (session : Nat) : Move Next := do
  let client ← client session
  if ← serverHasExited session then endStop session .done
  else into (performWithin (.awaitExit client.process) patience) (.grace session)

/-- Stop a client. -/
def stopClient (session : Nat) : Move Next := do
  let client ← client session
  if client.isInitialized && !(← serverHasExited session) then
    into (performWithin (.request session "shutdown" .null .null) patience) (.shutDown session)
  else awaitDeparture session

/-- Ask the server to exit; a failure of that is told. -/
def askToExit (session : Nat) : Move (Option Failure) :=
  tryCatch (do let _ ← notify session "exit" .null; return none) fun failure => return some failure

/-- Go on with the stop after the shutdown, which may have failed. -/
def leaveShutdown (session : Nat) : Option Failure → Move Next
  | none => awaitDeparture session
  | some failure => do
    if endsPolitely failure then
      say .warning ("Error during shutdown: " ++ failure.message)
      awaitDeparture session
    else endStop session (.error failure)

/-- Go on after the answer to the shutdown request. -/
def afterShutdown (session : Nat) : Outcome → Move Next
  | .ok _ => do leaveShutdown session (← askToExit session)
  | .error failure => leaveShutdown session (some failure)

/-- Send a signal to the server of a client. -/
def signal (session : Nat) (sent : Signal) : Move Unit := do
  let client ← client session
  modify fun station => station.signal client.process sent

/-- Go on after the time in which the server should have exited by itself. -/
def afterGrace (session : Nat) : Outcome → Move Next
  | .ok _ => endStop session .done
  | .error .timedOut => do
    let client ← client session
    signal session .terminate
    into (performWithin (.awaitExit client.process) patience) (.lastGrace session)
  | .error failure => endStop session (.error failure)

/-- Go on after the time in which the server should have exited when it was terminated. -/
def afterLastGrace (session : Nat) : Outcome → Move Next
  | .ok _ => endStop session .done
  | .error .timedOut => do
    signal session .kill
    endStop session .done
  | .error failure => endStop session (.error failure)

/-! ## Close -/

/-- Let everyone go on who still waits for something from the server. -/
def dismiss (session : Nat) : Move Next := do
  failPending session .serverExited
  modifyClient session fun client => { client with pending := [] }
  modify fun station => station.raise (.quiescent session)
  record (.hungUp session none)
  return Next.done

/-- Cancel tasks one after the other, and wait for each to end. -/
def closeTasks (session : Nat) : List Nat → Move Next
  | [] => dismiss session
  | task :: rest => do
    if (← get).loop.isSettled task then closeTasks session rest
    else
      modifyLoop fun loop => loop.cancel task
      return (Next.await task).into (.closing session rest)

/-- Close a client. -/
def closeClient (session : Nat) : Move Next := do
  let client ← client session
  closeTasks session ([client.reader, client.drain].filterMap id)

/-- Go on after the end of a task that was cancelled. -/
def afterClosing (session : Nat) (rest : List Nat) : Outcome → Move Next
  | .ok _ => closeTasks session rest
  | .error .cancelled => closeTasks session rest
  | .error failure => return Next.fail failure

/-! ## Waiting for a quiet server -/

/-- The line about a server that did not become quiescent in time. -/
def notQuiescentLine (session : Session) : String :=
  "Timeout waiting for " ++ session.name ++ " to become quiescent"

/-- Wait for a limited time until the server has nothing left to do. -/
def awaitQuiescentFor (session : Nat) (limit : Limit) : Move Next := do
  if ((← get).flag (.quiescent session)).isSet then return Next.value (.bool true)
  else into (performFor (.awaitFlag (.quiescent session)) limit) (.becameQuiescent session)

/-- Wait within the limit that a value stands for until the server has nothing left to do. -/
def awaitQuiescent (session : Nat) (timeout : Json) : Move Next := do
  if ((← get).flag (.quiescent session)).isSet then return Next.value (.bool true)
  else into (performWithin (.awaitFlag (.quiescent session)) timeout) (.becameQuiescent session)

/-- Go on after waiting for a quiet server. -/
def afterQuiescent (id : Nat) : Outcome → Move Next
  | .ok _ => return Next.value (.bool true)
  | .error .timedOut => do
    say .warning (notQuiescentLine (← session id))
    return Next.value (.bool false)
  | .error failure => return Next.fail failure

end AnalyzerSessions.Move
