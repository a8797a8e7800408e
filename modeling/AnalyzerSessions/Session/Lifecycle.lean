import AnalyzerSessions.Session.Editing
import AnalyzerSessions.Session.RootFinding
import AnalyzerSessions.Session.ServerSettings

namespace AnalyzerSessions.Act

open Config

/-!
# The life of a session

Starting joins the serving session of the same root or launches a new one.  The
transport reports when a server is initialized and when it has exited; a report
that comes at the wrong time or a second time changes nothing.  The commands on
the host belong to all sessions together, and the last one to leave takes them
away.
-/

/-- Call a listener; its failure is logged and otherwise ignored. -/
def tell (listener : Listener) (arguments : List Json) : Act Unit := do
  match listener with
  | .value value => say .error ("Lifecycle listener " ++ value.logText ++ " failed")
  | .supplied name failure =>
    observe (.called name arguments)
    if failure.isSome then say .error ("Lifecycle listener <listener " ++ name ++ "> failed")

/-- What a listener sees of a session: its number, its state, and whether commands are there. -/
def listenerView (id : Nat) : Act (List Json) := do
  let desk ← get
  let state := ((desk.registry.get? id).map fun session => session.state.name).getD ""
  return [.nat id, .str state, .bool (desk.host.hasCommand "RustRunnables")]

/-- Call listeners in order. -/
def tellAll (id : Nat) (more : List Json) : List Listener → Act Unit
  | [] => pure ()
  | listener :: rest => do
    let view ← listenerView id
    tell listener (view ++ more)
    tellAll id more rest

/-- The settings for a new server: those of the configuration, with others merged in unless tables
stand too deep inside each other. -/
def serverSettings (overrides : Entries Setting) : Act (Entries Setting) := do
  let config := (← get).setup.config
  let configured := (find? "server" config).getD (.table [])
  let server ← ofExcept .misuse (ServerSettings.given (mapTree .plain configured))
  match merge? server.named [some overrides] with
  | none => throw .tooDeep
  | some merged => return merged

/-- Whether a root has been asked for and is missing; a root that is there asks nothing. -/
def lacksRoot (root : Option Path) : Act Bool := do
  if root.isSome then return false
  let config := (← get).setup.config
  let required ←
    ofExcept .misuse (sectionEntry config "workspace" "require_root" (.bool false))
  return required.isTruthy

/-- A new session for a root, with the settings of its server read. -/
def newSession (server : Entries Setting) (root : Option Path) : Act Session := do
  let handlers ← ofExcept .misuse (ServerSettings.handlers server)
  let command ← ofExcept .misuse (ServerSettings.command server)
  let capabilities ← ofExcept .misuse (ServerSettings.capabilities server)
  let settings ← ofExcept .misuse (ServerSettings.options server "settings")
  let initOptions ← ofExcept .misuse (ServerSettings.options server "init_options")
  let initListeners ← ofExcept .misuse (ServerSettings.listeners server "on_init")
  let exitListeners ← ofExcept .misuse (ServerSettings.listeners server "on_exit")
  let id := (← get).nextSession
  modify fun desk => { desk with nextSession := id + 1 }
  return { Session.fresh id serverName root command with
    handlers, capabilities, settings, initOptions, initListeners, exitListeners }

/-- Register a session and log it. -/
def register (session : Session) : Act Unit := do
  let registry := (← get).registry
  modify fun desk => { desk with registry := registry.register session.id }
  if !registry.contains session.id then note (Registry.registeredRecord session)

/-- Take a session out of the registry and log it. -/
def unregister (session : Session) : Act Unit := do
  let registry := (← get).registry
  modify fun desk => { desk with registry := registry.unregister session.id }
  if registry.contains session.id then note (Registry.unregisteredRecord session)

/-- Enter a session that is starting. -/
def enlist (session : Session) : Act Unit := do
  modify fun desk => { desk with registry := desk.registry.add session }
  register session
  transition session.id .starting

/-- Launch a new session for a buffer. -/
def launch (server : Entries Setting) (root : Option Path) (number : Int) : Act Nat := do
  let fresh ← newSession server root
  let session := fresh.attach number
  enlist session
  let words ← joinWords session.command
  say .info ("Starting session " ++ toString session.id ++ ": " ++ words ++ " at " ++
    Session.rootText root)
  order (.launch session.id)
  return session.id

/-- Attach a buffer to a serving session. -/
def join (session : Session) (number : Int) : Act Nat := do
  modifySession session.id fun current => current.attach number
  say .info ("Attached buffer " ++ toString number ++ " to session " ++ toString session.id ++
    " at " ++ Session.rootText session.root)
  return session.id

/-- Start a session for a buffer and a root: join the one that serves the root, or launch one. -/
def startAt (server : Entries Setting) (root : Option Path) (number : Int) : Act Nat := do
  match (← get).registry.find? serverName root with
  | some session => join session number
  | none => launch server root number

/-- The root of a file, by a way to find roots; where there is no file there is no root. -/
def rootFor (resolve : Path → Act (Option Path)) (file : String) : Act (Option Path) :=
  if file.isEmpty then pure none else resolve (Path.ofText file)

/-- Start a session for a buffer, by a way to find roots; there is none when a root is required and
not found. -/
def startWith (resolve : Path → Act (Option Path)) (overrides : Entries Setting)
    (buffer : Option Int) : Act (Option Nat) := do
  let number ← chosenBuffer buffer
  let server ← serverSettings overrides
  let file ← bufferName number
  let root ← rootFor resolve file
  if ← lacksRoot root then
    say .warning ("Not starting " ++ serverName ++ ": no root found for " ++
      (if file.isEmpty then "buffer" else file))
    return none
  else return some (← startAt server root number)

/-- Start a session for a buffer. -/
def start (overrides : Entries Setting) (buffer : Option Int) : Act (Option Nat) :=
  startWith resolveRoot overrides buffer

/-- Stop a session unless it is being stopped. -/
def stopSession (session : Session) : Act Unit := do
  if session.state ≠ .stopping then
    say .info ("Stopping session " ++ toString session.id ++ " at " ++
      Session.rootText session.root)
    transition session.id .stopping
    order (.terminate session.id)

/-- Stop sessions in order. -/
def stopAll : List Session → Act Unit
  | [] => pure ()
  | session :: rest => do
    stopSession session
    stopAll rest

/-- Stop the sessions of a buffer. -/
def stop (buffer : Option Int) : Act (List Nat) := do
  let number ← chosenBuffer buffer
  let sessions := (← get).registry.active (some serverName) (some number)
  stopAll sessions
  return sessions.map Session.id

/-- The name of the auto-command group of a session. -/
def groupName (id : Nat) : String :=
  "FerrisAutoCmds" ++ toString id

/-- Put the commands of the catalog on the host. -/
def createCommands (bindings : List CommandBinding) : Act Unit :=
  modify fun desk => { desk with
    host := bindings.foldl (fun host binding =>
      host.createCommand ⟨binding.name, .leaf binding, binding.arity, binding.complete⟩) desk.host }

/-- Let the saving of a manifest reload the workspace of a session. -/
def createReload (id : Nat) : Act Unit := do
  let (group, grouped) := (← get).host.createGroup (groupName id) true
  setHost grouped
  let (_, host) ← ofExcept .command
    (grouped.createAutoCommand "BufWritePost" ("*/" ++ manifestName) (.reload id) group)
  setHost host
  modifySession id fun session => { session with group := some group }

/-- Put the commands of the manager on the host, and note that a session offers them. -/
def equip (id : Nat) : Act Unit := do
  let bindings := (← get).setup.bindings
  createCommands bindings
  modifySession id fun session =>
    { session with commands := bindings.map CommandBinding.name }

/-- Let the saving of a manifest reload the workspace of a session, if that is configured. -/
def offerReload (id : Nat) : Act Unit := do
  let reloads ← ofExcept .misuse
    (sectionEntry (← get).setup.config "tools" "reload_workspace_from_cargo_toml" (.bool true))
  if reloads.isTruthy then createReload id

/-- Let a session run, and tell its listeners. -/
def beginRunning (session : Session) : Act Unit := do
  transition session.id .initialized
  transition session.id .running
  say .info ("Session " ++ toString session.id ++ " running with " ++
    toString (← get).setup.bindings.length ++ " commands")
  tellAll session.id [] session.initListeners

/-- Take note that the server of a starting session is initialized. -/
def welcome (session : Session) : Act Unit := do
  let _ ← installTransform plainSnippets
  equip session.id
  offerReload session.id
  beginRunning session

/-- The transport reports that the server of a session is initialized. -/
def onInit (id : Nat) : Act Unit := do
  match (← get).registry.get? id with
  | none => pure ()
  | some session =>
    if session.state = .starting then welcome session
    else
      say .debug ("Session " ++ toString id ++ " initialized while " ++ session.state.name)

/-- Delete commands that are on the host. -/
def deleteCommands (names : List String) : Act Unit :=
  modify fun desk => { desk with
    host := names.foldl (fun host name => host.dropCommand name) desk.host }

/-- Delete the commands of a session, unless another session has commands. -/
def withdrawCommands (session : Session) : Act Unit := do
  let others := ((← get).registry.active (some serverName) none).filter fun other =>
    other.id != session.id && !other.commands.isEmpty
  if others.isEmpty then deleteCommands session.commands
  else
    say .debug ("Keeping commands for " ++ toString others.length ++ " other running sessions")

/-- Take the commands of a session away, if it has any. -/
def removeCommands (session : Session) : Act Unit := do
  if session.commands ≠ [] then
    withdrawCommands session
    modifySession session.id fun current => { current with commands := [] }

/-- Delete the auto-command group of a session; one that is gone already is no failure. -/
def removeGroup (session : Session) : Act Unit := do
  match session.group with
  | none => pure ()
  | some group =>
    match (← get).host.deleteGroup group with
    | .ok host => setHost host
    | .error fault => say .debug ("Auto-command group already gone: " ++ fault.message)
    modifySession session.id fun current => { current with group := none }

/-- Let a session stop that is not stopping. -/
def beginStopping (session : Session) : Act Unit := do
  if session.state ≠ .stopping then transition session.id .stopping

/-- Let a session end with an exit code, and take it out of the registry. -/
def conclude (session : Session) (code : Json) : Act Unit := do
  modifySession session.id fun current => { current with exitCode := code }
  beginStopping session
  transition session.id .stopped
  unregister session
  modifySession session.id fun current => { current with client := none }

/-- Take leave of a session whose server has exited. -/
def farewell (session : Session) (code : Json) : Act Unit := do
  let _ ← installTransform plainSnippets
  removeCommands session
  removeGroup session
  conclude session code
  say .info ("Session " ++ toString session.id ++ " exited with code " ++ code.messageText)
  tellAll session.id [code] session.exitListeners

/-- The transport reports that the server of a session has exited. -/
def onExit (id : Nat) (code : Json) : Act Unit := do
  match (← get).registry.get? id with
  | none => pure ()
  | some session => if session.state = .stopped then pure () else farewell session code

/-- Put the commands that start and stop sessions on the host. -/
def installEntryCommands : Act Unit :=
  modify fun desk => { desk with
    host := (desk.host.createCommand ⟨startCommand, .start, .none, none⟩).createCommand
      ⟨stopCommand, .stop, .none, none⟩ }

end AnalyzerSessions.Act
