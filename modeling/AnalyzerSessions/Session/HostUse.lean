import AnalyzerSessions.Session.Desk

namespace AnalyzerSessions.Act

/-!
# Using the host

What an editor does with its host itself, beside what sessions do with it.
-/

/-- Put the result of a change of the host in place of the host. -/
def changeHost {α : Type} (change : Host Action → Except CommandFault (α × Host Action)) :
    Act α := do
  let (value, host) ← ofExcept .command (change (← get).host)
  setHost host
  return value

/-- Create a command. -/
def createCommand (command : UserCommand Action) : Act Unit :=
  changeHost fun host => .ok ((), host.createCommand command)

/-- Delete a command. -/
def deleteCommand (name : String) : Act Unit :=
  changeHost fun host => (host.deleteCommand name).map fun changed => ((), changed)

/-- The group with a name, created if it is not there; with `clear` its auto-commands go. -/
def createGroup (name : String) (clear : Bool) : Act Int :=
  changeHost fun host => .ok (host.createGroup name clear)

/-- Create an auto-command in a group. -/
def createAutoCommand (event pattern : String) (action : Action) (group : Int) : Act Int :=
  changeHost fun host => host.createAutoCommand event pattern action group

/-- Delete a group with its auto-commands. -/
def deleteGroup (group : Int) : Act Unit :=
  changeHost fun host => (host.deleteGroup group).map fun changed => ((), changed)

/-- Make a buffer current. -/
def setCurrent (number : Int) : Act Unit :=
  changeHost fun host => (host.setCurrent number).map fun changed => ((), changed)

/-- The text of a buffer. -/
def bufferText (number : Int) : Act String := do
  return (← buffer number).text

/-- Let a listener be told about the beginning of a session. -/
def addInitListener (id : Nat) (listener : Listener) : Act Unit :=
  modifySession id fun session =>
    { session with initListeners := session.initListeners ++ [listener] }

/-- Let a listener be told about the end of a session. -/
def addExitListener (id : Nat) (listener : Listener) : Act Unit :=
  modifySession id fun session =>
    { session with exitListeners := session.exitListeners ++ [listener] }

/-- Set the encoding in which positions of a session are counted. -/
def setEncoding (id : Nat) (encoding : Json) : Act Unit :=
  modifySession id fun session => { session with offsetEncoding := encoding }

/-- Give a session a connection with prepared answers. -/
def connectPrepared (id : Nat) (responses : List (String × Json)) : Act Unit :=
  modifySession id fun session => { session with client := some (.prepared responses) }

end AnalyzerSessions.Act
