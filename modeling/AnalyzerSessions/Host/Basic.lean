import AnalyzerSessions.Edit.Splice
import AnalyzerSessions.Log
import AnalyzerSessions.Path.FileUri
import AnalyzerSessions.Text.Wildcard

namespace AnalyzerSessions

open Text

/-!
# Editor hosts

The part of an editor that sessions use: user commands, auto-commands in groups,
and buffers.  Groups, auto-commands and buffers take their numbers from one
counter.  What a command or an auto-command runs is of a type `Action` that the
host does not look into.
-/

/-- How many arguments a user command takes. -/
inductive Arity where
  | none
  | atMostOne
  | any
  /-- A mark that restricts nothing. -/
  | other (mark : String)
  deriving Repr, DecidableEq

/-- The mark of an arity. -/
def Arity.mark : Arity → String
  | .none => "0"
  | .atMostOne => "?"
  | .any => "*"
  | .other mark => mark

/-- The arity with a given mark. -/
def Arity.ofMark (mark : String) : Arity :=
  if mark = "0" then .none
  else if mark = "?" then .atMostOne
  else if mark = "*" then .any
  else .other mark

/-- Why the editor refuses something. -/
inductive CommandFault where
  | takesNone (name : String)
  | takesAtMostOne (name : String)
  | undefinedCommand (name : String)
  | notACommand (name : String)
  | badGroup (group : Int)
  | badBuffer (buffer : Int)
  | noFileName
  deriving Repr, DecidableEq

/-- The message of a refusal. -/
def CommandFault.message : CommandFault → String
  | .takesNone name => name ++ ": takes no arguments"
  | .takesAtMostOne name => name ++ ": takes at most one argument"
  | .undefinedCommand name => "No such user-defined command: " ++ name
  | .notACommand name => "Not an editor command: " ++ name
  | .badGroup group => "Invalid augroup: " ++ toString group
  | .badBuffer buffer => "Invalid buffer: " ++ toString buffer
  | .noFileName => "No file name"

/-- Whether a command of an arity may have a number of arguments. -/
def Arity.check (arity : Arity) (name : String) (arguments : Nat) : Except CommandFault Unit :=
  match arity with
  | .none => if 0 < arguments then .error (.takesNone name) else .ok ()
  | .atMostOne => if 1 < arguments then .error (.takesAtMostOne name) else .ok ()
  | _ => .ok ()

/-- A user command. -/
structure UserCommand (Action : Type) where
  name : String
  action : Action
  arity : Arity
  complete : Option String
  deriving Repr

/-- A group of auto-commands. -/
structure AutoGroup where
  id : Int
  name : String
  deriving Repr, DecidableEq

/-- An auto-command: what to run when an event happens to a file that fits a pattern. -/
structure AutoCommand (Action : Type) where
  id : Int
  event : String
  pattern : String
  action : Action
  group : Int
  deriving Repr

/-- A buffer; one without a file has an empty name. -/
structure Buffer where
  number : Int
  name : String
  text : String
  deriving Repr, DecidableEq

/-- The state of an editor host. -/
structure Host (Action : Type) where
  commands : List (UserCommand Action)
  groups : List AutoGroup
  autoCommands : List (AutoCommand Action)
  buffers : List Buffer
  /-- The next number for a group, an auto-command or a buffer. -/
  nextId : Int
  current : Option Int
  deriving Repr

namespace Host

variable {Action : Type}

/-- A host with nothing in it. -/
def empty : Host Action := ⟨[], [], [], [], 1, none⟩

/-- The command with a name. -/
def command? (host : Host Action) (name : String) : Option (UserCommand Action) :=
  host.commands.find? fun command => command.name == name

/-- Whether there is a command with a name. -/
def hasCommand (host : Host Action) (name : String) : Bool :=
  (host.command? name).isSome

/-- Put a command in the place of the one with the same name, or at the end. -/
def putCommand (command : UserCommand Action) :
    List (UserCommand Action) → List (UserCommand Action)
  | [] => [command]
  | old :: rest =>
    if old.name = command.name then command :: rest else old :: putCommand command rest

/-- Create a command, or change the one with the same name. -/
def createCommand (host : Host Action) (command : UserCommand Action) : Host Action :=
  { host with commands := putCommand command host.commands }

/-- Remove a command that may be there. -/
def dropCommand (host : Host Action) (name : String) : Host Action :=
  { host with commands := host.commands.filter fun command => command.name != name }

/-- Delete a command. -/
def deleteCommand (host : Host Action) (name : String) : Except CommandFault (Host Action) :=
  if host.hasCommand name then .ok (host.dropCommand name) else .error (.undefinedCommand name)

/-- What a command line runs, if the command exists and takes that many arguments. -/
def lookUp (host : Host Action) (name : String) (arguments : Nat) : Except CommandFault Action :=
  match host.command? name with
  | none => .error (.notACommand name)
  | some command => (command.arity.check name arguments).map fun _ => command.action

/-- The group with a name. -/
def groupNamed? (host : Host Action) (name : String) : Option AutoGroup :=
  host.groups.find? fun group => group.name == name

/-- Whether there is a group with a number. -/
def hasGroup (host : Host Action) (group : Int) : Bool :=
  host.groups.any fun known => known.id == group

/-- Remove the auto-commands of a group. -/
def clearGroup (host : Host Action) (group : Int) : Host Action :=
  { host with autoCommands := host.autoCommands.filter fun command => command.group != group }

/-- The group with a name, created if it is not there; with `clear` its auto-commands go. -/
def createGroup (host : Host Action) (name : String) (clear : Bool) : Int × Host Action :=
  match host.groupNamed? name with
  | some group => (group.id, if clear then host.clearGroup group.id else host)
  | none =>
    (host.nextId,
      { host with groups := host.groups ++ [⟨host.nextId, name⟩], nextId := host.nextId + 1 })

/-- Create an auto-command in a group. -/
def createAutoCommand (host : Host Action) (event pattern : String) (action : Action)
    (group : Int) : Except CommandFault (Int × Host Action) :=
  if host.hasGroup group then
    .ok (host.nextId,
      { host with
        autoCommands := host.autoCommands ++ [⟨host.nextId, event, pattern, action, group⟩]
        nextId := host.nextId + 1 })
  else .error (.badGroup group)

/-- Delete a group with its auto-commands. -/
def deleteGroup (host : Host Action) (group : Int) : Except CommandFault (Host Action) :=
  if host.hasGroup group then
    .ok { host.clearGroup group with groups := host.groups.filter fun known => known.id != group }
  else .error (.badGroup group)

/-- The auto-commands that an event on a file concerns, in order of creation. -/
def matching (host : Host Action) (event path : String) : List (AutoCommand Action) :=
  host.autoCommands.filter fun command =>
    command.event == event && matchesWildcard command.pattern path

/-- The buffer with a number. -/
def buffer? (host : Host Action) (number : Int) : Option Buffer :=
  host.buffers.find? fun buffer => buffer.number == number

/-- The buffer of a file. -/
def bufferNamed? (host : Host Action) (name : String) : Option Buffer :=
  host.buffers.find? fun buffer => buffer.name == name

/-- Make a buffer current if it is to have the focus. -/
def focusOn (host : Host Action) (number : Int) (focus : Bool) : Host Action :=
  if focus then { host with current := some number } else host

/-- Add a buffer with the next number. -/
def addBuffer (host : Host Action) (name text : String) : Int × Host Action :=
  (host.nextId,
    { host with
      buffers := host.buffers ++ [⟨host.nextId, name, text⟩]
      nextId := host.nextId + 1 })

/-- The text with which a file is opened: the given one, that of the file, or none. -/
def initialText (disk : Disk) (path : Path) : Option String → Except FileError String
  | some given => .ok given
  | none =>
    match disk.isFile path with
    | .error error => .error error
    | .ok true => disk.readText path
    | .ok false => .ok ""

/-- The buffer of a file, opened if it is not open. -/
def openBuffer (host : Host Action) (disk : Disk) (path : Path) (text : Option String)
    (focus : Bool) : Except FileError (Int × Host Action) :=
  match disk.resolve path with
  | .error error => .error error
  | .ok place =>
    match host.bufferNamed? place.text with
    | some buffer => .ok (buffer.number, host.focusOn buffer.number focus)
    | none =>
      match initialText disk place text with
      | .error error => .error error
      | .ok content =>
        let (number, opened) := host.addBuffer place.text content
        .ok (number, opened.focusOn number focus)

/-- The current buffer; an unnamed one is created when there is none. -/
def currentBuffer (host : Host Action) : Int × Host Action :=
  match host.current with
  | some number => (number, host)
  | none =>
    let (number, added) := host.addBuffer "" ""
    (number, added.focusOn number true)

/-- Make a buffer current. -/
def setCurrent (host : Host Action) (number : Int) : Except CommandFault (Host Action) :=
  if (host.buffer? number).isSome then .ok { host with current := some number }
  else .error (.badBuffer number)

/-- Change the text of a buffer. -/
def setText (host : Host Action) (number : Int) (text : String) : Host Action :=
  { host with buffers := host.buffers.map fun buffer =>
      if buffer.number = number then { buffer with text } else buffer }

/-- Apply edits to a buffer; there is none without a buffer of that number. -/
def applyEdits? (host : Host Action) (edits : List TextEdit) (number : Int)
    (encoding : Encoding) : Option (Host Action × Record) :=
  (host.buffer? number).map fun buffer =>
    (host.setText number (String.ofList (splice encoding edits buffer.text.toList)),
      ⟨.debug, "Applied " ++ toString edits.length ++ " edits to buffer " ++ toString number⟩)

end Host

end AnalyzerSessions
