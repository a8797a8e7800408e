import AnalyzerSessions.Client.Incoming
import AnalyzerSessions.Session.Routing

namespace AnalyzerSessions.Move

/-!
# Running commands

Commands and auto-commands of the host run here.  The auto-commands of an event
run one after the other, and the first one that fails ends them.
-/

/-- Whether a leaf looks for the connection of its session before anything else. -/
def needsConnectionFirst : LeafAction → Bool
  | .syntaxTree => true
  | .openManifest => true
  | .runnables => true
  | _ => false

/-- Run a leaf. -/
def runAction (id : Nat) (arguments : List Json) : LeafAction → Move Next
  | .supplied code => callCode code arguments
  | action => do
    if needsConnectionFirst action then let _ ← connection id "send_request"
    let session ← session id
    let message ← atDesk (Act.leafMessage session action arguments)
    if message.isRequest then
      into (sendRequest id message.method message.params) (.leafAnswered action)
    else sendNotification id message.method message.params

/-- Run a leaf by its name. -/
def runLeaf (session : Nat) (leaf : String) (arguments : List Json) : Move Next := do
  runAction session arguments (← atDesk (Act.leafAction leaf arguments.length))

/-- Go on after the server's answer to a leaf. -/
def afterLeaf (action : LeafAction) : Outcome → Move Next
  | .ok (.json answer) =>
    match Act.leafAnswer action answer with
    | .ok value => return Next.value value
    | .error failure => return Next.fail failure
  | outcome => return Next.give outcome

/-- Reload the workspace of a session if a saved manifest concerns it. -/
def reloadFor (session : Nat) (file : String) : Move Next := do
  if ← atDesk (Act.concernsManifest session (Path.ofText file)) then runLeaf session reloadLeaf []
  else return Next.done

/-- Run what a command or an auto-command stands for. -/
def run (arguments : List Json) : Action → Move Next
  | .start => return Next.give (.ok (.session (← atDesk (Act.start [] none))))
  | .stop => return Next.give (.ok (.sessions (← atDesk (Act.stop none))))
  | .leaf binding => do
    let session ← atDesk Act.targetSession
    runLeaf session.id binding.leaf (binding.leafArguments ++ arguments)
  | .reload session => reloadFor session ((arguments.head?.bind Json.str?).getD "")
  | .supplied code => callCode code arguments

/-- Run a command of the host. -/
def runCommand (name : String) (arguments : List Json) : Move Next := do
  match (← get).desk.host.lookUp name arguments.length with
  | .error fault => throw (.command fault)
  | .ok action => run arguments action

/-- Call the handler that a session has for a method. -/
def runHandler (id : Nat) (method : String) (params : Json) : Move Next := do
  let session ← session id
  match session.handler? (.str method) with
  | none => throw (.noKey (.str method))
  | some handler => callHandler session params handler

/-- Run auto-commands one after the other. -/
def fireAll (path : String) (count : Nat) : List (AutoCommand Action) → Move Next
  | [] => return Next.value (.nat count)
  | command :: rest => into (run [.str path] command.action) (.firing rest path count)

/-- Run the auto-commands that an event on a file concerns. -/
def fire (event file : String) : Move Next := do
  let concerned := (← get).desk.host.matching event file
  fireAll file concerned.length concerned

/-- Go on after an auto-command. -/
def afterFiring (rest : List (AutoCommand Action)) (path : String) (count : Nat) :
    Outcome → Move Next
  | .ok _ => fireAll path count rest
  | .error failure => return Next.fail failure

/-- The event of a buffer having been written. -/
def writeEvent : String := "BufWritePost"

/-- Write the file of a buffer, and run the auto-commands that this concerns. -/
def writeBuffer (chosen : Option Int) : Move Next := do
  let number ← atDesk (Act.chosenBuffer chosen)
  let buffer ← atDesk (Act.buffer number)
  if buffer.name.isEmpty then throw (.command .noFileName)
  match (← get).desk.disk.writeText (Path.ofText buffer.name) buffer.text with
  | .error error => throw (.file error)
  | .ok disk =>
    modify fun station => { station with desk := { station.desk with disk } }
    into (fire writeEvent buffer.name) .discarding

/-- Go on with nothing to tell. -/
def afterDiscarded : Outcome → Move Next
  | .ok _ => return Next.done
  | .error failure => return Next.fail failure

end AnalyzerSessions.Move
