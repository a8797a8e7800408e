import AnalyzerSessions.Station.Commands
import AnalyzerSessions.Station.Launch

namespace AnalyzerSessions.Move

/-!
# Checking a server

A check starts a session for a file, waits until it is ready, stops it, and
reports how it was before it was stopped.
-/

/-- The report about a session: what is told about it, and whether it was ready. -/
def checkReport (session : Session) (ready : Json) : Json :=
  match session.toJson with
  | .obj fields => .obj (fields ++ [("ready", ready)])
  | value => value

/-- Start a session for a file and wait until it is ready; without a session there is no report. -/
def check (path : Path) (timeout : Json) : Move Next := do
  let buffer ← atDesk (Act.openBuffer path none true)
  match ← atDesk (Act.start [] (some buffer)) with
  | none => return Next.done
  | some session => into (awaitReady session timeout) (.checkedReady session buffer)

/-- Go on when a checked session is ready or not: stop it, and wait until it is closed. -/
def afterCheckedReady (id : Nat) (buffer : Int) : Outcome → Move Next
  | .error failure => return Next.fail failure
  | .ok value => do
    let ready := match value with
      | .json ready => ready
      | _ => .null
    let report := checkReport (← session id) ready
    let _ ← atDesk (Act.stop (some buffer))
    into (awaitClosed id) (.checkedClosed report)

/-- Go on when a checked session is closed. -/
def afterCheckedClosed (report : Json) : Outcome → Move Next
  | .error failure => return Next.fail failure
  | .ok _ => return Next.value report

end AnalyzerSessions.Move
