import AnalyzerSessions.CommandLine.Reply

namespace AnalyzerSessions.CommandLine

open Config

/-!
# Checking

A check starts a server for a file, waits until it is ready, and stops it.  It is
refused when no session can be started or the server was not running when it was
looked at.
-/

/-- The report of a check in words. -/
def reportLines (report : Json) : String :=
  let health := report.getD "health"
  Text.joinWith "\n" [
    "root:    " ++ (report.getD "root").messageText,
    "pid:     " ++ (report.getD "pid").messageText,
    "ready:   " ++ (if (report.getD "ready").isTruthy then "yes" else "no"),
    "health:  " ++ (if health.isTruthy then health.messageText else "unknown")]

/-- The refusal about a server that was not running when it was looked at. -/
def notStarted (station : Station) (report : Json) : Reply :=
  let session := (station.desk.registry.sessions.find? fun session =>
    report.getD "id" = .nat session.id)
  let code := ((session.map Session.exitCode).getD .null).messageText
  let log := ((Move.serverLog? station serverName).map Path.text).getD ""
  .refused (serverName ++ " failed to start (exit code " ++ code ++ "). Server log: " ++ log)

/-- The reply to a check that is over. -/
def checkedReply (asJson : Bool) (path : Path) (station : Station) : Option Outcome → Reply
  | some (.ok (.json .null)) => .refused ("No root found for " ++ path.text)
  | some (.ok (.json report)) =>
    if report.getD "state" = .str SessionState.running.name then
      showValue asJson report (reportLines report)
    else notStarted station report
  | some (.error failure) => .escaped failure
  | _ => .escaped .cancelled

/-- A station for a check. -/
def checkStation (surroundings : Surroundings) (config : Entries Json) : Except Failure Station :=
  match sectionEntry config "client" "request_timeout" .null with
  | .error misuse => .error (.misuse misuse)
  | .ok timeout =>
    (Setup.ofConfig config surroundings.environment surroundings.probe).map fun setup =>
      .fresh (.fresh surroundings.disk setup) surroundings.environment surroundings.processId
        .live timeout surroundings.plans

/-- Start a server for a file, wait until it is ready, and stop it. -/
def checkResult (surroundings : Surroundings) (asJson : Bool) (config : Entries Json)
    (path : String) (timeout : Number.Binary64) : Result :=
  match surroundings.disk.resolve (Path.ofText path) with
  | .error error => .plain (.escaped (.file error))
  | .ok place =>
    match (Host.empty : Host Action).openBuffer surroundings.disk place none true,
        checkStation surroundings config with
    | .error error, _ => .plain (.escaped (.file error))
    | .ok _, .error failure => .plain (.escaped failure)
    | .ok _, .ok station =>
      let (outcome, after) := station.complete (.check place (.float timeout))
      ⟨checkedReply asJson place after outcome, after.desk.questions⟩

end AnalyzerSessions.CommandLine
