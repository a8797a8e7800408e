import AnalyzerSessions.Station.Deadline

namespace AnalyzerSessions.Move

/-!
# Requests and notifications

A request has a number, is written, and waits for its answer or the end of its
time.  One that failed to be written or was given up from outside stays among the
unanswered ones; one whose time is over does not.
-/

/-- Parameters as members of a message; null is left out. -/
def paramsFields (params : Json) : List (String × Json) :=
  if params = .null then [] else [("params", params)]

/-- A request. -/
def requestMessage (number : Nat) (method : String) (params : Json) : Json :=
  .obj ([("jsonrpc", .str "2.0"), ("id", .nat number), ("method", .str method)] ++
    paramsFields params)

/-- A notification. -/
def notificationMessage (method : String) (params : Json) : Json :=
  .obj ([("jsonrpc", .str "2.0"), ("method", .str method)] ++ paramsFields params)

/-- Enter a request with the next number of a client among the unanswered ones. -/
def issue (session number promise : Nat) : Move Unit :=
  modify fun station =>
    { station.modifyClient session fun client => client.enter promise with
      chronicle := station.chronicle ++ [.issued session number] }

/-- Write the message of a request; the call ends if it cannot be written. -/
def writeRequest (session number : Nat) (message : Json) : Move Unit := do
  tryCatch (write session message) fun failure => do
    record (.settled session number (.error failure))
    throw failure
  record (.written session number)

/-- Send a request through a client and wait for the answer. -/
def request (session : Nat) (method : String) (params timeout : Json) : Move Next := do
  let client ← client session
  let number := client.nextRequest
  let promise ← newPromise (.answer session number)
  issue session number promise
  say .debug ("LSP REQUEST [" ++ toString number ++ "] " ++ method)
  writeRequest session number (requestMessage number method params)
  let limit := if timeout.isTruthy then timeout else client.requestTimeout
  into (awaitWithin promise limit) (.requested session number method limit)

/-- The failure of a request whose time is over. -/
def requestTimedOut (method : String) (limit : Json) : Failure :=
  .response (.int (-1))
    (.str ("Request " ++ method ++ " timed out after " ++ limit.messageText ++ "s")) .null

/-- End the call that made a request. -/
def endRequest (session number : Nat) (outcome : Outcome) : Move Next := do
  record (.settled session number outcome)
  return Next.give outcome

/-- Go on after waiting for the answer to a request. -/
def afterRequest (session number : Nat) (method : String) (limit : Json) : Outcome → Move Next
  | .error .timedOut => do
    modifyClient session fun client => client.forget number
    endRequest session number (.error (requestTimedOut method limit))
  | outcome => endRequest session number outcome

/-- Send a notification through a client. -/
def notify (session : Nat) (method : String) (params : Json) : Move Next := do
  write session (notificationMessage method params)
  say .debug ("LSP NOTIFICATION " ++ method)
  return Next.done

/-- How the leaves of a session talk to its server, if they can. -/
def connection (session : Nat) (member : String) : Move Connection := do
  match ((← get).session? session).bind Session.client with
  | some connection => return connection
  | none => throw (.misuse (.noMember .null member))

/-- Send a request for a leaf. -/
def sendRequest (session : Nat) (method : String) (params : Json) : Move Next := do
  match ← connection session "send_request" with
  | .client => request session method params .null
  | .prepared responses =>
    observe (.requested session method params)
    return Next.value (((responses.find? fun entry => entry.1 == method).map Prod.snd).getD .null)

/-- Send a notification for a leaf. -/
def sendNotification (session : Nat) (method : String) (params : Json) : Move Next := do
  match ← connection session "send_notification" with
  | .client => notify session method params
  | .prepared _ =>
    observe (.notified session method params)
    return Next.done

end AnalyzerSessions.Move
