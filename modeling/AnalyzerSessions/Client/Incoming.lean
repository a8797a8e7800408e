import AnalyzerSessions.Client.Request

namespace AnalyzerSessions.Move

open Number

/-!
# Messages from the server

A message with an identifier and a method is a request and is answered, one with
an identifier alone is an answer to a request of the client, and one without is a
notification.
-/

/-- What supplied code does when its time has come: it is observed, and ends. -/
def endCode (code : Code) (arguments : List Json) : Move Next := do
  observe (.called code.name arguments)
  match code.outcome with
  | .ok value => return Next.value value
  | .error text => return Next.fail (.supplied text)

/-- Call supplied code.  Code that has to be waited for lets others go first, also when it takes
no time. -/
def callCode (code : Code) (arguments : List Json) : Move Next := do
  match code.timing with
  | .atOnce => endCode code arguments
  | .after seconds =>
    if Binary64.zero.isAtLeast seconds then return Next.yield.into (.slept code arguments none)
    else
      let promise ← newPromise .tick
      modifyLoop fun loop => loop.settleAfter promise seconds
      return (Next.await promise).into (.slept code arguments (some promise))

/-- Go on with supplied code when its time has come. -/
def afterSleep (code : Code) (arguments : List Json) (time : Option Nat) : Outcome → Move Next
  | .ok _ => endCode code arguments
  | .error failure => do
    if let some promise := time then cancelTimer promise
    return Next.fail failure

/-- Call a handler. -/
def callHandler (session : Session) (params : Json) : Handler → Move Next
  | .status => do
    atDesk (Act.noteStatus session params)
    return Next.done
  | .applyEdit => return Next.value (← atDesk (Act.answerApplyEdit session params))
  | .supplied code => callCode code [params]
  | .value value => throw (.misuse (.notCallable value))

/-- The handler that a session has for a method, where null is none; a list or an object names
none at all. -/
def findHandler? (session : Session) : Json → Except Misuse (Option Handler)
  | .arr items => .error (.unhashable (.arr items))
  | .obj fields => .error (.unhashable (.obj fields))
  | method => .ok ((session.handler? method).filter fun handler => !handler.isNull)

/-- Call the handler of a method, if there is one. -/
def dispatch (id : Nat) (method params : Json) : Move (Option Next) := do
  let session ← session id
  match findHandler? session method with
  | .error misuse => return some (.fail (.misuse misuse))
  | .ok none => return none
  | .ok (some handler) =>
    return some (← tryCatch (callHandler session params handler) fun failure =>
      return Next.fail failure)

/-! ## Requests of the server -/

/-- The requests that are acknowledged when no handler is there for them. -/
def acknowledged : List String := [
  "window/workDoneProgress/create", "client/registerCapability", "client/unregisterCapability",
  "workspace/semanticTokens/refresh", "workspace/inlayHint/refresh", "workspace/codeLens/refresh"]

/-- An error member of an answer. -/
def errorBody (code : Int) (message : String) : Json :=
  .obj [("code", .int code), ("message", .str message)]

/-- Answer a request of the server. -/
def respond (session : Nat) (id : Json) (body : Except Json Json) : Move Next := do
  let member := match body with
    | .ok value => ("result", value)
    | .error error => ("error", error)
  write session (.obj [("jsonrpc", .str "2.0"), ("id", id), member])
  return Next.done

/-- Follow keys into settings; there is nothing where a key leads out of them. -/
def settingAt (settings : Json) : List String → Json
  | [] => settings
  | key :: rest =>
    match settings with
    | .obj fields =>
      match Json.lookup? key fields with
      | some inner => settingAt inner rest
      | none => .null
    | _ => .null

/-- The keys in a section's name, which dots divide. -/
def sectionKeys (name : String) : List String :=
  (Text.splitOn '.' name.toList).map String.ofList

/-- The settings of a section. -/
def sectionOf (settings : Options) (name : String) : Json :=
  match sectionKeys name with
  | [] => settings.toJson
  | key :: rest => ((settings.find? key).map fun value => settingAt value rest).getD .null

/-- The settings that an item of a configuration request asks for. -/
def configuredItem (settings : Options) : Json → Except Misuse Json
  | .obj fields =>
    let name := (Json.lookup? "section" fields).getD .null
    if !name.isTruthy then .ok settings.toJson
    else
      match name with
      | .str text => .ok (sectionOf settings text)
      | other => .error (.noMember other "split")
  | item => .error (.noMember item "get")

/-- The settings that a configuration request asks for, item by item. -/
def configuration (settings : Options) (params : Json) : Except Misuse Json :=
  match if params.isTruthy then params else .obj [] with
  | .obj fields =>
    match ServerSettings.itemsOf ((Json.lookup? "items" fields).getD (.arr [])) with
    | .error misuse => .error misuse
    | .ok items => (items.mapM (configuredItem settings)).map .arr
  | other => .error (.noMember other "get")

/-- Answer a request of the server for which no handler is there. -/
def answerUnhandled (session : Nat) (method id params : Json) : Move Next := do
  if method = .str "workspace/configuration" then
    match configuration (← Move.session session).settings params with
    | .error misuse => throw (.misuse misuse)
    | .ok value => respond session id (.ok value)
  else if acknowledged.any fun known => method = .str known then respond session id (.ok .null)
  else
    respond session id
      (.error (errorBody methodNotFound ("Method not found: " ++ method.messageText)))

/-- The line about a handler that failed. -/
def handlerFailed (method : Json) : Move Unit :=
  say .error ("Handler for " ++ method.messageText ++ " failed")

/-- The code with which a failure of a handler is answered. -/
def internalError : Int := -32603

/-- Go on after the handler of a request. -/
def afterHandler (session : Nat) (method id : Json) : Outcome → Move Next
  | .ok (.json value) => respond session id (.ok value)
  | .ok _ => respond session id (.ok .null)
  | .error .cancelled => return Next.fail .cancelled
  | .error failure => do
    handlerFailed method
    respond session id (.error (errorBody internalError failure.message))

/-- Handle a request of the server. -/
def handleRequest (session : Nat) (method id params : Json) : Move Next := do
  say .debug ("Received server request: " ++ method.messageText ++ " (id=" ++ id.messageText ++ ")")
  match ← dispatch session method params with
  | some next => return next.into (.answering session method id)
  | none => answerUnhandled session method id params

/-! ## Answers -/

/-- Settle the promise of a request; one that is settled already cannot be settled again. -/
def settleRequest (promise : Nat) (outcome : Outcome) : Move Unit := do
  if (← get).loop.isSettled promise then throw .alreadySettled
  else modifyLoop fun loop => loop.settle promise outcome

/-- The failure that the error member of an answer stands for. -/
def answeredError : Json → Except Misuse Failure
  | .obj fields =>
    let member (name : String) (default : Json) := (Json.lookup? name fields).getD default
    .ok (.response (member "code" (.int (-1))) (member "message" (.str "Unknown error"))
      (member "data" .null))
  | value => .error (.noMember value "get")

/-- Handle an answer to the request with a number. -/
def handleAnswer (session number promise : Nat) (id : Json) (fields : List (String × Json)) :
    Move Unit := do
  modifyClient session fun client => client.forget number
  match Json.lookup? "error" fields with
  | none => settleRequest promise (.ok (.json ((Json.lookup? "result" fields).getD .null)))
  | some error =>
    say .debug ("LSP RESPONSE [" ++ id.messageText ++ "] ERROR: " ++ error.messageText)
    match answeredError error with
    | .error misuse => throw (.misuse misuse)
    | .ok failure => settleRequest promise (.error failure)

/-- Handle an answer. -/
def handleResponse (session : Nat) (id : Json) (fields : List (String × Json)) : Move Next := do
  let client ← client session
  match client.answered? id with
  | .error misuse => throw (.misuse misuse)
  | .ok answered =>
    match answered with
    | some (number, promise) => handleAnswer session number promise id fields
    | none => say .warning ("Received response for unknown request: " ++ id.messageText)
    return Next.done

/-! ## Notifications -/

/-- Whether a status says that the server has nothing left to do and is well enough. -/
def isSettledStatus (status : Option ServerStatus) : Bool :=
  match status with
  | some status => status.quiescent && status.health != .error
  | none => false

/-- Let the flag of a client follow the status of its session. -/
def followStatus (session : Nat) : Move Unit := do
  let status := ((← get).session? session).bind Session.status
  if isSettledStatus status then modify fun station => station.raise (.quiescent session)
  else modify fun station => station.lower (.quiescent session)

/-- Go on after the handler of a notification. -/
def afterNotification (session : Nat) (method : Json) : Outcome → Move Next
  | .error .cancelled => return Next.fail .cancelled
  | outcome => do
    if let .error _ := outcome then handlerFailed method
    if method = .str "experimental/serverStatus" then followStatus session
    return Next.done

/-- Handle a notification. -/
def handleNotification (session : Nat) (method params : Json) : Move Next := do
  say .debug ("Received notification: " ++ method.messageText)
  return ((← dispatch session method params).getD .done).into (.noted session method)

/-- Handle a message by what it is. -/
def interpret (session : Nat) : Json → Move Next
  | .obj fields =>
    let params := (Json.lookup? "params" fields).getD .null
    match Json.lookup? "id" fields, Json.lookup? "method" fields with
    | some id, some method => handleRequest session method id params
    | some id, none => handleResponse session id fields
    | none, some method => handleNotification session method params
    | none, none => throw (.noKey (.str "method"))
  | .arr items => throw (.misuse (.notIndexed (.arr items)))
  | .str text => throw (.misuse (.notIndexed (.str text)))
  | value => throw (.misuse (.notSearchable value))

/-- Handle a message. -/
def handleMessage (session : Nat) (message : Json) : Move Next := do
  record (.arrived session message)
  interpret session message

end AnalyzerSessions.Move
