import AnalyzerSessions.Client.Incoming

namespace AnalyzerSessions.Move

/-!
# Reading from the server

One task of a client reads messages and handles them one after the other.  When
that fails, every unanswered request fails with it.  Another task puts what the
server logs into a file.
-/

/-- Whether a failure is one of the connection itself. -/
def isProtocolFailure : Failure → Bool
  | .frame fault => fault.isProtocolError
  | .serverExited => true
  | _ => false

/-- Let the unanswered requests of a client fail. -/
def failPending (session : Nat) (failure : Failure) : Move Unit := do
  let client ← client session
  modifyLoop fun loop => loop.settleAll (client.pending.map Prod.snd) (.error failure)

/-- Whether the server of a client has exited. -/
def serverHasExited (session : Nat) : Move Bool :=
  return (((← get).clientProcess? session).map ServerProcess.hasExited).getD true

/-- End the reading of messages: unless it was cancelled, the unanswered requests fail. -/
def endReading (session : Nat) : Failure → Move Next
  | .cancelled => return Next.fail .cancelled
  | failure => do
    if isProtocolFailure failure then
      if !(← serverHasExited session) then say .error ("Protocol error: " ++ failure.message)
    else say .error ("Error in read loop: " ++ failure.message)
    failPending session failure
    record (.hungUp session (some failure))
    return Next.done

/-- Change the channel on which the server of a client sends. -/
def modifyOutput (session : Nat) (change : Channel → Channel) : Move Unit := do
  let client ← client session
  modify fun station => station.modifyProcess client.process fun process =>
    { process with output := change process.output }

/-- What a reader does in a phase, as it is named when two readers meet. -/
def readingName : Wire.ReadPhase → String
  | .headers _ => "readuntil"
  | .body _ => "readexactly"

/-- Go on reading a message, and handle it when it is there. -/
def readOn (session : Nat) (phase : Wire.ReadPhase) : Move Next := do
  match (← get).clientProcess? session with
  | none => return Next.done
  | some process =>
    match Wire.read phase process.output.stream with
    | .waiting next stream =>
      modifyOutput session fun channel => { channel with stream }
      if process.output.reader.isSome then endReading session (.readerBusy (readingName next))
      else
        let promise ← newPromise .tick
        modifyOutput session fun channel => { channel with reader := some promise }
        return (Next.await promise).into (.reading session next)
    | .finished (.error fault) stream =>
      modifyOutput session fun channel => { channel with stream }
      endReading session (.frame fault)
    | .finished (.ok message) stream =>
      modifyOutput session fun channel => { channel with stream }
      into (handleMessage session message) (.handled session)

/-- Go on reading after waiting for bytes. -/
def afterBytes (session : Nat) (phase : Wire.ReadPhase) (outcome : Outcome) : Move Next := do
  modifyOutput session fun channel => { channel with reader := none }
  match outcome with
  | .ok _ => readOn session phase
  | .error failure => endReading session failure

/-- Go on with the next message. -/
def afterMessage (session : Nat) : Outcome → Move Next
  | .ok _ => readOn session .initial
  | .error failure => endReading session failure

/-! ## The server's own log -/

/-- Change the channel on which the server of a client logs. -/
def modifyErrors (session : Nat) (change : Channel → Channel) : Move Unit := do
  let client ← client session
  modify fun station => station.modifyProcess client.process fun process =>
    { process with errors := process.errors.map change }

/-- Close the log file of a client. -/
def closeLog (session : Nat) : Move Unit :=
  modifyClient session fun client => { client with logIsOpen := false }

/-- Append to the log file of a client, if it is open. -/
def appendLog (session : Nat) (text : String) : Move Unit := do
  let client ← client session
  match client.logIsOpen, client.logFile with
  | true, some file =>
    let disk := (← get).desk.disk
    match disk.appendText file text with
    | .error error => throw (.file error)
    | .ok changed =>
      modify fun station => { station with desk := { station.desk with disk := changed } }
  | _, _ => pure ()

/-- The number of bytes that are taken from a server's log at once. -/
def drainSize : Nat := 4096

/-- How much of a piece of a server's log is repeated, in characters. -/
def repeatedSize : Nat := 200

/-- Take note of a piece of a server's log. -/
def noteErrors (session : Nat) (bytes : List UInt8) : Move Unit := do
  let chars := Text.Utf8.decodeReplacing bytes
  appendLog session (String.ofList chars)
  say .debug ("Server stderr: " ++ String.ofList (chars.take repeatedSize))

/-- Stop draining the log of a server. -/
def endDraining (session : Nat) (outcome : Outcome) : Move Next := do
  closeLog session
  return Next.give outcome

/-- Go on draining the log of a server. -/
def drainOn (session : Nat) : Move Next := do
  match ((← get).clientProcess? session).bind ServerProcess.errors with
  | none => endDraining session .done
  | some channel =>
    match channel.stream.takeSome? drainSize with
    | none =>
      if channel.reader.isSome then endDraining session (.error (.readerBusy "read"))
      else
        let promise ← newPromise .tick
        modifyErrors session fun channel => { channel with reader := some promise }
        return (Next.await promise).into (.draining session)
    | some ([], _) => endDraining session .done
    | some (byte :: bytes, stream) =>
      modifyErrors session fun channel => { channel with stream }
      tryCatch (do noteErrors session (byte :: bytes); return Next.perform (.drainErrors session))
        fun failure => endDraining session (.error failure)

/-- Go on draining after waiting for bytes. -/
def afterErrors (session : Nat) (outcome : Outcome) : Move Next := do
  modifyErrors session fun channel => { channel with reader := none }
  match outcome with
  | .ok _ => drainOn session
  | .error failure => endDraining session (.error failure)

end AnalyzerSessions.Move
