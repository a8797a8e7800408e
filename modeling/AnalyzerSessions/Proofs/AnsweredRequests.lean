import AnalyzerSessions.Proofs.CalmStations
import AnalyzerSessions.Proofs.WantedAnswers

namespace AnalyzerSessions

/-!
# Answered requests

A request of the server is answered once: with what the handler of its method gives or
how it fails, or, where there is no handler, as its method says.  This is stated for
the handlers that every session has; what they answer is worked out beside the moves
that answer.  A configuration request that asks for something that is no item is left
out: its failure is not answered, and ends the reading.
-/

deriving instance DecidableEq for Code, Handler

/-! ## Writing an answer -/

/-- An answer to a request of the server: with a result, or with an error. -/
def answerMessage (id : Json) (body : Except Json Json) : Json :=
  .obj [("jsonrpc", .str "2.0"), ("id", id), match body with
    | .ok value => ("result", value)
    | .error error => ("error", error)]

/-- A message has an identifier, and exactly one of a result and an error. -/
structure IsAnswerWith (message id : Json) : Prop where
  identified : message.get? "id" = some id
  exclusive : (message.get? "result").isSome = !(message.get? "error").isSome

theorem isAnswerWith_answerMessage
    (id : Json)
    (body : Except Json Json) :
    IsAnswerWith (answerMessage id body) id := by
  cases body <;> exact ⟨rfl, rfl⟩

namespace Move

variable {station : Station} {session : Nat}

/-- A message is written where it can be: that is put on record, and the server reacts. -/
theorem perform_write
    {client : Client}
    {message : Json}
    (found : station.client? session = some client)
    (whole : station.IsWhole client)
    (writable : ∃ bytes, Wire.encode message = .ok bytes) :
    ∃ after, perform (write session message) station = (.ok (), after) ∧
      after.runs = station.runs ∧
      after.chronicle = station.chronicle ++ [.sent session message] := by
  let heard : Station := { station with
    desk := { station.desk with
      history := station.desk.history ++ [.sent client.process message] }
    chronicle := station.chronicle ++ [.sent session message] }
  have reacts := heard.agrees_react client.process message
  obtain ⟨process, talks, isWhole⟩ := whole
  obtain ⟨bytes, isEncoded⟩ := writable
  refine ⟨heard.react client.process message, ?_, reacts.runs, reacts.chronicle⟩
  unfold write
  rw [perform_bind, perform_client found]
  dsimp only
  rw [isEncoded]
  dsimp only
  rw [perform_get_bind, talks]
  dsimp only
  rw [isWhole]
  rfl

/-- An answer is given where it can be written. -/
theorem make_respond
    {client : Client}
    {id : Json}
    {body : Except Json Json}
    (found : station.client? session = some client)
    (whole : station.IsWhole client)
    (writable : ∃ bytes, Wire.encode (answerMessage id body) = .ok bytes) :
    ∃ after, make (respond session id body) station = (.done, after) ∧
      after.chronicle = station.chronicle ++ [.sent session (answerMessage id body)] := by
  obtain ⟨after, written, _, sent⟩ := perform_write found whole writable
  have responds : respond session id body =
      write session (answerMessage id body) >>= fun _ => return Next.done := rfl
  rw [responds]
  exact ⟨after, make_bind written _, sent⟩

end Move

/-! ## Handlers at the desk -/

namespace Act

variable {α β : Type}

/-- However an act fails, it is not a cancellation: acts are done without waiting. -/
def FailsAtOnce (act : Act α) : Prop :=
  FailsOnly (· ≠ .cancelled) act

theorem failsAtOnce_ofExcept
    {ε : Type}
    {cause : ε → Failure}
    (apart : ∀ error, cause error ≠ .cancelled)
    (result : Except ε α) :
    FailsAtOnce (ofExcept cause result) :=
  failsOnly_ofExcept apart result

theorem failsAtOnce_applyBatches
    (encoding : Text.Encoding)
    (batches : List (String × List TextEdit)) :
    FailsAtOnce (applyBatches encoding batches) := by
  induction batches with
  | nil =>
      exact (succeeds_pure ()).failsOnly
  | cons batch rest inductionHypothesis =>
      have opened : FailsAtOnce (bufferForUri batch.1) := by
        refine (failsAtOnce_ofExcept nofun _).bind fun path => ?_
        refine succeeds_get.failsOnly.bind fun desk => ?_
        refine (failsAtOnce_ofExcept nofun _).bind fun opened => ?_
        exact ((succeeds_modify _).bind fun _ => succeeds_pure _).failsOnly
      refine opened.bind fun number => FailsOnly.bind ?_ fun _ => inductionHypothesis
      refine succeeds_get.failsOnly.bind fun desk => ?_
      split
      · exact failsOnly_throw nofun
      · refine succeeds_get.failsOnly.bind fun later => ?_
        split
        · exact failsOnly_throw nofun
        · exact ((succeeds_modify _).bind fun _ => succeeds_modify _).failsOnly

theorem failsAtOnce_answerApplyEdit
    (session : Session)
    (params : Json) :
    FailsAtOnce (answerApplyEdit session params) := by
  have tried : FailsAtOnce (do applyRequest session params; return appliedAnswer) := by
    refine FailsOnly.bind ?_ fun _ => (succeeds_pure _).failsOnly
    refine (failsAtOnce_ofExcept nofun _).bind fun request => ?_
    exact (failsAtOnce_ofExcept nofun _).bind fun batches => failsAtOnce_applyBatches _ batches
  intro desk failure failed
  unfold answerApplyEdit perform at failed
  rw [run_tryCatch] at failed
  have attempt := tried desk
  unfold perform at attempt
  generalize (ExceptT.run (do applyRequest session params; return appliedAnswer)).run desk =
    result at failed attempt
  rcases result with ⟨cause | value, mid⟩
  · dsimp only at failed
    split at failed
    · cases failed
    · cases failed
      exact attempt _ rfl
  · cases failed

theorem succeeds_noteStatus
    (session : Session)
    (params : Json) :
    Succeeds (noteStatus session params) := by
  unfold noteStatus
  split
  · exact succeeds_modify _
  · rename_i status _
    have quiet : Succeeds (if (status.quiescent &&
        !(session.status.map ServerStatus.quiescent).getD false) = true then
          say .info ("Session " ++ toString session.id ++ " is quiescent (health=" ++
            status.health.name ++ ")")
        else pure ()) := by
      split
      · exact succeeds_modify _
      · exact succeeds_pure ()
    refine (succeeds_modify _).bind fun _ => ?_
    dsimp only
    split
    · exact (succeeds_modify _).bind fun _ => quiet
    · exact (succeeds_modify _).bind fun _ => quiet
    · exact quiet

end Act

/-! ## What is answered -/

/-- How a handler that every session has ends for a request with a method, if there is one. -/
def standardOutcome? (desk : Desk) (session : Session) (method : String) (params : Json) :
    Option Outcome :=
  if method = "experimental/serverStatus" then some .done
  else if method = "workspace/applyEdit" then
    some ((Act.perform (Act.answerApplyEdit session params) desk).1.map Value.json)
  else none

/-- The body of the answer to a request whose handler has ended. -/
def outcomeBody : Outcome → Except Json Json
  | .ok (.json value) => .ok value
  | .ok _ => .ok .null
  | .error failure => .error (Move.errorBody Move.internalError failure.message)

/-- The body of the answer to a request without a handler. -/
def unhandledBody (settings : Options) (method : String) (params : Json) : Except Json Json :=
  if method = "workspace/configuration" then
    match Move.configuration settings params with
    | .ok value => .ok value
    | .error misuse => .error (Move.errorBody Move.internalError misuse.message)
  else if Move.acknowledged.contains method then .ok .null
  else .error (Move.errorBody methodNotFound ("Method not found: " ++ method))

/-- The body of the answer to a request in a session that has the standard handlers alone. -/
def standardBody (desk : Desk) (session : Session) (method : String) (params : Json) :
    Except Json Json :=
  match standardOutcome? desk session method params with
  | some outcome => outcomeBody outcome
  | none => unhandledBody session.settings method params

/-- The desk when it was noted in the log that a request came. -/
def Desk.noting (desk : Desk) (method : String) (id : Json) : Desk :=
  { desk with log := desk.log ++ [⟨.debug,
      "Received server request: " ++ method ++ " (id=" ++ id.messageText ++ ")"⟩] }

/-- The members of a request of the server. -/
structure IsRequest (fields : List (String × Json)) (id : Json) (method : String) : Prop where
  identified : Json.lookup? "id" fields = some id
  named : Json.lookup? "method" fields = some (.str method)

theorem IsRequest.not_isAnswerTo
    {fields : List (String × Json)}
    {id : Json}
    {method : String}
    (request : IsRequest fields id method)
    (number : Nat) :
    ¬IsAnswerTo (.obj fields) number := by
  rintro ⟨noMethod, _, _⟩
  cases noMethod.symm.trans request.named

/-- The parameters of a request. -/
def paramsOf (fields : List (String × Json)) : Json :=
  (Json.lookup? "params" fields).getD .null

theorem standardOutcome?_ne_cancelled
    {desk : Desk}
    {session : Session}
    {method : String}
    {params : Json}
    {outcome : Outcome}
    (isOutcome : standardOutcome? desk session method params = some outcome) :
    outcome ≠ .error .cancelled := by
  unfold standardOutcome? at isOutcome
  split at isOutcome
  · cases isOutcome
    nofun
  · split at isOutcome
    · cases isOutcome
      have atOnce := Act.failsAtOnce_answerApplyEdit session params desk
      cases given : (Act.perform (Act.answerApplyEdit session params) desk).1 with
      | ok value =>
          nofun
      | error failure =>
          intro same
          cases same
          exact atOnce _ given rfl
    · cases isOutcome

namespace Move

variable {station : Station} {session : Nat} {owner : Session} {fields : List (String × Json)}
  {id : Json} {method : String}

theorem perform_session (found : station.session? session = some owner) :
    perform (Move.session session) station = (.ok owner, station) := by
  unfold Move.session
  rw [perform_get_bind, found]
  rfl

theorem findHandler?_standard
    (standard : owner.handlers = ServerSettings.standardHandlers)
    (method : String) :
    findHandler? owner (.str method) =
      .ok (if method = "experimental/serverStatus" then some .status
        else if method = "workspace/applyEdit" then some .applyEdit
        else none) := by
  have sameText : ∀ known : String, (Json.str known).sameKey (.str method) = true ↔ known = method := by
    intro known
    simp [Json.sameKey, Json.rat?]
  unfold findHandler? Session.handler? Keyed.find? ServerSettings.standardHandlers at *
  dsimp only
  rw [standard]
  by_cases isStatus : method = "experimental/serverStatus"
  · subst isStatus
    rfl
  · by_cases isEdit : method = "workspace/applyEdit"
    · subst isEdit
      rfl
    · have noStatus : (Json.str "experimental/serverStatus").sameKey (.str method) = false :=
        Bool.eq_false_iff.mpr fun same => isStatus ((sameText _).mp same).symm
      have noEdit : (Json.str "workspace/applyEdit").sameKey (.str method) = false :=
        Bool.eq_false_iff.mpr fun same => isEdit ((sameText _).mp same).symm
      rw [if_neg isStatus, if_neg isEdit, List.find?_cons, noStatus, List.find?_cons, noEdit]
      rfl

/-- The standard handlers are called for their methods, and do something at the desk alone. -/
theorem perform_dispatch
    (found : station.session? session = some owner)
    (standard : owner.handlers = ServerSettings.standardHandlers)
    (silent : station.desk.orders = [])
    (method : String)
    (params : Json) :
    ∃ desk, perform (dispatch session (.str method) params) station =
        (.ok ((standardOutcome? station.desk owner method params).map Next.give),
          { station with desk }) ∧
      (standardOutcome? station.desk owner method params = none → desk = station.desk) := by
  have sameDesk : { station.desk with orders := [] } = station.desk := by
    rw [← silent]
  unfold dispatch standardOutcome?
  rw [perform_bind, perform_session found]
  dsimp only
  rw [findHandler?_standard standard]
  by_cases isStatus : method = "experimental/serverStatus"
  · have noted := perform_atDesk (Act.keeps_noteStatus owner params).spares station
    rw [sameDesk] at noted
    obtain ⟨_, succeeded⟩ := Act.succeeds_noteStatus owner params station.desk
    rw [succeeded] at noted
    simp only [if_pos isStatus]
    refine ⟨(Act.noteStatus owner params).after station.desk, ?_, nofun⟩
    rw [perform_bind, perform_tryCatch, callHandler, perform_bind, noted]
    rfl
  · by_cases isEdit : method = "workspace/applyEdit"
    · have edited := perform_atDesk (Act.spares_answerApplyEdit owner params) station
      rw [sameDesk] at edited
      simp only [if_neg isStatus, if_pos isEdit]
      refine ⟨(Act.answerApplyEdit owner params).after station.desk, ?_, nofun⟩
      rw [perform_bind, perform_tryCatch, callHandler, perform_bind, edited]
      cases (Act.perform (Act.answerApplyEdit owner params) station.desk).1 <;> rfl
    · simp only [if_neg isStatus, if_neg isEdit]
      exact ⟨station.desk, rfl, fun _ => rfl⟩

/-- A request is put on record, noted in the log, and passed on to the handler of its method. -/
theorem make_handleMessage_of_request
    (request : IsRequest fields id method)
    (found : station.session? session = some owner)
    (standard : owner.handlers = ServerSettings.standardHandlers)
    (silent : station.desk.orders = []) :
    ∃ desk, make (handleMessage session (.obj fields)) station =
        make (match standardOutcome? (station.desk.noting method id) owner method
            (paramsOf fields) with
          | some outcome => return (Next.give outcome).into (.answering session (.str method) id)
          | none => answerUnhandled session (.str method) id (paramsOf fields))
          { station with
            desk
            chronicle := station.chronicle ++ [.arrived session (.obj fields)] } ∧
      (standardOutcome? (station.desk.noting method id) owner method (paramsOf fields) = none →
        desk = station.desk.noting method id) := by
  have interpreted : interpret session (.obj fields) =
      handleRequest session (.str method) id (paramsOf fields) := by
    unfold interpret
    dsimp only
    rw [request.identified, request.named]
    rfl
  let noted : Station := { station with
    desk := station.desk.noting method id
    chronicle := station.chronicle ++ [.arrived session (.obj fields)] }
  have foundNow : noted.session? session = some owner := found
  have silentNow : noted.desk.orders = [] := silent
  obtain ⟨desk, dispatched, unhandled⟩ := perform_dispatch foundNow standard silentNow method
    (paramsOf fields)
  have arrived : perform (record (.arrived session (.obj fields))) station =
      (.ok (), { station with
        chronicle := station.chronicle ++ [.arrived session (.obj fields)] }) := rfl
  have said : perform (say .debug ("Received server request: " ++ method ++ " (id=" ++
      id.messageText ++ ")")) { station with
        chronicle := station.chronicle ++ [.arrived session (.obj fields)] } = (.ok (), noted) := rfl
  refine ⟨desk, (make_bind arrived _).trans ?_, unhandled⟩
  rw [interpreted]
  refine (make_bind said _).trans ((make_bind dispatched _).trans ?_)
  cases standardOutcome? noted.desk owner method (paramsOf fields) <;> rfl

/-- A request without a handler is answered as its method says, unless it asks for settings in a way
that cannot be read. -/
theorem make_answerUnhandled
    {params : Json}
    (found : station.session? session = some owner)
    (readable : method = "workspace/configuration" →
      ∃ value, configuration owner.settings params = .ok value) :
    make (answerUnhandled session (.str method) id params) station =
      make (respond session id (unhandledBody owner.settings method params)) station := by
  have looked := perform_session found
  unfold answerUnhandled unhandledBody
  by_cases isConfiguration : method = "workspace/configuration"
  · obtain ⟨value, given⟩ := readable isConfiguration
    rw [if_pos (congrArg Json.str isConfiguration), if_pos isConfiguration, make_bind looked, given]
  · rw [if_neg fun same => isConfiguration (Json.str.inj same), if_neg isConfiguration]
    have sameTest : (acknowledged.any fun known => (Json.str method = Json.str known : Bool)) =
        acknowledged.contains method := by
      rw [List.contains_eq_any_beq]
      refine congrArg _ (funext fun known => ?_)
      by_cases same : method = known
      · simp [same]
      · simp [same]
    rw [sameTest]
    split <;> rfl

/-- After its handler a request is answered with how the handler ended. -/
theorem make_afterHandler
    {outcome : Outcome}
    (apart : outcome ≠ .error .cancelled)
    (station : Station)
    (session : Nat)
    (method id : Json) :
    ∃ log, make (afterHandler session method id outcome) station =
      make (respond session id (outcomeBody outcome))
        { station with desk := { station.desk with log } } := by
  unfold afterHandler
  split
  · exact ⟨station.desk.log, rfl⟩
  · rename_i value noJson
    refine ⟨station.desk.log, ?_⟩
    cases value with
    | json value => exact (noJson value rfl).elim
    | _ => rfl
  · exact (apart rfl).elim
  · exact ⟨_, make_bind rfl _⟩

end Move

namespace Station

variable {station : Station} {session : Nat} {owner : Session} {fields : List (String × Json)}
  {id : Json} {method : String}

/-- A station that has come from another one by receiving a message and writing another one, where
reading goes on and every open call is still open. -/
structure AnswersOnce (before after : Station) (session : Nat) (message response : Json) :
    Prop where
  recorded : after.chronicle =
    before.chronicle ++ [.arrived session message, .sent session response]
  reads : after.reads? session = some .initial
  spares : ∀ other number promise, before.IsOpen other number promise →
    after.IsOpen other number promise

/-- A session with the standard handlers alone whose server can be written to. -/
structure IsReady (station : Station) (session : Nat) (owner : Session) : Prop where
  found : station.session? session = some owner
  standard : owner.handlers = ServerSettings.standardHandlers
  whole : ∀ client, station.client? session = some client → station.IsWhole client

/-- The step that receives a request calls the handler of its method, or answers it. -/
theorem Poised.receivesRequest
    (poised : station.Poised)
    (received : station.received? session = some (.obj fields))
    (request : IsRequest fields id method)
    (ready : station.IsReady session owner) :
    ∃ task rest client read desk,
      station.Receives session (.obj fields) task rest client read ∧
      read.client? session = some client ∧ read.IsWhole client ∧
      Move.make (Move.handleMessage session (.obj fields)) read =
        Move.make (match standardOutcome? (station.desk.noting method id) owner method
            (paramsOf fields) with
          | some outcome => return (Next.give outcome).into (.answering session (.str method) id)
          | none => Move.answerUnhandled session (.str method) id (paramsOf fields))
          { read with
            desk
            chronicle := station.chronicle ++ [.arrived session (.obj fields)] } ∧
      (standardOutcome? (station.desk.noting method id) owner method (paramsOf fields) = none →
        desk = station.desk.noting method id) := by
  obtain ⟨task, rest, client, read, receives⟩ := poised.receives received
  obtain ⟨sameDesk, _, sameRuns, sameChronicle⟩ := receives.readsFrom.same
  have deskNow : read.desk = station.desk := sameDesk
  have chronicleNow : read.chronicle = station.chronicle := sameChronicle
  have foundNow : read.session? session = some owner := by
    unfold session?
    rw [deskNow]
    exact ready.found
  have silentNow : read.desk.orders = [] := deskNow ▸ poised.toSound.desk.silent
  obtain ⟨desk, handled, isNoted⟩ :=
    Move.make_handleMessage_of_request request foundNow ready.standard silentNow
  rw [deskNow] at handled isNoted
  rw [chronicleNow] at handled
  exact ⟨task, rest, client, read, desk, receives,
    (client?_congr sameRuns session).trans receives.found,
    receives.readsFrom.isWhole (ready.whole client receives.found), handled, isNoted⟩

/-- A request without a handler is answered in the step that receives it. -/
theorem Poised.answersUnhandled
    (poised : station.Poised)
    (received : station.received? session = some (.obj fields))
    (request : IsRequest fields id method)
    (ready : station.IsReady session owner)
    (unhandled : standardOutcome? (station.desk.noting method id) owner method (paramsOf fields) =
      none)
    (readable : method = "workspace/configuration" →
      ∃ value, Move.configuration owner.settings (paramsOf fields) = .ok value)
    (writable : ∃ bytes, Wire.encode (answerMessage id
      (unhandledBody owner.settings method (paramsOf fields))) = .ok bytes) :
    station.AnswersOnce station.step session (.obj fields)
      (answerMessage id (unhandledBody owner.settings method (paramsOf fields))) := by
  obtain ⟨task, rest, client, read, desk, receives, found, whole, handled, isNoted⟩ :=
    poised.receivesRequest received request ready
  cases isNoted unhandled
  rw [unhandled] at handled
  let noted : Station := { read with
    desk := station.desk.noting method id
    chronicle := station.chronicle ++ [.arrived session (.obj fields)] }
  have ownerNow : noted.session? session = some owner := ready.found
  have clientNow : noted.client? session = some client := found
  have wholeNow : noted.IsWhole client := whole
  obtain ⟨after, responded, recorded⟩ := Move.make_respond clientNow wholeNow writable
  have isMade : Move.make (Move.handleMessage session (.obj fields)) read = (.done, after) :=
    (handled.trans (Move.make_answerUnhandled ownerNow readable)).trans responded
  obtain ⟨hand, sound⟩ := receives.sound
  obtain ⟨given, running⟩ := receives.running
  have step := receives.step
  rw [isMade] at step sound running
  refine ⟨?_, ?_, fun other number promise isOpen => ?_⟩
  · rw [step]
    exact recorded.trans (List.append_assoc _ _ _)
  · rw [step]
    exact sound.reads?_follow running rfl _
  · exact poised.spares received isOpen fun same => request.not_isAnswerTo number same.2

/-- A request with a handler is answered in the step after the one that receives it. -/
theorem Poised.answersHandled
    {outcome : Outcome}
    (poised : station.Poised)
    (received : station.received? session = some (.obj fields))
    (request : IsRequest fields id method)
    (ready : station.IsReady session owner)
    (isHandled : standardOutcome? (station.desk.noting method id) owner method (paramsOf fields) =
      some outcome)
    (writable : ∃ bytes, Wire.encode (answerMessage id (outcomeBody outcome)) = .ok bytes) :
    station.AnswersOnce station.step.step session (.obj fields)
      (answerMessage id (outcomeBody outcome)) := by
  obtain ⟨task, rest, client, read, desk, receives, found, whole, handled, _⟩ :=
    poised.receivesRequest received request ready
  rw [isHandled] at handled
  let noted : Station := { read with
    desk
    chronicle := station.chronicle ++ [.arrived session (.obj fields)] }
  have isMade : Move.make (Move.handleMessage session (.obj fields)) read =
      ((Next.give outcome).into (.answering session (.str method) id), noted) := handled
  obtain ⟨hand, sound⟩ := receives.sound
  obtain ⟨given, running⟩ := receives.running
  have step := receives.step
  rw [isMade] at step sound running
  -- The task goes on at once, in the frame that answers.
  have runs : station.step.loop.running = some (task, outcome) := by
    rw [step]
    rfl
  have isTop : station.step.loop.frames task =
      .answering session (.str method) id :: .handled session :: rest := by
    rw [step]
    exact sound.frames_setFrames running _
  have poisedNow := poised.step.1
  obtain ⟨turns, _⟩ := poisedNow.turns runs isTop
  obtain ⟨log, answers⟩ := Move.make_afterHandler (standardOutcome?_ne_cancelled isHandled)
    (station.step.laid task (.handled session :: rest)) session (.str method) id
  have clientNow : ({ station.step.laid task (.handled session :: rest) with
      desk := { station.step.desk with log } } : Station).client? session = some client := by
    show station.step.client? session = some client
    rw [step]
    exact found
  have wholeNow : ({ station.step.laid task (.handled session :: rest) with
      desk := { station.step.desk with log } } : Station).IsWhole client := by
    show station.step.IsWhole client
    rw [step]
    exact whole
  obtain ⟨after, responded, recorded⟩ := Move.make_respond clientNow wholeNow writable
  have isMoved : station.step.moved task (.answering session (.str method) id)
      (.handled session :: rest) outcome = (.done, after) := answers.trans responded
  obtain ⟨_, stepAgain, soundNow, _, runsNow⟩ := turns
  rw [isMoved] at stepAgain soundNow runsNow
  refine ⟨?_, ?_, fun other number promise isOpen => ?_⟩
  · have noted : station.step.chronicle =
        station.chronicle ++ [.arrived session (.obj fields)] := by
      rw [step]
      rfl
    have recordedNow : after.chronicle = station.step.chronicle ++ _ := recorded
    rw [stepAgain]
    refine recordedNow.trans ?_
    rw [noted]
    exact List.append_assoc _ _ _
  · rw [stepAgain]
    exact soundNow.reads?_follow runsNow rfl _
  · refine poisedNow.handlesOn runs isTop (.answering session (.str method) id) ?_
    exact poised.spares received isOpen fun same => request.not_isAnswerTo number same.2

/-- A request that is received is answered before anything else happens: in the step that receives it,
or in the one after it. -/
def Answers (station : Station) (session : Nat) (message response : Json) : Prop :=
  station.AnswersOnce station.step session message response ∨
    station.AnswersOnce station.step.step session message response

theorem Poised.answers
    (poised : station.Poised)
    (received : station.received? session = some (.obj fields))
    (request : IsRequest fields id method)
    (ready : station.IsReady session owner)
    (readable : method = "workspace/configuration" →
      ∃ value, Move.configuration owner.settings (paramsOf fields) = .ok value)
    (writable : ∃ bytes, Wire.encode (answerMessage id
      (standardBody (station.desk.noting method id) owner method (paramsOf fields))) = .ok bytes) :
    station.Answers session (.obj fields) (answerMessage id
      (standardBody (station.desk.noting method id) owner method (paramsOf fields))) := by
  unfold standardBody at writable ⊢
  cases isHandled : standardOutcome? (station.desk.noting method id) owner method
      (paramsOf fields) with
  | none =>
      rw [isHandled] at writable
      exact .inl (poised.answersUnhandled received request ready isHandled readable writable)
  | some outcome =>
      rw [isHandled] at writable
      exact .inr (poised.answersHandled received request ready isHandled writable)

/-! ## Requests to an accepted server's client -/

/-- The server of an accepted session has sent a message, which is about to be received. -/
def acceptedBefore (message : Json) : Station :=
  settleWithin 2 (accepted.doServerAct 1 (.send (Wire.frame message)))

/-- What an accepted server sends is part of a run. -/
theorem acceptedBefore_run (message : Json) : StationRun (vacant .bare []) (acceptedBefore message) :=
  (accepted_run.next (.server 1 (.send (Wire.frame message)))).settleWithin 2

/-- A request with parameters that are a number. -/
def oddRequest (method : String) : List (String × Json) :=
  [("id", .int 9), ("method", .str method), ("params", .int 5)]

theorem isRequest_odd (method : String) : IsRequest (oddRequest method) (.int 9) method :=
  ⟨rfl, rfl⟩

/-- What can be worked out of a station where a message is about to be received: the message, that
there is a session, its handlers, and whether its server can be written to. -/
def Awaited (station : Station) (message : Json) : Prop :=
  station.received? 1 = some message ∧
    (station.session? 1).map Session.handlers = some ServerSettings.standardHandlers ∧
    ((station.client? 1).bind fun client => station.process? client.process).map
      ServerProcess.isBroken = some false

theorem Awaited.isReady
    {message : Json}
    (awaited : station.Awaited message) :
    ∃ owner, station.IsReady 1 owner := by
  obtain ⟨_, standard, whole⟩ := awaited
  obtain ⟨owner, found, isStandard⟩ := Option.map_eq_some_iff.mp standard
  refine ⟨owner, found, isStandard, fun client isClient => ?_⟩
  rw [isClient] at whole
  exact Option.map_eq_some_iff.mp whole

theorem awaited_registration :
    (acceptedBefore (.obj (oddRequest "client/registerCapability"))).Awaited
      (.obj (oddRequest "client/registerCapability")) := by
  unfold Awaited
  decide +kernel

end Station

namespace StationRun

variable {initial station : Station}

/-- In a session with the standard handlers a request that the server sends is answered once, with
its identifier and with one of a result and an error; reading goes on, and every open call is still
open.  Only a configuration request must not ask for something that is no item. -/
theorem answers_requests
    {session : Nat}
    {owner : Session}
    {fields : List (String × Json)}
    {id : Json}
    {method : String}
    {body : Except Json Json}
    (isNew : initial.IsNew)
    (reached : StationRun initial station)
    (received : station.received? session = some (.obj fields))
    (request : IsRequest fields id method)
    (ready : station.IsReady session owner)
    (readable : method = "workspace/configuration" →
      ∃ value, Move.configuration owner.settings (paramsOf fields) = .ok value)
    (isBody : standardBody (station.desk.noting method id) owner method (paramsOf fields) = body)
    (writable : ∃ bytes, Wire.encode (answerMessage id body) = .ok bytes) :
    IsAnswerWith (answerMessage id body) id ∧
      station.Answers session (.obj fields) (answerMessage id body) := by
  subst isBody
  exact ⟨isAnswerWith_answerMessage id _,
    (reached.poised isNew).1.answers received request ready readable writable⟩

/-- A request that is acknowledged whatever its parameters are. -/
theorem odd_registration_is_answered :
    (Station.vacant .bare []).IsNew ∧
      StationRun (Station.vacant .bare []) (Station.acceptedBefore
        (.obj (Station.oddRequest "client/registerCapability"))) ∧
      IsAnswerWith (answerMessage (.int 9) (.ok .null)) (.int 9) ∧
      (Station.acceptedBefore (.obj (Station.oddRequest "client/registerCapability"))).Answers 1
        (.obj (Station.oddRequest "client/registerCapability"))
        (answerMessage (.int 9) (.ok .null)) := by
  have reached := Station.acceptedBefore_run
    (.obj (Station.oddRequest "client/registerCapability"))
  have awaited := Station.awaited_registration
  obtain ⟨owner, ready⟩ := awaited.isReady
  have writable : Wire.encode (answerMessage (.int 9) (.ok .null)) =
      .ok (Wire.frame (answerMessage (.int 9) (.ok .null))) := by decide +kernel
  exact ⟨Station.isNew_vacant .bare [], reached, answers_requests (Station.isNew_vacant .bare []) reached
    awaited.1 (Station.isRequest_odd _) ready
    (fun isConfiguration => absurd isConfiguration (by decide)) rfl ⟨_, writable⟩⟩

/-- Not every request is answered: one for settings with parameters that are a number ends the
reading. -/
theorem odd_configuration_request_ends_reading :
    ¬∀ station, StationRun (Station.vacant .bare []) station →
      ∀ session owner fields id method,
        station.received? session = some (.obj fields) → IsRequest fields id method →
          station.IsReady session owner →
            ∃ response, IsAnswerWith response id ∧
              station.Answers session (.obj fields) response := by
  intro answered
  have reached := Station.acceptedBefore_run (.obj (Station.oddRequest "workspace/configuration"))
  obtain ⟨awaited, stopsReading, stopsReadingLater⟩ :
      (Station.acceptedBefore (.obj (Station.oddRequest "workspace/configuration"))).Awaited
          (.obj (Station.oddRequest "workspace/configuration")) ∧
        (Station.acceptedBefore
          (.obj (Station.oddRequest "workspace/configuration"))).step.reads? 1 = none ∧
        (Station.acceptedBefore
          (.obj (Station.oddRequest "workspace/configuration"))).step.step.reads? 1 = none := by
    unfold Station.Awaited
    decide +kernel
  obtain ⟨owner, ready⟩ := awaited.isReady
  obtain ⟨response, _, once | once⟩ := answered _ reached 1 owner _ _ _ awaited.1
    (Station.isRequest_odd _) ready
  · cases stopsReading.symm.trans once.reads
  · cases stopsReadingLater.symm.trans once.reads

end StationRun

end AnalyzerSessions
