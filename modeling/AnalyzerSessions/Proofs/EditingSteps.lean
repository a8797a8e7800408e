import AnalyzerSessions.Proofs.EditingMoves

namespace AnalyzerSessions

/-!
# Reading, handling and commands as edits

What clients do with the messages of their servers, how they start and stop, and what
commands do, is made of edits.  A status is noted only for a message that has arrived, and
that the status handler of a session is there for.
-/

namespace Station

variable {before after station : Station} {session : Nat} {message : Json}

/-- A message is one that the status handler of a session is there for. -/
def Notes (station : Station) (session : Nat) (message : Json) : Prop :=
  ∃ method owner, message.get? "method" = some method ∧ station.session? session = some owner ∧
    owner.handler? method = some .status

theorem Notes.of_registry
    (notes : after.Notes session message)
    (same : after.desk.registry = before.desk.registry) :
    before.Notes session message := by
  obtain ⟨method, owner, named, owns, handled⟩ := notes
  have sameSession : after.session? session = before.session? session :=
    congrArg (Registry.get? · session) same
  exact ⟨method, owner, named, sameSession.symm.trans owns, handled⟩

/-- A message is what the reader of a session finds in a phase. -/
def Finds
    (station : Station)
    (session : Nat)
    (phase : Wire.ReadPhase)
    (message : Json) : Prop :=
  ∃ process stream, station.clientProcess? session = some process ∧
    Wire.read phase process.output.stream = .finished (.ok message) stream

/-- What is found where nobody reads was there to be found. -/
theorem Finds.of_idle
    {number : Nat}
    {phase : Wire.ReadPhase}
    (finds : (station.modifyProcess number fun process =>
      { process with output := { process.output with reader := none } }).Finds session phase
        message) :
    station.Finds session phase message := by
  obtain ⟨process, stream, isProcess, whole⟩ := finds
  obtain ⟨client, isClient, isThere⟩ := Option.bind_eq_some_iff.mp isProcess
  rw [process?_modifyProcess] at isThere
  obtain ⟨old, wasThere, rfl⟩ := Option.map_eq_some_iff.mp isThere
  refine ⟨old, stream, Option.bind_eq_some_iff.mpr ⟨client, isClient, wasThere⟩, ?_⟩
  split at whole <;> exact whole

end Station

namespace Move

variable {α : Type} {scope : Scope} {known : Nat} {base station : Station}

section

variable (held : base.ReworkedWithin scope known station)

include held

/-! ## Supplied code -/

theorem manages_endCode
    (code : Code)
    (arguments : List Json) :
    Manages scope known base station (endCode code arguments) := by
  refine (reworks_observe held _).bind fun _ _ held _ => ?_
  split
  · exact manages_give held _
  · exact manages_give held _

theorem manages_callCode
    (code : Code)
    (arguments : List Json) :
    Manages scope known base station (callCode code arguments) := by
  unfold callCode
  split
  · exact manages_endCode held code arguments
  · split
    · exact retains_pure held ((Next.isGiven_of_noFrames .yield).into trivial)
    · refine (retains_newPromise held .tick).bind fun promise _ held new => ?_
      exact Retains.bind (reworks_modifyLoop held (.timer new.1 _)) fun _ _ held _ =>
        manages_await held promise trivial

theorem manages_afterSleep
    (code : Code)
    (arguments : List Json)
    (time : Option Nat)
    (outcome : Outcome) :
    Manages scope known base station (afterSleep code arguments time outcome) := by
  unfold afterSleep
  split
  · exact manages_endCode held code arguments
  · dsimp only
    split
    · exact (reworks_cancelTimer held _).bind fun _ _ held _ => manages_give held _
    · exact manages_give held _

/-! ## Messages from the server -/

/-- A handler is called; that of statuses only with what has arrived. -/
theorem manages_callHandler
    {session : Session}
    {id : Nat}
    {message method : Json}
    {handler : Handler}
    (arrived : .arrived id message ∈ station.chronicle)
    (owns : station.session? id = some session)
    (named : message.get? "method" = some method)
    (handled : session.handler? method = some handler)
    (hears : station.Notes id message → scope.hears id) :
    Manages scope known base station
      (callHandler session (message.getD "params") handler) := by
  cases handler with
  | status =>
      have cleared : base.ReworkedWithin scope known
          { station with desk := { station.desk with orders := [] } } :=
        reworked_papers held ⟨.refl _, rfl, rfl, rfl, List.nil_subset _⟩
      have heard := cleared.edit
        (.heard (hears ⟨method, session, named, owns, handled⟩) arrived owns named handled)
      have noted : Reworks scope known base station
          (atDesk (Act.noteStatus session (message.getD "params"))) := by
        unfold Reworks Retains
        rw [perform_atDesk (Act.keeps_noteStatus session _).spares]
        exact ⟨heard, fun _ _ => trivial⟩
      exact noted.bind fun _ _ held _ => manages_give held _
  | applyEdit =>
      exact (reworks_papers held (Act.leavesSessions_answerApplyEdit session _)).bind
        fun _ _ held _ => manages_give held _
  | supplied code =>
      exact manages_callCode held code _
  | value value =>
      exact retains_throw held

theorem retains_dispatchArrived
    {id : Nat}
    {message method : Json}
    (arrived : .arrived id message ∈ station.chronicle)
    (named : message.get? "method" = some method)
    (hears : station.Notes id message → scope.hears id) :
    Retains (base.ReworkedWithin scope known) station (dispatch id method (message.getD "params"))
      fun found _ => ∀ next, found = some next → next.IsGiven scope.gives := by
  refine (retains_session held id).bind fun session mid held owns => ?_
  obtain ⟨rfl, owns⟩ := owns
  split
  · refine retains_pure held fun next same => ?_
    cases same
    exact Next.isGiven_of_noFrames _
  · exact retains_pure held nofun
  · rename_i handler found
    have handled : session.handler? method = some handler := by
      unfold findHandler? at found
      split at found
      · cases found
      · cases found
      · exact (Option.filter_eq_some_iff.mp (Except.ok.inj found)).1
    have called : Manages scope known base mid (tryCatch
        (callHandler session (message.getD "params") handler) fun failure =>
          return Next.fail failure) :=
      (manages_callHandler held arrived owns named handled hears).recover fun failure _ held =>
        manages_give held _
    refine called.bind fun next _ held isGiven => retains_pure held ?_
    intro other same
    cases same
    exact isGiven

theorem manages_respond
    (session : Nat)
    (id : Json)
    (body : Except Json Json) :
    Manages scope known base station (respond session id body) :=
  (reworks_write held session _).bind fun _ _ held _ => manages_give held _

theorem manages_answerUnhandled
    (session : Nat)
    (method id params : Json) :
    Manages scope known base station (answerUnhandled session method id params) := by
  unfold answerUnhandled
  split
  · refine (retains_session held session).bind fun owner _ held _ => ?_
    split
    · exact retains_throw held
    · exact manages_respond held session id _
  · split
    · exact manages_respond held session id _
    · exact manages_respond held session id _

theorem manages_handleRequest
    {session : Nat}
    {message method : Json}
    (arrived : .arrived session message ∈ station.chronicle)
    (named : message.get? "method" = some method)
    (hears : station.Notes session message → scope.hears session)
    (id : Json) :
    Manages scope known base station
      (handleRequest session method id (message.getD "params")) := by
  refine retains_say_bind held fun desk same said => ?_
  have hearsSaid := fun notes : ({ station with desk } : Station).Notes session message =>
    hears (notes.of_registry same)
  refine (retains_dispatchArrived said arrived named hearsSaid).bind fun found _ held isGiven => ?_
  split
  · exact retains_pure held ((isGiven _ rfl).into trivial)
  · exact manages_answerUnhandled held session method id _

theorem manages_afterHandler
    (session : Nat)
    (method id : Json)
    (outcome : Outcome) :
    Manages scope known base station (afterHandler session method id outcome) := by
  unfold afterHandler
  split
  · exact manages_respond held session id _
  · exact manages_respond held session id _
  · exact manages_give held _
  · exact (reworks_say held _ _).bind fun _ _ held _ => manages_respond held session id _

theorem manages_handleNotification
    {session : Nat}
    {message method : Json}
    (arrived : .arrived session message ∈ station.chronicle)
    (named : message.get? "method" = some method)
    (hears : station.Notes session message → scope.hears session) :
    Manages scope known base station
      (handleNotification session method (message.getD "params")) := by
  refine retains_say_bind held fun desk same said => ?_
  have hearsSaid := fun notes : ({ station with desk } : Station).Notes session message =>
    hears (notes.of_registry same)
  refine (retains_dispatchArrived said arrived named hearsSaid).bind fun found _ held isGiven => ?_
  refine retains_pure held (Next.IsGiven.into ?_ trivial)
  cases found with
  | none => exact Next.isGiven_of_noFrames _
  | some next => exact isGiven next rfl

theorem reworks_followStatus (session : Nat) :
    Reworks scope known base station (followStatus session) := by
  refine retains_get ?_
  dsimp only
  split
  · rename_i quiet
    exact reworks_edit held (.calm quiet)
  · rename_i restless
    exact reworks_edit held (.stir (eq_false_of_ne_true restless))

theorem manages_afterNotification
    (session : Nat)
    (method : Json)
    (outcome : Outcome) :
    Manages scope known base station (afterNotification session method outcome) := by
  have followed : ∀ {station : Station}, base.ReworkedWithin scope known station →
      Manages scope known base station (do
        if method = .str "experimental/serverStatus" then followStatus session
        return Next.done) := by
    intro station held
    dsimp only
    split
    · exact (reworks_followStatus held session).bind fun _ _ held _ => manages_give held _
    · exact manages_give held _
  unfold afterNotification
  split
  · exact manages_give held _
  · dsimp only
    split
    · exact (reworks_say held _ _).bind fun _ _ held _ => followed held
    · exact followed held

/-- The promise of a request is settled. -/
theorem reworks_settleRequest
    {promise session number : Nat}
    (told : station.loop.topic? promise = some (.answer session number))
    (outcome : Outcome) :
    Reworks scope known base station (settleRequest promise outcome) := by
  refine retains_get ?_
  split
  · exact retains_throw held
  · exact reworks_modifyLoop held (.answer told outcome)

theorem reworks_handleAnswer
    {session number promise : Nat}
    (told : station.loop.topic? promise = some (.answer session number))
    (id : Json)
    (fields : List (String × Json)) :
    Reworks scope known base station (handleAnswer session number promise id fields) := by
  refine retains_modify_bind ?_
  have forgot : base.ReworkedWithin scope known
      (station.modifyClient session fun client => client.forget number) :=
    held.edit (.client session (fun client => List.filter_sublist.subset) fun _ => rfl)
  split
  · exact reworks_settleRequest forgot told _
  · refine retains_say_bind forgot fun desk _ said => ?_
    split
    · exact retains_throw said
    · exact reworks_settleRequest said told _

theorem manages_handleResponse
    (session : Nat)
    (id : Json)
    (fields : List (String × Json)) :
    Manages scope known base station (handleResponse session id fields) := by
  refine (retains_client held session).bind fun client mid held found => ?_
  obtain ⟨rfl, found⟩ := found
  split
  · exact retains_throw held
  · rename_i answered isFor
    dsimp only
    split
    · rename_i number promise
      obtain ⟨_, isPending⟩ := Client.answered?_eq_some isFor
      have told := held.answers session client found _ (client.mem_of_promise? isPending)
      exact (reworks_handleAnswer held told id fields).bind fun _ _ held _ => manages_give held _
    · exact (reworks_say held _ _).bind fun _ _ held _ => manages_give held _

theorem manages_interpret
    {session : Nat}
    {message : Json}
    (arrived : .arrived session message ∈ station.chronicle)
    (hears : station.Notes session message → scope.hears session) :
    Manages scope known base station (interpret session message) := by
  unfold interpret
  split
  · dsimp only
    split
    · rename_i id _ _ named
      have handled := manages_handleRequest held arrived named hears id
      exact handled
    · exact manages_handleResponse held session _ _
    · rename_i named
      have handled := manages_handleNotification held arrived named hears
      exact handled
    · exact retains_throw held
  · exact retains_throw held
  · exact retains_throw held
  · exact retains_throw held

theorem manages_handleMessage
    {session : Nat}
    {message : Json}
    (hears : station.Notes session message → scope.hears session) :
    Manages scope known base station (handleMessage session message) := by
  refine retains_modify_bind ?_
  have arrived : Occurrence.arrived session message ∈
      station.chronicle ++ [.arrived session message] :=
    List.mem_append_right _ (List.mem_singleton_self _)
  have recorded : base.ReworkedWithin scope known { station with
      chronicle := station.chronicle ++ [.arrived session message] } :=
    held.edit (.record nofun)
  exact manages_interpret recorded arrived hears

/-! ## Reading -/

/-- The promises of unanswered requests are settled. -/
theorem reworked_settleAll
    {promises : List Nat}
    (told : ∀ promise ∈ promises, ∃ session number,
      station.loop.topic? promise = some (.answer session number))
    (outcome : Outcome) :
    base.ReworkedWithin scope known
      (station.modifyLoop fun loop => loop.settleAll promises outcome) := by
  induction promises generalizing station with
  | nil =>
      exact held
  | cons promise rest inductionHypothesis =>
      obtain ⟨session, number, isAnswer⟩ := told promise List.mem_cons_self
      have settled := held.edit (.loop (.answer isAnswer outcome))
      refine inductionHypothesis settled fun other member => ?_
      obtain ⟨owner, known, isOther⟩ := told other (List.mem_cons_of_mem _ member)
      exact ⟨owner, known, (Loop.topic?_settle _ _ _ _).trans isOther⟩

theorem reworks_failPending
    (session : Nat)
    (failure : Failure) :
    Reworks scope known base station (failPending session failure) := by
  refine (retains_client held session).bind fun client mid held found => ?_
  obtain ⟨rfl, found⟩ := found
  refine retains_modify (reworked_settleAll held (fun promise member => ?_) _)
  obtain ⟨entry, isPending, rfl⟩ := List.mem_map.mp member
  exact ⟨session, entry.1, held.answers session client found entry isPending⟩

theorem manages_endReading
    (session : Nat)
    (failure : Failure) :
    Manages scope known base station (endReading session failure) := by
  have ends : ∀ {station : Station}, base.ReworkedWithin scope known station →
      Manages scope known base station (do
        failPending session failure
        record (.hungUp session (some failure))
        return Next.done) := by
    intro station held
    refine (reworks_failPending held session failure).bind fun _ _ held _ => ?_
    exact Retains.bind (reworks_record held nofun) fun _ _ held _ => manages_give held _
  unfold endReading
  split
  · exact manages_give held _
  · dsimp only
    split
    · refine (retains_serverHasExited held session).bind fun hasExited _ held _ => ?_
      split
      · exact (reworks_say held _ _).bind fun _ _ held _ => ends held
      · exact ends held
    · exact (reworks_say held _ _).bind fun _ _ held _ => ends held

theorem manages_readOn
    {session : Nat}
    {phase : Wire.ReadPhase}
    (hears : ∀ message, station.Finds session phase message → station.Notes session message →
      scope.hears session) :
    Manages scope known base station (readOn session phase) := by
  have sameReader : ∀ stream (channel : Channel) promise, promise < known →
      channel.reader ≠ some promise → ({ channel with stream } : Channel).reader ≠ some promise :=
    fun _ _ _ _ apart => apart
  refine retains_get ?_
  split
  · exact manages_give held _
  · rename_i process isProcess
    split
    · refine (retains_modifyOutput held session (sameReader _)).bind fun _ _ held _ => ?_
      split
      · exact manages_endReading held session _
      · refine (retains_newPromise held .tick).bind fun promise _ held new => ?_
        refine Retains.bind (retains_modifyOutput held session fun _ other isOld _ same => ?_)
          fun _ _ held _ => manages_await held promise trivial
        cases same
        exact absurd new.1 (Nat.not_le_of_lt isOld)
    · exact (retains_modifyOutput held session (sameReader _)).bind fun _ _ held _ =>
        manages_endReading held session _
    · rename_i message stream whole
      refine (retains_modifyOutput held session (sameReader _)).bind fun _ _ held told => ?_
      obtain ⟨number, rfl⟩ := told
      exact (manages_handleMessage held (hears message ⟨process, stream, isProcess, whole⟩)).manages
        trivial

theorem manages_afterBytes
    {session : Nat}
    {phase : Wire.ReadPhase}
    {outcome : Outcome}
    (hears : ∀ value, outcome = .ok value → ∀ message, station.Finds session phase message →
      station.Notes session message → scope.hears session) :
    Manages scope known base station (afterBytes session phase outcome) := by
  refine Retains.bind (retains_modifyOutput held session fun _ _ _ _ => nofun)
    fun _ _ held told => ?_
  obtain ⟨number, rfl⟩ := told
  cases outcome with
  | ok value =>
      exact manages_readOn held fun message finds notes =>
        hears value rfl message finds.of_idle notes
  | error failure => exact manages_endReading held session failure

theorem manages_afterMessage
    {session : Nat}
    {outcome : Outcome}
    (hears : ∀ value, outcome = .ok value → ∀ message, station.Finds session .initial message →
      station.Notes session message → scope.hears session) :
    Manages scope known base station (afterMessage session outcome) := by
  cases outcome with
  | ok value => exact manages_readOn held (hears value rfl)
  | error failure => exact manages_endReading held session failure

theorem manages_endDraining
    (session : Nat)
    (outcome : Outcome) :
    Manages scope known base station (endDraining session outcome) :=
  Retains.bind (reworks_modifyClient held session (fun _ => List.Subset.refl _) fun _ => rfl)
    fun _ _ held _ => manages_give held outcome

theorem reworks_noteErrors
    (session : Nat)
    (bytes : List UInt8) :
    Reworks scope known base station (noteErrors session bytes) := by
  have appended : ∀ text, Reworks scope known base station (appendLog session text) := by
    intro text
    refine (retains_client held session).bind fun client _ held _ => ?_
    split
    · refine retains_get ?_
      dsimp only
      split
      · exact retains_throw held
      · exact retains_modify (reworked_papers held ⟨.refl _, rfl, rfl, rfl, List.Subset.refl _⟩)
    · exact retains_pure held trivial
  exact (appended _).bind fun _ _ held _ => reworks_say held _ _

theorem manages_drainOn (session : Nat) :
    Manages scope known base station (drainOn session) := by
  refine retains_get ?_
  split
  · exact manages_endDraining held session _
  · split
    · split
      · exact manages_endDraining held session _
      · refine (retains_newPromise held .tick).bind fun promise _ held new => ?_
        refine Retains.bind (reworks_modifyErrors held session fun _ other isOld _ same => ?_)
          fun _ _ held _ => manages_await held promise trivial
        cases same
        exact absurd new.1 (Nat.not_le_of_lt isOld)
    · exact manages_endDraining held session _
    · refine Retains.bind (reworks_modifyErrors held session fun _ _ _ apart => apart)
        fun _ _ held _ => Retains.recover ?_ fun failure _ held =>
          manages_endDraining held session _
      exact (reworks_noteErrors held session _).bind fun _ _ held _ =>
        retains_pure held (Next.isGiven_perform (scope.inner trivial))

theorem manages_afterErrors
    (session : Nat)
    (outcome : Outcome) :
    Manages scope known base station (afterErrors session outcome) := by
  refine Retains.bind (reworks_modifyErrors held session fun _ _ _ _ => nofun)
    fun _ _ held _ => ?_
  cases outcome with
  | ok value => exact manages_drainOn held session
  | error failure => exact manages_endDraining held session _

/-! ## The life of a client -/

theorem manages_greet (id : Nat) : Manages scope known base station (greet id) := by
  have rooted : ∀ {station : Station} (session : Session), base.ReworkedWithin scope known station →
      Reworks scope known base station (rootUri session) := by
    intro station session held
    unfold rootUri
    split
    · exact retains_pure held trivial
    · refine retains_get ?_
      split
      · exact retains_pure held trivial
      · exact retains_throw held
  refine (retains_session held id).bind fun session _ held _ => retains_get ?_
  refine (rooted session held).bind fun uri _ held _ => ?_
  dsimp only
  split
  · exact retains_throw held
  · exact (manages_request held id _ _ _).manages trivial

theorem reworks_openLog (session : Nat) :
    Reworks scope known base station (openLog session) := by
  refine (retains_client held session).bind fun client _ held _ => ?_
  split
  · exact retains_pure held trivial
  · refine (reworks_changeDisk held _).bind fun _ _ held _ => ?_
    refine (reworks_changeDisk held _).bind fun _ _ held _ => ?_
    exact reworks_modifyClient held session (fun _ => List.Subset.refl _) fun _ => rfl

theorem manages_startClient (session : Nat) :
    Manages scope known base station (startClient session) := by
  refine Retains.bind (reworks_spawn held (scope.inner trivial)) fun reader _ held _ => ?_
  refine Retains.bind (reworks_modifyClient held session (fun _ => List.Subset.refl _)
    fun _ => rfl) fun _ _ held _ => retains_get ?_
  split
  · refine (reworks_openLog held session).bind fun _ _ held _ => ?_
    refine Retains.bind (reworks_spawn held (scope.inner trivial)) fun drain _ held _ => ?_
    exact Retains.bind (reworks_modifyClient held session (fun _ => List.Subset.refl _)
      fun _ => rfl) fun _ _ held _ => manages_greet held session
  · exact manages_greet held session

theorem manages_acceptHandshake
    (session : Nat)
    (answer : Json) :
    Manages scope known base station (acceptHandshake session answer) := by
  unfold acceptHandshake
  split
  · exact retains_throw held
  · refine Retains.bind (reworks_modifySession held session fun _ => rfl) fun _ _ held _ => ?_
    refine (manages_notify held session _ _).bind fun _ _ held _ => ?_
    refine Retains.bind (reworks_modifyClient held session (fun _ => List.Subset.refl _)
      fun _ => rfl) fun _ _ held _ => ?_
    split
    · exact (reworks_say held _ _).bind fun _ _ held _ => manages_give held _
    · exact manages_give held _

theorem manages_afterHandshake
    (session : Nat)
    (outcome : Outcome) :
    Manages scope known base station (afterHandshake session outcome) := by
  unfold afterHandshake
  split
  · exact manages_acceptHandshake held session _
  · exact manages_acceptHandshake held session _
  · exact manages_give held _

theorem manages_endStop
    (session : Nat)
    (outcome : Outcome) :
    Manages scope known base station (endStop session outcome) :=
  Retains.bind (reworks_record held nofun) fun _ _ held _ => manages_give held outcome

theorem manages_awaitDeparture (session : Nat) :
    Manages scope known base station (awaitDeparture session) := by
  refine (retains_client held session).bind fun client _ held _ => ?_
  refine (retains_serverHasExited held session).bind fun hasExited _ held _ => ?_
  split
  · exact manages_endStop held session _
  · exact Retains.manages
      (manages_performWithin held (.awaitExit _) (scope.inner trivial) patience) trivial

theorem manages_stopClient (session : Nat) :
    Manages scope known base station (stopClient session) := by
  refine (retains_client held session).bind fun client _ held _ => ?_
  refine (retains_serverHasExited held session).bind fun hasExited _ held _ => ?_
  split
  · exact Retains.manages
      (manages_performWithin held (.request _ _ _ _) (scope.inner trivial) patience) trivial
  · exact manages_awaitDeparture held session

theorem manages_leaveShutdown
    (session : Nat)
    (failure : Option Failure) :
    Manages scope known base station (leaveShutdown session failure) := by
  cases failure with
  | none =>
      exact manages_awaitDeparture held session
  | some failure =>
      unfold leaveShutdown
      dsimp only
      split
      · exact (reworks_say held _ _).bind fun _ _ held _ => manages_awaitDeparture held session
      · exact manages_endStop held session _

theorem manages_afterShutdown
    (session : Nat)
    (outcome : Outcome) :
    Manages scope known base station (afterShutdown session outcome) := by
  cases outcome with
  | ok value =>
      have asked : Reworks scope known base station (askToExit session) :=
        Retains.recover ((manages_notify held session _ _).bind fun _ _ held _ =>
          retains_pure held trivial) fun _ _ held => retains_pure held trivial
      exact asked.bind fun failure _ held _ => manages_leaveShutdown held session failure
  | error failure =>
      exact manages_leaveShutdown held session _

theorem manages_afterGrace
    (session : Nat)
    (outcome : Outcome) :
    Manages scope known base station (afterGrace session outcome) := by
  unfold afterGrace
  split
  · exact manages_endStop held session _
  · refine (retains_client held session).bind fun client _ held _ => ?_
    refine (reworks_signal held session _).bind fun _ _ held _ => ?_
    exact Retains.manages
      (manages_performWithin held (.awaitExit _) (scope.inner trivial) patience) trivial
  · exact manages_endStop held session _

theorem manages_afterLastGrace
    (session : Nat)
    (outcome : Outcome) :
    Manages scope known base station (afterLastGrace session outcome) := by
  unfold afterLastGrace
  split
  · exact manages_endStop held session _
  · exact (reworks_signal held session _).bind fun _ _ held _ => manages_endStop held session _
  · exact manages_endStop held session _

/-! ## Waiting for a session -/

theorem manages_awaitQuiescent
    (session : Nat)
    (timeout : Json) :
    Manages scope known base station (awaitQuiescent session timeout) := by
  refine retains_get ?_
  split
  · exact manages_give held _
  · exact Retains.manages
      (manages_performWithin held (.awaitFlag _) (scope.inner trivial) timeout) trivial

theorem manages_awaitQuiescentFor
    (session : Nat)
    (limit : Limit) :
    Manages scope known base station (awaitQuiescentFor session limit) := by
  refine retains_get ?_
  split
  · exact manages_give held _
  · exact Retains.manages (manages_performFor held (.awaitFlag _) (scope.inner trivial) limit)
      trivial

theorem manages_afterQuiescent
    (session : Nat)
    (outcome : Outcome) :
    Manages scope known base station (afterQuiescent session outcome) := by
  unfold afterQuiescent
  split
  · exact manages_give held _
  · exact (retains_session held session).bind fun _ _ held _ =>
      (reworks_say held _ _).bind fun _ _ held _ => manages_give held _
  · exact manages_give held _

theorem manages_awaitReady
    (session : Nat)
    (timeout : Json) :
    Manages scope known base station (awaitReady session timeout) := by
  unfold awaitReady
  split
  · exact retains_throw held
  · refine retains_get ?_
    split
    · exact manages_give held _
    · exact Retains.manages (manages_performFor held (.awaitFlag _) (scope.inner trivial) _) trivial

theorem manages_afterReadiness
    (session : Nat)
    (outcome : Outcome) :
    Manages scope known base station (afterReadiness session outcome) := by
  unfold afterReadiness
  split
  · exact retains_get (manages_give held _)
  · exact manages_give held _
  · exact manages_give held _

theorem manages_awaitClosed (session : Nat) :
    Manages scope known base station (awaitClosed session) := by
  refine retains_get ?_
  split
  · exact manages_give held _
  · exact manages_await held _ trivial

theorem manages_afterCancellation (outcome : Outcome) :
    Manages scope known base station (afterCancellation outcome) := by
  unfold afterCancellation
  split
  · exact manages_give held _
  · exact manages_give held _
  · exact manages_give held _

/-! ## Commands -/

theorem manages_runAction
    (id : Nat)
    (arguments : List Json)
    (action : LeafAction) :
    Manages scope known base station (runAction id arguments action) := by
  have sends : ∀ {station : Station}, base.ReworkedWithin scope known station →
      Manages scope known base station (do
        let session ← session id
        let message ← atDesk (Act.leafMessage session action arguments)
        if message.isRequest then
          into (sendRequest id message.method message.params) (.leafAnswered action)
        else sendNotification id message.method message.params) := by
    intro station held
    refine (retains_session held id).bind fun owner _ held _ => ?_
    refine (reworks_papers held (Act.leavesSessions_leafMessage owner action arguments)).bind
      fun message _ held _ => ?_
    split
    · exact (manages_sendRequest held id _ _).manages trivial
    · exact manages_sendNotification held id _ _
  unfold runAction
  split
  · exact manages_callCode held _ arguments
  · dsimp only
    split
    · exact (reworks_connection held id _).bind fun _ _ held _ => sends held
    · exact sends held

theorem manages_runLeaf
    (session : Nat)
    (leaf : String)
    (arguments : List Json) :
    Manages scope known base station (runLeaf session leaf arguments) :=
  (reworks_papers held (Act.leavesSessions_leafAction leaf _)).bind fun action _ held _ =>
    manages_runAction held session arguments action

theorem manages_afterLeaf
    (action : LeafAction)
    (outcome : Outcome) :
    Manages scope known base station (afterLeaf action outcome) := by
  unfold afterLeaf
  split
  · split
    · exact manages_give held _
    · exact manages_give held _
  · exact manages_give held _

theorem manages_reloadFor
    (session : Nat)
    (file : String) :
    Manages scope known base station (reloadFor session file) := by
  refine (reworks_papers held (Act.leavesSessions_concernsManifest session _)).bind
    fun concerned _ held _ => ?_
  split
  · exact manages_runLeaf held session reloadLeaf []
  · exact manages_give held _

theorem manages_run
    (arguments : List Json)
    (action : Action) :
    Manages scope known base station (run arguments action) := by
  cases action with
  | start =>
      exact Retains.bind (reworks_atDesk held fun _ => .start [] none)
        fun _ _ held _ => manages_give held _
  | stop =>
      exact Retains.bind (reworks_atDesk held fun _ => .stop none)
        fun _ _ held _ => manages_give held _
  | leaf binding =>
      exact (reworks_papers held Act.leavesSessions_targetSession).bind fun session _ held _ =>
        manages_runLeaf held session.id binding.leaf _
  | reload session =>
      exact manages_reloadFor held session _
  | supplied code =>
      exact manages_callCode held code arguments

theorem manages_runCommand
    (name : String)
    (arguments : List Json) :
    Manages scope known base station (runCommand name arguments) := by
  refine retains_get ?_
  split
  · exact retains_throw held
  · exact manages_run held arguments _

theorem manages_fireAll
    (path : String)
    (count : Nat)
    (commands : List (AutoCommand Action)) :
    Manages scope known base station (fireAll path count commands) := by
  cases commands with
  | nil => exact manages_give held _
  | cons command rest => exact (manages_run held _ _).manages trivial

theorem manages_fire (event file : String) :
    Manages scope known base station (fire event file) :=
  retains_get (manages_fireAll held file _ _)

theorem manages_afterFiring
    (rest : List (AutoCommand Action))
    (path : String)
    (count : Nat)
    (outcome : Outcome) :
    Manages scope known base station (afterFiring rest path count outcome) := by
  cases outcome with
  | ok value => exact manages_fireAll held path count rest
  | error failure => exact manages_give held _

theorem manages_writeBuffer (chosen : Option Int) :
    Manages scope known base station (writeBuffer chosen) := by
  refine (reworks_papers held (Act.leavesSessions_chosenBuffer chosen)).bind
    fun number _ held _ => ?_
  refine (reworks_papers held (Act.reads_buffer number).leavesSessions).bind fun buffer _ held _ => ?_
  dsimp only
  split
  · exact retains_throw_bind held
  · refine retains_get ?_
    split
    · exact retains_throw held
    · refine Retains.bind (retains_modify (reworked_papers held ?_)) fun _ _ held _ => ?_
      · exact ⟨.refl _, rfl, rfl, rfl, List.Subset.refl _⟩
      · exact (manages_fire held writeEvent buffer.name).manages trivial

theorem manages_afterDiscarded (outcome : Outcome) :
    Manages scope known base station (afterDiscarded outcome) := by
  cases outcome with
  | ok value => exact manages_give held _
  | error failure => exact manages_give held _

theorem manages_check
    (path : Path)
    (timeout : Json) :
    Manages scope known base station (check path timeout) := by
  refine (reworks_papers held (Act.leavesSessions_openBuffer path none true)).bind
    fun buffer _ held _ => ?_
  refine Retains.bind (reworks_atDesk held fun _ => .start [] (some buffer)) fun started _ held _ => ?_
  split
  · exact manages_give held _
  · exact (manages_awaitReady held _ timeout).manages trivial

theorem manages_afterCheckedReady
    (id : Nat)
    (buffer : Int)
    (outcome : Outcome) :
    Manages scope known base station (afterCheckedReady id buffer outcome) := by
  cases outcome with
  | error failure =>
      exact manages_give held _
  | ok value =>
      refine (retains_session held id).bind fun owner _ held _ => ?_
      refine Retains.bind (reworks_atDesk held fun _ => .stop (some buffer)) fun _ _ held _ => ?_
      exact (manages_awaitClosed held id).manages trivial

theorem manages_afterCheckedClosed
    (report : Json)
    (outcome : Outcome) :
    Manages scope known base station (afterCheckedClosed report outcome) := by
  cases outcome with
  | ok value => exact manages_give held _
  | error failure => exact manages_give held _

end

end Move

end AnalyzerSessions
