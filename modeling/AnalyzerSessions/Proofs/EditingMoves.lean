import AnalyzerSessions.Proofs.StationEdits

namespace AnalyzerSessions

/-!
# Moves that edit a station

Every move is made of edits, wherever it is made and also when it fails.  What is next
after one goes on in frames that have no part in the closing of a client and decide about
no session; the moves that close a client, and those that wait for a session to be ready,
are taken last.
-/

/-- What is next goes on in frames in which some jobs are begun at most, which have no part in the closing
of a client and decide about no session. -/
def Next.IsGiven (gives : Job → Prop) (next : Next) : Prop :=
  ∀ frame ∈ next.frames, frame.IsGiven gives

/-- What is next goes on in frames that have no part in the closing of a client and decide about no
session. -/
abbrev Next.IsManaged (next : Next) : Prop :=
  next.IsGiven Job.IsManaged

section

variable {gives : Job → Prop} {next : Next} {frame : Frame} {job : Job}

theorem Next.isGiven_of_noFrames (pause : Pause) : Next.IsGiven gives ⟨[], pause⟩ :=
  fun _ member => (List.not_mem_nil member).elim

theorem Next.isGiven_perform (given : gives job) : (Next.perform job).IsGiven gives := by
  intro frame member
  cases List.mem_singleton.mp member
  exact given

theorem Next.IsGiven.into
    (isGiven : next.IsGiven gives)
    (given : frame.IsGiven gives) :
    (next.into frame).IsGiven gives := by
  intro known member
  rcases List.mem_append.mp member with old | isLast
  · exact isGiven known old
  · cases List.mem_singleton.mp isLast
    exact given

end

/-- A frame in which a promise is waited for until its time is over. -/
inductive Frame.IsLimit (promise : Nat) : Frame → Prop where
  | deadline (time : Nat) :
      IsLimit promise (.deadline promise time)
  | expired :
      IsLimit promise (.expired promise)
  | abandoned (time : Nat) :
      IsLimit promise (.abandoned time)

theorem Frame.IsLimit.isGiven
    {gives : Job → Prop}
    {frame : Frame}
    {promise : Nat}
    (isLimit : frame.IsLimit promise) :
    frame.IsGiven gives := by
  cases isLimit <;> trivial

/-- What comes of waiting for a promise for a limited time: a value that it has come to, a failure, or
more waiting. -/
inductive Next.Limits (station : Station) (promise : Nat) : Next → Prop where
  | gives {outcome : Outcome}
      (told : ∀ value, outcome = .ok value → station.loop.outcome? promise = some (.ok value)) :
      Limits station promise (.give outcome)
  | awaits {waiter : Nat} {frame : Frame}
      (isLimit : frame.IsLimit promise) :
      Limits station promise ((Next.await waiter).into frame)

theorem Next.Limits.isGiven
    {gives : Job → Prop}
    {station : Station}
    {promise : Nat}
    {next : Next}
    (limits : next.Limits station promise) :
    next.IsGiven gives := by
  cases limits with
  | gives told => exact Next.isGiven_of_noFrames _
  | awaits isLimit => exact (Next.isGiven_of_noFrames _).into isLimit.isGiven

namespace Move

variable {α β : Type} {scope : Scope} {known : Nat} {base station : Station}

/-- A move edits a station further. -/
abbrev Reworks
    (scope : Scope)
    (known : Nat)
    (base station : Station)
    (move : Move α) : Prop :=
  Retains (base.ReworkedWithin scope known) station move fun _ _ => True

/-- A move edits a station further, and what is next is left to frames that have no part in the closing
of a client and decide about no session. -/
abbrev Manages
    (scope : Scope)
    (known : Nat)
    (base station : Station)
    (move : Move Next) : Prop :=
  Retains (base.ReworkedWithin scope known) station move fun next _ => next.IsGiven scope.gives

/-- A change before a move. -/
theorem retains_modify_bind
    {holds : Station → Prop}
    {change : Station → Station}
    {next : Unit → Move β}
    {gives : β → Station → Prop}
    (kept : Retains holds (change station) (next ()) gives) :
    Retains holds station (modify change >>= next) gives :=
  kept

theorem Retains.into
    {holds : Station → Prop}
    {move : Move Next}
    {frame : Frame}
    {gives tells : Next → Station → Prop}
    (retains : Retains holds station move gives)
    (fails : ∀ failure after, holds after → gives (.fail failure) after)
    (framed : ∀ next after, gives next after → tells (next.into frame) after) :
    Retains holds station (Move.into move frame) tells :=
  (retains.recover fun failure mid held => retains_pure held (fails failure mid held)).bind
    fun next mid held gave => retains_pure held (framed next mid gave)

theorem Retains.manages
    {move : Move Next}
    {frame : Frame}
    (manages : Manages scope known base station move)
    (given : frame.IsGiven scope.gives) :
    Manages scope known base station (Move.into move frame) :=
  Retains.into manages (fun _ _ _ => Next.isGiven_of_noFrames _)
    fun _ _ isGiven => isGiven.into given

section

variable (held : base.ReworkedWithin scope known station)

include held

/-! ## Parts -/

theorem manages_give (outcome : Outcome) :
    Manages scope known base station (pure (Next.give outcome)) :=
  retains_pure held (Next.isGiven_of_noFrames _)

theorem manages_await
    {frame : Frame}
    (promise : Nat)
    (given : frame.IsGiven scope.gives) :
    Manages scope known base station (pure ((Next.await promise).into frame)) :=
  retains_pure held ((Next.isGiven_of_noFrames (.await promise)).into given)

theorem reworks_edit
    {change : Station → Station}
    (edit : station.EditWithin scope known (change station)) :
    Reworks scope known base station (modify change) :=
  retains_modify (held.edit edit)

theorem reworks_modifyLoop
    {change : Loop Frame → Loop Frame}
    (edit : station.loop.EditBy scope.gives known (change station.loop)) :
    Reworks scope known base station (modifyLoop change) :=
  reworks_edit held (.loop edit)

/-- A new promise is none of those that were there. -/
theorem retains_newPromise (topic : Topic) :
    Retains (base.ReworkedWithin scope known) station (newPromise topic) fun promise after =>
      known ≤ promise ∧ promise = station.loop.promises.length ∧
        after = station.modifyLoop fun loop => (loop.newPromise topic).2 :=
  ⟨held.edit (.loop (.promise topic)), fun promise same => by
    cases same
    exact ⟨held.below, rfl, rfl⟩⟩

theorem reworks_spawn
    {job : Job}
    (given : scope.gives job) :
    Reworks scope known base station (spawn job) :=
  ⟨held.edit (.loop (.spawn given)), fun _ _ => trivial⟩

theorem reworks_record
    {occurrence : Occurrence}
    (ordinary : ∀ session, occurrence ≠ .hungUp session none) :
    Reworks scope known base station (record occurrence) :=
  reworks_edit held (.record ordinary)

/-- The desk may change in what does not concern sessions. -/
theorem reworked_papers
    {desk : Desk}
    (leaves : station.desk.LeavesSessions desk) :
    base.ReworkedWithin scope known { station with desk } :=
  held.edit (.desk (.leaves leaves))

theorem reworks_observe (event : Event) :
    Reworks scope known base station (observe event) :=
  retains_modify (reworked_papers held ⟨.refl _, rfl, rfl, rfl, List.Subset.refl _⟩)

theorem reworks_say
    (level : Level)
    (text : String) :
    Reworks scope known base station (say level text) :=
  retains_modify (reworked_papers held ⟨.refl _, rfl, rfl, rfl, List.Subset.refl _⟩)

/-- A line in the log before a move leaves all but the desk as it is, and the sessions there. -/
theorem retains_say_bind
    {level : Level}
    {text : String}
    {next : Unit → Move β}
    {gives : β → Station → Prop}
    (kept : ∀ desk, desk.registry = station.desk.registry →
      base.ReworkedWithin scope known { station with desk } →
        Retains (base.ReworkedWithin scope known) { station with desk } (next ()) gives) :
    Retains (base.ReworkedWithin scope known) station (say level text >>= next) gives :=
  kept _ rfl (reworked_papers held ⟨.refl _, rfl, rfl, rfl, List.Subset.refl _⟩)

theorem reworks_modifyClient
    (session : Nat)
    {change : Client → Client}
    (pending : ∀ client, (change client).pending ⊆ client.pending)
    (sameFlag : ∀ client, (change client).quiescent = client.quiescent) :
    Reworks scope known base station (modifyClient session change) :=
  reworks_edit held (.client session pending sameFlag)

theorem reworks_modifyRun
    (session : Nat)
    {change : Run → Run}
    (sameSession : ∀ run, (change run).session = run.session)
    (sameFlag : ∀ run, (change run).settled = run.settled)
    (sameClient : ∀ run, (change run).client = run.client) :
    Reworks scope known base station (modifyRun session change) :=
  reworks_edit held (.run session sameSession sameFlag sameClient)

theorem reworks_changeDisk (change : Disk → Except FileError Disk) :
    Reworks scope known base station (changeDisk change) := by
  refine retains_get ?_
  split
  · exact retains_throw held
  · exact retains_modify (reworked_papers held ⟨.refl _, rfl, rfl, rfl, List.Subset.refl _⟩)

theorem retains_serverHasExited (session : Nat) :
    Retains (base.ReworkedWithin scope known) station (serverHasExited session)
      fun _ after => after = station :=
  retains_get (retains_pure held rfl)

/-! ## At the desk -/

theorem reworks_launch (session : Nat) : Reworks scope known base station (launch session) :=
  Retains.bind (reworks_spawn held (scope.inner trivial)) fun task _ held _ =>
    reworks_edit held (.enlist session task)

theorem reworks_terminate (session : Nat) :
    Reworks scope known base station (terminate session) := by
  refine retains_get ?_
  split
  · exact Retains.bind (reworks_spawn held (scope.inner trivial)) fun _ _ held _ =>
      retains_pure held trivial
  · split
    · exact reworks_modifyLoop held (.cancel _)
    · exact retains_pure held trivial

theorem reworks_carryOut (order : Order) :
    Reworks scope known base station (carryOut order) := by
  refine retains_get ?_
  split
  · exact reworks_observe held _
  · exact reworks_observe held _
  · exact reworks_launch held _
  · exact reworks_terminate held _

theorem reworks_carryOutAll (orders : List Order) :
    Reworks scope known base station (carryOutAll orders) := by
  induction orders generalizing station with
  | nil =>
      exact retains_pure held trivial
  | cons order rest inductionHypothesis =>
      exact (reworks_carryOut held order).bind fun _ _ held _ => inductionHypothesis held

omit held in
/-- When a station is edited by what is done at a desk, what is ordered there is carried out. -/
theorem reworks_atDesk_of
    {act : Act α}
    (done : base.ReworkedWithin scope known
      { station with desk := Act.after act { station.desk with orders := [] } }) :
    Reworks scope known base station (atDesk act) := by
  refine retains_get ?_
  unfold Act.after Act.perform at done
  generalize (ExceptT.run act).run { station.desk with orders := [] } = result at done ⊢
  obtain ⟨outcome, desk⟩ := result
  have handedOut : base.ReworkedWithin scope known
      { station with desk := { desk with orders := [] } } :=
    reworked_papers done ⟨.refl _, rfl, rfl, rfl, List.nil_subset _⟩
  have changed : Reworks scope known base station
      (set { station with desk := { desk with orders := [] } }) :=
    ⟨handedOut, fun _ _ => trivial⟩
  refine changed.bind fun _ _ held _ => ?_
  refine (reworks_carryOutAll held desk.orders).bind fun _ _ held _ => ?_
  cases outcome with
  | ok value => exact retains_pure held trivial
  | error failure => exact retains_throw held

/-- A deed is done at a desk, and what is ordered there is carried out. -/
theorem reworks_atDesk
    {act : Act α}
    (deed : ∀ desk : Desk, desk.Deed (Act.after act desk)) :
    Reworks scope known base station (atDesk act) := by
  have cleared : base.ReworkedWithin scope known
      { station with desk := { station.desk with orders := [] } } :=
    reworked_papers held ⟨.refl _, rfl, rfl, rfl, List.nil_subset _⟩
  exact reworks_atDesk_of (cleared.edit (.desk (deed _)))

theorem reworks_papers
    {act : Act α}
    (leaves : act.LeavesSessions) :
    Reworks scope known base station (atDesk act) :=
  reworks_atDesk held fun desk => .leaves (leaves desk)

theorem reworks_modifySession
    (id : Nat)
    {change : Session → Session}
    (same : ∀ session, (change session).essence = session.essence) :
    Reworks scope known base station (modifySession id change) :=
  reworks_atDesk held fun _ => .revise id same

/-! ## Servers -/

theorem reworked_signal
    (number : Nat)
    (sent : Signal) :
    base.ReworkedWithin scope known (station.signal number sent) := by
  unfold Station.signal
  split
  · exact held
  · have noted : base.ReworkedWithin scope known (station.modifyProcess number fun process =>
        { process with received := process.received ++ [sent] }) :=
      held.edit (.process number fun _ _ _ ignores =>
        ⟨ignores.output, ignores.errors, ignores.exit⟩)
    dsimp only
    split
    · exact noted
    · exact noted.edit (.exit number _)

theorem reworked_react
    (number : Nat)
    (message : Json) :
    base.ReworkedWithin scope known (station.react number message) := by
  have reacts : ∀ (reactions : List Reaction) (station : Station),
      base.ReworkedWithin scope known station → base.ReworkedWithin scope known (reactions.foldl
        (fun station reaction => station.doReaction number reaction) station) := by
    intro reactions
    induction reactions with
    | nil =>
        exact fun _ held => held
    | cons reaction rest inductionHypothesis =>
        intro station held
        refine inductionHypothesis _ ?_
        cases reaction with
        | send message =>
            exact held.edit (.output number fun stream => stream.feed (Wire.frame message))
        | exit code => exact held.edit (.exit number code)
  unfold Station.react
  split
  · exact held
  · exact reacts _ station held

theorem reworks_write
    (session : Nat)
    (message : Json) :
    Reworks scope known base station (write session message) := by
  refine (retains_client held session).bind fun client _ held _ => ?_
  split
  · exact retains_throw_bind held
  · refine retains_get ?_
    split
    · exact retains_pure held trivial
    · split
      · exact retains_throw held
      · refine (reworks_observe held _).bind fun _ _ held _ => ?_
        refine Retains.bind (reworks_record held nofun) fun _ _ held _ => ?_
        exact retains_modify (reworked_react held client.process message)

/-- Only the channel on which a server sends messages changes. -/
theorem retains_modifyOutput
    (session : Nat)
    {change : Channel → Channel}
    (ignores : ∀ channel promise, promise < known → channel.reader ≠ some promise →
      (change channel).reader ≠ some promise) :
    Retains (base.ReworkedWithin scope known) station (modifyOutput session change) fun _ after =>
      ∃ number, after = station.modifyProcess number fun process =>
        { process with output := change process.output } := by
  refine (retains_client held session).bind fun client mid held found => ?_
  obtain ⟨rfl, -⟩ := found
  have changed : base.ReworkedWithin scope known (mid.modifyProcess client.process fun process =>
      { process with output := change process.output }) :=
    held.edit (.process client.process fun process promise isOld old =>
      ⟨ignores process.output promise isOld old.output, old.errors, old.exit⟩)
  exact ⟨changed, fun _ same => ⟨client.process, rfl⟩⟩

theorem reworks_modifyErrors
    (session : Nat)
    {change : Channel → Channel}
    (ignores : ∀ channel promise, promise < known → channel.reader ≠ some promise →
      (change channel).reader ≠ some promise) :
    Reworks scope known base station (modifyErrors session change) := by
  refine (retains_client held session).bind fun client _ held _ => ?_
  refine reworks_edit held (.process client.process fun process promise isOld old =>
    ⟨old.output, fun channel logs => ?_, old.exit⟩)
  obtain ⟨errors, isErrors, rfl⟩ := Option.map_eq_some_iff.mp logs
  exact ignores errors promise isOld (old.errors errors isErrors)

theorem reworks_signal
    (session : Nat)
    (sent : Signal) :
    Reworks scope known base station (signal session sent) :=
  (retains_client held session).bind fun client _ held _ =>
    retains_modify (reworked_signal held client.process sent)

/-! ## Waiting -/

theorem manages_awaitFlag (signpost : Signpost) :
    Manages scope known base station (awaitFlag signpost) := by
  refine retains_get ?_
  dsimp only
  split
  · exact manages_give held _
  · refine (retains_newPromise held .tick).bind fun promise after held new => ?_
    obtain ⟨isNew, -, rfl⟩ := new
    refine Retains.bind (reworks_edit held ?_) fun _ _ held _ =>
      retains_pure held (Next.isGiven_of_noFrames _)
    have sameFlag : station.flag signpost =
        (station.modifyLoop fun loop => (loop.newPromise .tick).2).flag signpost := by
      cases signpost <;> rfl
    rw [sameFlag]
    exact .await signpost isNew

theorem manages_awaitExit (number : Nat) :
    Manages scope known base station (awaitExit number) := by
  refine retains_get ?_
  split
  · exact manages_give held _
  · split
    · exact manages_give held _
    · refine (retains_newPromise held _).bind fun promise _ held new => ?_
      refine Retains.bind (reworks_edit held (.process number fun process other isOld ignores =>
        ⟨ignores.output, ignores.errors, fun waits => ?_⟩)) fun _ _ held _ =>
          retains_pure held (Next.isGiven_of_noFrames _)
      rcases List.mem_append.mp waits with old | isLast
      · exact ignores.exit old
      · cases List.mem_singleton.mp isLast
        exact absurd new.1 (Nat.not_le_of_lt isOld)

/-- What is cancelled is waited for. -/
theorem retains_cancelAndWait
    (promise : Nat)
    (frame : Frame) :
    Retains (base.ReworkedWithin scope known) station (cancelAndWait promise frame)
      fun next _ => ∃ waiter, next = (Next.await waiter).into frame := by
  refine (retains_newPromise held .tick).bind fun waiter mid held new => ?_
  have released := held.edit (.loop (.release promise new.1))
  exact Retains.bind (retains_modify (released.edit (.loop (.cancel promise))))
    fun _ _ held _ => retains_pure held ⟨waiter, rfl⟩

/-- Waiting for a promise for a limited time ends with what it has come to, or waits. -/
theorem limits_awaitFor
    (promise : Nat)
    (seconds : Number.Binary64) :
    Retains (base.ReworkedWithin scope known) station (awaitFor promise seconds)
      fun next _ => next.Limits station promise := by
  unfold awaitFor
  split
  · refine retains_get ?_
    split
    · rename_i outcome settled
      exact retains_pure held (.gives fun value same => same ▸ settled)
    · refine (retains_cancelAndWait held promise _).imp fun next _ waits => ?_
      obtain ⟨waiter, rfl⟩ := waits
      exact .awaits .expired
  · refine (retains_newPromise held .tick).bind fun waiter mid held new => ?_
    have timed := held.edit (.loop (.timer new.1 seconds))
    exact Retains.bind (retains_modify (timed.edit (.loop (.release promise new.1))))
      fun _ _ held _ => retains_pure held (.awaits (.deadline waiter))

theorem manages_awaitFor
    (promise : Nat)
    (seconds : Number.Binary64) :
    Manages scope known base station (awaitFor promise seconds) :=
  (limits_awaitFor held promise seconds).imp fun _ _ limits => limits.isGiven

theorem manages_awaitWithin
    (promise : Nat)
    (limit : Json) :
    Manages scope known base station (awaitWithin promise limit) := by
  unfold awaitWithin
  split
  · exact retains_throw held
  · exact retains_pure held (Next.isGiven_of_noFrames _)
  · exact manages_awaitFor held promise _

theorem manages_performFor
    (job : Job)
    (given : scope.gives job)
    (limit : Limit) :
    Manages scope known base station (performFor job limit) := by
  cases limit with
  | none =>
      exact retains_pure held (Next.isGiven_perform given)
  | within seconds =>
      exact (reworks_spawn held given).bind fun task _ held _ =>
        manages_awaitFor held task seconds

theorem manages_performWithin
    (job : Job)
    (given : scope.gives job)
    (limit : Json) :
    Manages scope known base station (performWithin job limit) := by
  unfold performWithin
  split
  · exact retains_throw held
  · exact manages_performFor held job given _

theorem reworks_cancelTimer (time : Nat) :
    Reworks scope known base station (cancelTimer time) :=
  reworks_modifyLoop held (.untimed time)

theorem limits_afterDeadline
    (promise time : Nat)
    (outcome : Outcome) :
    Retains (base.ReworkedWithin scope known) station (afterDeadline promise time outcome)
      fun next _ => next.Limits station promise := by
  have cancels : ∀ frame : Frame, frame.IsLimit promise →
      Retains (base.ReworkedWithin scope known) station (cancelAndWait promise frame)
        fun next _ => next.Limits station promise := by
    refine fun frame isLimit => (retains_cancelAndWait held promise frame).imp fun _ _ waits => ?_
    obtain ⟨waiter, rfl⟩ := waits
    exact .awaits isLimit
  refine retains_get ?_
  split
  · rename_i settled outcome isSettled
    exact (reworks_cancelTimer held time).bind fun _ _ held _ =>
      retains_pure held (.gives fun value same => same ▸ isSettled)
  · exact cancels _ .expired
  · exact cancels _ (.abandoned time)

theorem limits_afterExpiry
    (promise : Nat)
    (outcome : Outcome) :
    Retains (base.ReworkedWithin scope known) station (afterExpiry promise outcome)
      fun next _ => next.Limits station promise := by
  cases outcome with
  | error failure =>
      exact retains_pure held (.gives fun _ => nofun)
  | ok value =>
      refine retains_get (retains_pure held (.gives fun given same => ?_))
      cases settled : station.loop.outcome? promise with
      | none =>
          rw [settled] at same
          cases same
      | some outcome =>
          rw [settled] at same
          cases outcome with
          | ok known => exact congrArg some same
          | error failure =>
              unfold expiredOutcome at same
              split at same
              · cases same
              · cases same

theorem limits_afterGivingUpOn
    (promise time : Nat) :
    Retains (base.ReworkedWithin scope known) station (afterGivingUpOn time)
      fun next _ => next.Limits station promise :=
  (reworks_cancelTimer held time).bind fun _ _ held _ => retains_pure held (.gives fun _ => nofun)

/-- What comes after waiting for a promise for a limited time. -/
theorem limits_resume
    {frame : Frame}
    {promise : Nat}
    (isLimit : frame.IsLimit promise)
    (outcome : Outcome) :
    Retains (base.ReworkedWithin scope known) station (resume frame outcome)
      fun next _ => next.Limits station promise := by
  cases isLimit with
  | deadline time => exact limits_afterDeadline held promise time outcome
  | expired => exact limits_afterExpiry held promise outcome
  | abandoned time => exact limits_afterGivingUpOn held promise time

theorem manages_limit
    {frame : Frame}
    {promise : Nat}
    (isLimit : frame.IsLimit promise)
    (outcome : Outcome) :
    Manages scope known base station (resume frame outcome) :=
  (limits_resume held isLimit outcome).imp fun _ _ limits => limits.isGiven

/-! ## Requests -/

theorem manages_endRequest
    (session number : Nat)
    (outcome : Outcome) :
    Manages scope known base station (endRequest session number outcome) :=
  Retains.bind (reworks_record held nofun) fun _ _ held _ => manages_give held outcome

theorem manages_request
    (session : Nat)
    (method : String)
    (params timeout : Json) :
    Manages scope known base station (request session method params timeout) := by
  refine (retains_client held session).bind fun client mid held found => ?_
  obtain ⟨rfl, found⟩ := found
  refine (retains_newPromise held _).bind fun promise after held new => ?_
  obtain ⟨-, rfl, rfl⟩ := new
  have issued : mid.modifyLoop (fun loop => (loop.newPromise (.answer session
      client.nextRequest)).2) |>.EditWithin scope known
        { (mid.modifyLoop fun loop => (loop.newPromise (.answer session
            client.nextRequest)).2).modifyClient session fun client =>
              client.enter mid.loop.promises.length with
          chronicle := mid.chronicle ++ [.issued session client.nextRequest] } := by
    refine .issue client.nextRequest fun other isOther => ?_
    have isOther : mid.client? session = some other := isOther
    cases found.symm.trans isOther
    show (mid.loop.newPromise _).2.topic? mid.loop.promises.length = _
    rw [Loop.topic?_newPromise, if_pos rfl]
  refine Retains.bind (retains_modify (held.edit issued)) fun _ _ held _ => ?_
  refine (reworks_say held _ _).bind fun _ _ held _ => ?_
  have written : ∀ {station : Station} message, base.ReworkedWithin scope known station →
      Reworks scope known base station (writeRequest session client.nextRequest message) := by
    intro station message held
    refine Retains.bind ((reworks_write held session message).recover fun failure _ held => ?_)
      fun _ _ held _ => reworks_record held nofun
    exact Retains.bind (reworks_record held nofun) fun _ _ held _ => retains_throw held
  refine (written _ held).bind fun _ _ held _ => ?_
  exact (manages_awaitWithin held _ _).manages trivial

theorem manages_afterRequest
    (session number : Nat)
    (method : String)
    (limit : Json)
    (outcome : Outcome) :
    Manages scope known base station (afterRequest session number method limit outcome) := by
  unfold afterRequest
  split
  · exact Retains.bind (reworks_modifyClient held session
      (fun client => (List.filter_sublist).subset) fun _ => rfl)
        fun _ _ held _ => manages_endRequest held session number _
  · exact manages_endRequest held session number _

theorem manages_notify
    (session : Nat)
    (method : String)
    (params : Json) :
    Manages scope known base station (notify session method params) :=
  (reworks_write held session _).bind fun _ _ held _ =>
    (reworks_say held _ _).bind fun _ _ held _ => manages_give held _

theorem reworks_connection
    (session : Nat)
    (member : String) :
    Reworks scope known base station (connection session member) := by
  refine retains_get ?_
  split
  · exact retains_pure held trivial
  · exact retains_throw held

theorem manages_sendRequest
    (session : Nat)
    (method : String)
    (params : Json) :
    Manages scope known base station (sendRequest session method params) := by
  refine (reworks_connection held session _).bind fun connection _ held _ => ?_
  cases connection with
  | client => exact manages_request held session method params .null
  | prepared responses =>
      exact (reworks_observe held _).bind fun _ _ held _ => manages_give held _

theorem manages_sendNotification
    (session : Nat)
    (method : String)
    (params : Json) :
    Manages scope known base station (sendNotification session method params) := by
  refine (reworks_connection held session _).bind fun connection _ held _ => ?_
  cases connection with
  | client => exact manages_notify held session method params
  | prepared responses =>
      exact (reworks_observe held _).bind fun _ _ held _ => manages_give held _

end

end Move

end AnalyzerSessions
