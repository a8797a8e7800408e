import AnalyzerSessions.Proofs.EditingSteps
import AnalyzerSessions.Proofs.CorrelatedCalls

namespace AnalyzerSessions

/-!
# The run of a server as edits

The run of a server is made of edits too, up to the moment in which its client is closed
and everyone is dismissed; the frame in which the run parts from its session comes right
after that.
-/

/-- A status of a session may be noted when a frame goes on: a message is handled then that the status
handler is there for. -/
inductive Station.Hears (station : Station) (session : Nat) : Frame → Prop where
  | handles {message : Json}
      (notes : station.Notes session message) :
      Hears station session (.begin (.handleMessage session message))
  | reads {frame : Frame} {phase : Wire.ReadPhase} {message : Json}
      (reads : frame.phase? session = some phase)
      (finds : station.Finds session phase message)
      (notes : station.Notes session message) :
      Hears station session frame

namespace Move

variable {α : Type} {scope : Scope} {known session : Nat} {base station : Station}

/-- What the closing of a client comes to: it waits for a task that it has cancelled, or everyone was
dismissed in this moment. -/
inductive ShutsWithin (scope : Scope) (known session : Nat) (base : Station) :
    Next × Station → Prop where
  | waits {task : Nat} {others : List Nat} {after : Station}
      (reworked : base.ReworkedWithin scope known after) :
      ShutsWithin scope known session base
        ((Next.await task).into (.closing session others), after)
  | dismisses {mid : Station}
      (reworked : base.ReworkedWithin scope known mid) :
      ShutsWithin scope known session base (.done, mid.hangUp session)

/-- What the closing of a client comes to, where edits may concern all sessions. -/
abbrev Shuts (known session : Nat) (base : Station) (result : Next × Station) : Prop :=
  ShutsWithin .all known session base result

/-- What a move comes to: it is made of edits, or it closes a client in front of the frame in which the
run of the client's server parts from its session. -/
inductive EndsWithin (scope : Scope) (known : Nat) (base : Station) : Next × Station → Prop where
  | ordinary {next : Next} {after : Station}
      (reworked : base.ReworkedWithin scope known after)
      (given : next.IsGiven scope.gives) :
      EndsWithin scope known base (next, after)
  | closes {session : Nat} {code : Json} {outcome : Outcome} {next : Next} {after : Station}
      (shuts : ShutsWithin scope known session base (next, after)) :
      EndsWithin scope known base (next.into (.parted session code outcome), after)

/-- What a move comes to, where edits may concern all sessions. -/
abbrev Ends (known : Nat) (base : Station) (result : Next × Station) : Prop :=
  EndsWithin .all known base result

theorem Retains.ends
    {move : Move Next}
    (manages : Manages scope known base station move) :
    EndsWithin scope known base (Move.make move station) := by
  unfold Manages Retains at manages
  rw [make_eq]
  generalize perform move station = result at manages ⊢
  rcases result with ⟨failure | next, after⟩
  · exact .ordinary manages.1 (Next.isGiven_of_noFrames _)
  · exact .ordinary manages.1 (manages.2 next rfl)

theorem Retains.bindEnds
    {move : Move α}
    {next : α → Move Next}
    {gives : α → Station → Prop}
    (first : Retains (base.ReworkedWithin scope known) station move gives)
    (second : ∀ value mid, base.ReworkedWithin scope known mid → gives value mid →
      EndsWithin scope known base (Move.make (next value) mid)) :
    EndsWithin scope known base (Move.make (move >>= next) station) := by
  unfold Retains at first
  rw [make_eq, perform_bind]
  generalize perform move station = result at first ⊢
  rcases result with ⟨failure | value, mid⟩
  · exact .ordinary first.1 (Next.isGiven_of_noFrames _)
  · exact second value mid first.1 (first.2 value rfl)

section

variable (held : base.ReworkedWithin scope known station)

include held

/-! ## Closing a client -/

theorem shuts_dismiss (present : station.HasClient session) :
    ShutsWithin scope known session base (make (dismiss session) station) := by
  obtain ⟨client, found⟩ := present
  have failed := (reworks_failPending held session .serverExited).1
  rw [perform_failPending found .serverExited] at failed
  unfold dismiss
  rw [make_bind (perform_failPending found .serverExited)]
  exact .dismisses (failed.edit (.client session (fun _ => List.nil_subset _) fun _ => rfl))

theorem shuts_closeTasks
    (present : station.HasClient session)
    (tasks : List Nat) :
    ShutsWithin scope known session base (make (closeTasks session tasks) station) := by
  induction tasks with
  | nil =>
      exact shuts_dismiss held present
  | cons task rest inductionHypothesis =>
      show ShutsWithin scope known session base (make
        (if station.loop.isSettled task then closeTasks session rest
        else do
          modifyLoop fun loop => loop.cancel task
          return (Next.await task).into (.closing session rest)) station)
      split
      · exact inductionHypothesis
      · exact .waits (held.edit (.loop (.cancel task)))

theorem shuts_closeClient (present : station.HasClient session) :
    ShutsWithin scope known session base (make (closeClient session) station) := by
  obtain ⟨client, found⟩ := present
  unfold closeClient
  rw [make_bind (perform_client found)]
  exact shuts_closeTasks held ⟨client, found⟩ _

/-! ## The end of a run -/

theorem reworks_settleStart (session : Nat) : Reworks scope known base station (settleStart session) :=
  reworks_edit held (.settled session)

theorem manages_endRun
    (session : Nat)
    (code : Json)
    (outcome : Outcome) :
    Manages scope known base station (endRun session code outcome) := by
  refine Retains.bind (reworks_modifyRun held session (fun _ => rfl) (fun _ => rfl) fun _ => rfl)
    fun _ _ held _ => ?_
  refine (reworks_settleStart held session).bind fun _ _ held _ => ?_
  refine Retains.bind (reworks_atDesk held fun _ => .part session code) fun _ _ held _ => ?_
  exact Retains.bind (reworks_record held nofun) fun _ _ held _ => manages_give held outcome

theorem manages_forsake
    (session : Nat)
    (failure : Failure) :
    Manages scope known base station (forsake session failure) :=
  Retains.bind (reworks_record held nofun) fun _ _ held _ => manages_give held _

theorem ends_windUp
    (session : Nat)
    (code : Json)
    (outcome : Outcome) :
    EndsWithin scope known base (make (windUp session code outcome) station) := by
  unfold windUp
  rw [make_get_bind]
  split
  · rename_i present
    rw [make_into]
    exact .closes (shuts_closeClient held (Option.isSome_iff_exists.mp present))
  · exact (manages_endRun held session code outcome).ends

theorem manages_afterParting
    (session : Nat)
    (code : Json)
    (outcome told : Outcome) :
    Manages scope known base station (afterParting session code outcome told) := by
  cases told with
  | ok value => exact manages_endRun held session code outcome
  | error failure => exact manages_give held _

theorem ends_cancelRun (session : Nat) :
    EndsWithin scope known base (make (cancelRun session) station) := by
  unfold cancelRun
  rw [make_get_bind]
  split
  · exact ends_windUp held session _ _
  · refine (retains_serverHasExited held session).bindEnds fun hasExited _ held _ => ?_
    split
    · exact ends_windUp held session _ _
    · refine Retains.ends ((reworks_signal held session _).bind fun _ _ held _ => ?_)
      exact (manages_awaitExit held _).manages trivial

theorem ends_failRun
    (session : Nat)
    (failure : Failure) :
    EndsWithin scope known base (make (failRun session failure) station) := by
  unfold failRun
  split
  · exact ends_cancelRun held session
  · exact ends_windUp held session _ _

theorem ends_afterKill
    (session : Nat)
    (outcome : Outcome) :
    EndsWithin scope known base (make (afterKill session outcome) station) := by
  unfold afterKill
  split <;> exact ends_windUp held session _ _

theorem ends_afterExit
    (session : Nat)
    (outcome : Outcome) :
    EndsWithin scope known base (make (afterExit session outcome) station) := by
  unfold afterExit
  split
  · exact ends_failRun held session _
  · exact ends_windUp held session _ _

theorem manages_awaitServerExit (session : Nat) :
    Manages scope known base station (awaitServerExit session) := by
  refine (reworks_settleStart held session).bind fun _ _ held _ => ?_
  exact (retains_client held session).bind fun _ _ held _ =>
    (manages_awaitExit held _).manages trivial

theorem ends_settleAndFail
    (session : Nat)
    (failure : Failure) :
    EndsWithin scope known base (make (do settleStart session; failRun session failure) station) :=
  (reworks_settleStart held session).bindEnds fun _ _ held _ => ends_failRun held session failure

theorem ends_afterGivingUp
    (session : Nat)
    (outcome : Outcome) :
    EndsWithin scope known base (make (afterGivingUp session outcome) station) := by
  cases outcome with
  | ok value => exact (manages_awaitServerExit held session).ends
  | error failure => exact ends_settleAndFail held session failure

theorem ends_afterFailedStart
    (session : Nat)
    (failure : Failure) :
    EndsWithin scope known base (make (afterFailedStart session failure) station) := by
  unfold afterFailedStart
  split
  · refine Retains.ends ((retains_session held session).bind fun _ _ held _ => ?_)
    exact (reworks_say held _ _).bind fun _ _ held _ =>
      (manages_stopClient held session).manages trivial
  · exact ends_settleAndFail held session failure

/-- A session whose server is initialized is connected with its client, and the manager is told. -/
theorem ends_welcome (present : station.HasClient session) :
    EndsWithin scope known base (make (welcome session) station) := by
  have cleared : base.ReworkedWithin scope known
      { station with desk := { station.desk with orders := [] } } :=
    reworked_papers held ⟨.refl _, rfl, rfl, rfl, List.nil_subset _⟩
  have welcomed := cleared.edit (.welcome present)
  have connects : perform (modifySession session fun current =>
      { current with client := some .client }) station = (.ok (), { station with
        desk := Act.after (Act.modifySession session fun current =>
          { current with client := some .client }) { station.desk with orders := [] } }) :=
    perform_atDesk_of_silent rfl
  have told : Reworks scope known base { station with
      desk := Act.after (Act.modifySession session fun current =>
        { current with client := some .client }) { station.desk with orders := [] } }
      (tryCatch (do atDesk (Act.onInit session); return none)
        fun failure => return some failure) :=
    Retains.recover ((reworks_atDesk_of welcomed).bind fun _ _ held _ => retains_pure held trivial)
      fun _ _ held => retains_pure held trivial
  unfold welcome
  rw [make_bind connects]
  refine told.bindEnds fun told _ held _ => ?_
  cases told with
  | none => exact (manages_awaitServerExit held session).ends
  | some failure => exact ends_settleAndFail held session failure

theorem ends_afterGreeting
    (present : station.HasClient session)
    (outcome : Outcome) :
    EndsWithin scope known base (make (afterGreeting session outcome) station) := by
  cases outcome with
  | ok value => exact ends_welcome held present
  | error failure => exact ends_afterFailedStart held session failure

/-! ## The start of a run -/

theorem reworks_settleIn
    {id : Nat}
    (starts : scope.starts id)
    (plan : SpawnPlan)
    (number : Nat) :
    Reworks scope known base station (settleIn id plan number) := by
  refine (retains_session held id).bind fun session _ held _ => ?_
  refine Retains.bind (reworks_modifySession held id fun _ => rfl) fun _ _ held _ => ?_
  refine Retains.bind (reworks_edit held (.seat number starts ?_ rfl rfl)) fun _ _ held _ => ?_
  · intro promise
    refine ⟨nofun, fun channel logs => ?_, List.not_mem_nil⟩
    unfold ServerProcess.ofPlan at logs
    dsimp only at logs
    split at logs
    · cases logs
      exact nofun
    · cases logs
  · split
    · exact reworks_edit held (.exit number _)
    · exact retains_pure held trivial

theorem ends_startProgram
    {id : Nat}
    (starts : scope.starts id)
    (number : Nat)
    (plan : SpawnPlan) :
    EndsWithin scope known base (make (startProgram id number plan) station) := by
  refine (retains_session held id).bindEnds fun session _ held _ => ?_
  split
  · exact (reworks_say held _ _).bindEnds fun _ _ held _ => ends_windUp held id _ _
  · exact ends_windUp held id _ _
  · refine Retains.ends ((reworks_settleIn held starts plan number).bind fun _ _ held _ => ?_)
    exact (manages_startClient held id).manages trivial

theorem ends_afterSpawn
    (starts : scope.starts session)
    (number : Nat)
    (plan : SpawnPlan)
    (time : Nat)
    (outcome : Outcome) :
    EndsWithin scope known base (make (afterSpawn session number plan time outcome) station) := by
  cases outcome with
  | ok value =>
      exact ends_startProgram held starts number plan
  | error failure =>
      exact (reworks_cancelTimer held time).bindEnds fun _ _ held _ =>
        ends_failRun held session failure

theorem ends_runServer
    {id : Nat}
    (starts : scope.starts id) :
    EndsWithin scope known base (make (runServer id) station) := by
  refine (retains_session held id).bindEnds fun session mid held _ => ?_
  rw [make_get_bind]
  split
  · exact (manages_forsake held id _).ends
  · refine Retains.bindEnds (reworks_edit held (.launches _)) fun _ _ held _ => ?_
    refine (reworks_observe held _).bindEnds fun _ _ held _ => ?_
    split
    · refine Retains.ends ((retains_newPromise held .tick).bind fun promise _ held new => ?_)
      exact Retains.bind (reworks_modifyLoop held (.timer new.1 _)) fun _ _ held _ =>
        manages_await held promise trivial
    · exact ends_startProgram held starts _ _

/-! ## Frames -/

/-- What it comes to when a job is begun, unless a client is closed or a handler is called. -/
theorem ends_begin
    {job : Job}
    (managed : job.IsManaged)
    (hears : ∀ session, station.Hears session (.begin job) → scope.hears session)
    (starts : ∀ session, (Frame.begin job).Starts session → scope.starts session) :
    EndsWithin scope known base (make (begin job) station) := by
  cases job with
  | request session method params timeout => exact (manages_request held _ _ _ _).ends
  | notify session method params => exact (manages_notify held _ _ _).ends
  | awaitExit process => exact (manages_awaitExit held _).ends
  | awaitFlag signpost => exact (manages_awaitFlag held _).ends
  | readMessages session =>
      exact (manages_readOn held fun message finds notes =>
        hears session (.reads (if_pos rfl) finds notes)).ends
  | drainErrors session => exact (manages_drainOn held _).ends
  | startClient session => exact (manages_startClient held _).ends
  | stopClient session => exact (manages_stopClient held _).ends
  | closeClient session => exact managed.elim
  | handleMessage session message =>
      exact (manages_handleMessage held fun notes => hears session (.handles notes)).ends
  | runServer session => exact ends_runServer held (starts session (.begin session))
  | awaitReady session timeout => exact (manages_awaitReady held _ _).ends
  | awaitQuiescent session timeout => exact (manages_awaitQuiescent held _ _).ends
  | awaitClosed session => exact (manages_awaitClosed held _).ends
  | command name arguments => exact (manages_runCommand held _ _).ends
  | leaf session leaf arguments => exact (manages_runLeaf held _ _ _).ends
  | handler session method params => exact managed.elim
  | fire event file => exact (manages_fire held _ _).ends
  | write buffer => exact (manages_writeBuffer held _).ends
  | check path timeout => exact (manages_check held _ _).ends

/-- What it comes to when a frame goes on, unless it waits for a session to be ready. -/
theorem ends_resume
    {frame : Frame}
    {wanted given : Topic}
    {outcome : Outcome}
    (managed : frame.IsManaged)
    (other : ∀ session deadline, frame ≠ .readySettled session deadline)
    (taken : station.Takes frame wanted given)
    (hears : ∀ value, outcome = .ok value → ∀ session, station.Hears session frame →
      scope.hears session)
    (starts : ∀ session, frame.Starts session → scope.starts session) :
    EndsWithin scope known base (make (resume frame outcome) station) := by
  cases frame with
  | begin job =>
      have mayBegin : job.IsManaged := managed
      cases outcome with
      | ok value =>
          have begun := ends_begin held mayBegin (hears value rfl) starts
          cases job <;> exact begun
      | error failure =>
          cases job with
          | runServer session => exact (manages_forsake held session failure).ends
          | _ => exact (manages_give held _).ends
  | deadline promise time => exact (manages_limit held (.deadline time) outcome).ends
  | expired promise => exact (manages_limit held .expired outcome).ends
  | abandoned time =>
      have isLimit : (Frame.abandoned time).IsLimit 0 := .abandoned time
      exact (manages_limit held isLimit outcome).ends
  | requested session number method limit => exact (manages_afterRequest held _ _ _ _ _).ends
  | handshaken session => exact (manages_afterHandshake held _ _).ends
  | reading session phase =>
      exact (manages_afterBytes held fun value same message finds notes =>
        hears value same session (.reads (if_pos rfl) finds notes)).ends
  | handled session =>
      exact (manages_afterMessage held fun value same message finds notes =>
        hears value same session (.reads (if_pos rfl) finds notes)).ends
  | answering session method id => exact (manages_afterHandler held _ _ _ _).ends
  | noted session method => exact (manages_afterNotification held _ _ _).ends
  | draining session => exact (manages_afterErrors held _ _).ends
  | shutDown session => exact (manages_afterShutdown held _ _).ends
  | grace session => exact (manages_afterGrace held _ _).ends
  | lastGrace session => exact (manages_afterLastGrace held _ _).ends
  | closing session rest => exact managed.elim
  | spawned session number plan time =>
      exact ends_afterSpawn held (starts session (.spawned session number plan time)) _ _ _ _
  | greeted session =>
      cases taken with
      | greeted present => exact ends_afterGreeting held present _
      | plain isPlain => exact isPlain.elim
  | gaveUp session => exact ends_afterGivingUp held _ _
  | exited session => exact ends_afterExit held _ _
  | killed session => exact ends_afterKill held _ _
  | parted session code ended => exact (manages_afterParting held _ _ _ _).ends
  | readySettled session deadline => exact (other session deadline rfl).elim
  | readyQuiescent session => exact managed.elim
  | becameQuiescent session => exact (manages_afterQuiescent held _ _).ends
  | ignoringCancellation => exact (manages_afterCancellation held _).ends
  | slept code arguments time => exact (manages_afterSleep held _ _ _ _).ends
  | leafAnswered action => exact (manages_afterLeaf held _ _).ends
  | firing rest path count => exact (manages_afterFiring held _ _ _ _).ends
  | discarding => exact (manages_afterDiscarded held _).ends
  | checkedReady session buffer => exact (manages_afterCheckedReady held _ _ _).ends
  | checkedClosed report => exact (manages_afterCheckedClosed held _ _).ends

/-- What it comes to when the closing of a client goes on. -/
theorem shuts_resume
    {others : List Nat}
    {wanted given : Topic}
    {outcome : Outcome}
    (taken : station.Takes (.closing session others) wanted given)
    (told : station.Holds wanted outcome) :
    ShutsWithin scope known session base (make (resume (.closing session others) outcome) station) := by
  cases taken with
  | closing present quiet =>
      show ShutsWithin scope known session base (make (afterClosing session others outcome) station)
      cases outcome with
      | ok value =>
          exact shuts_closeTasks held present others
      | error failure =>
          cases told failure rfl
          exact shuts_closeTasks held present others
  | plain isPlain =>
      exact isPlain.elim

end

end Move

end AnalyzerSessions
