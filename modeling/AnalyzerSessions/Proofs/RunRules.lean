import AnalyzerSessions.Proofs.LifecycleRules
import AnalyzerSessions.Station.Launch

namespace AnalyzerSessions

/-!
# Rules for running a server

A run holds its token from its beginning, and gives it up when the manager is told
that the session is over, or when the run is forsaken.  Until then nothing ends the
run: a failure or a cancellation only takes it on to its end.
-/

namespace Station

variable {hand : List Token} {station : Station}

/-- A client talks to one process. -/
theorem TalksTo.unique
    {session first second : Nat}
    (early : station.TalksTo session first)
    (late : station.TalksTo session second) :
    first = second := by
  obtain ⟨client, found, rfl⟩ := early
  obtain ⟨other, foundToo, rfl⟩ := late
  cases found.symm.trans foundToo
  rfl

/-- A run without a client talks to no process. -/
theorem not_talksTo
    {session process : Nat}
    (silent : station.client? session = none) :
    ¬station.TalksTo session process := by
  rintro ⟨client, found, _⟩
  cases silent.symm.trans found

/-- The session of a run whose token is in hand is known. -/
theorem Sound.known_of_hand
    {session : Nat}
    (sound : station.Sound (.run session :: hand)) :
    session ∈ station.desk.ledger.ids := by
  obtain ⟨run, found⟩ := sound.run_of_hand
  exact (mem_of_run? found).2 ▸ (sound.runFits found).known

/-- No client appears when a flag is set. -/
theorem noNewClient_raise
    (station : Station)
    (session : Nat) :
    station.NoNewClient (station.raise (.settled session)) := by
  have gentle : Run.IsGentle fun run => { run with settled := ⟨true, []⟩ } :=
    ⟨fun _ => rfl, fun _ => rfl, fun _ => rfl⟩
  exact (noNewClient_modifyRun gentle station session).trans (noNewClient_of_runs_eq rfl)

/-- A run does not use its client any more. -/
theorem Sound.detach
    (sound : station.Sound hand)
    (session : Nat) :
    Move.Comes hand station
        (station.modifyRun session fun run => { run with isAttached := false }) ∧
      station.NoNewClient
        (station.modifyRun session fun run => { run with isAttached := false }) := by
  have gentle : Run.IsGentle fun run => { run with isAttached := false } :=
    ⟨fun _ => rfl, fun _ => rfl, fun _ => rfl⟩
  refine ⟨sound.modifyRun gentle (fun _ _ => id) (fun run _ fits => ?_)
    fun other number promise pends => ?_, noNewClient_modifyRun gentle station session⟩
  · exact ⟨fits.known, fits.task, fits.settled, fits.client⟩
  · exact .waits (pends.modifyRun (fun _ => rfl)
      fun _ client isClient => ⟨client, isClient, List.Subset.refl _⟩)

end Station

namespace Move

variable {hand : List Token} {station : Station} {session : Nat}

/-! ## The end of a run -/

theorem keeps_onExit
    (sound : station.Sound hand)
    (known : session ∈ station.desk.ledger.ids)
    (code : Json) :
    Keeps hand station (atDesk (Act.onExit session code))
      (fun _ after => after.IsStopped session ∧ station.NoNewClient after) fun _ => False := by
  obtain ⟨safe, stopped⟩ :=
    Act.isSafeAt_onExit sound.desk.numbered sound.desk.silent session code
  refine (keeps_atDesk sound safe).imp (fun _ after _ given => ?_) fun failure failed => ?_
  · obtain ⟨_, lasts, noNew⟩ := given
    obtain ⟨entry, member, isEntry⟩ := List.mem_map.mp known
    obtain ⟨told, isTold, sameId, _⟩ := safe.lasts entry member
    obtain ⟨now, isNow, stillId, _, staysStopped⟩ := lasts told isTold
    have isSession := sameId.trans isEntry
    exact ⟨⟨now, isNow, stillId.trans isSession,
      staysStopped (stopped told isTold isSession)⟩, noNew⟩
  · obtain ⟨value, succeeds⟩ := Act.succeeds_onExit session code station.desk
    cases failed.symm.trans succeeds

/-- The manager is told that a session is over, and the run ends. -/
theorem leads_endRun
    {code : Json}
    {outcome : Outcome}
    (sound : station.Sound (.run session :: hand))
    (parts : ∀ process, station.TalksTo session process →
      station.PartsWith process code outcome) :
    Leads hand station (endRun session code outcome) (.run session) := by
  obtain ⟨detached, noNewDetached⟩ := sound.detach session
  have settled := detached.sound.raise (.settled session)
  obtain ⟨run, found⟩ := detached.sound.run_of_hand
  have isSettled := Station.isSettled_raise found
  refine leads_change detached (leads_change settled ?_)
  refine (keeps_onExit settled.sound settled.sound.known_of_hand code).then_leads ?_
  rintro _ told comes ⟨stopped, noNewTold⟩
  have onward := (detached.onward.trans settled.onward).trans comes.onward
  have noNew := (noNewDetached.trans (Station.noNewClient_raise _ session)).trans noNewTold
  have parted : told.HasParted session code outcome := by
    refine ⟨?_, stopped, fun process talks => ?_⟩
    · obtain ⟨raised, isRaised, isSet⟩ := isSettled
      obtain ⟨now, isNow, staysSet, _⟩ := comes.onward.runs isRaised
      exact ⟨now, isNow, staysSet isSet⟩
    · exact onward.partsWith (parts process (onward.talked noNew talks))
  have inHand : told.Sound (Occurrence.spends (.parted session code outcome) ++ hand) := comes.sound
  have recorded : Comes hand told
      { told with chronicle := told.chronicle ++ [.parted session code outcome] } :=
    inHand.record rfl parted
  refine leads_change recorded (leads_give recorded.sound (.inl ⟨code, outcome, ?_⟩))
  exact List.mem_append_right _ (List.mem_singleton_self _)

/-- The run ends, and the manager is not told. -/
theorem leads_forsake
    {failure : Failure}
    (sound : station.Sound (.run session :: hand))
    (reason : failure = .cancelled ∨
      failure = .load .noHome ∧ searchPath? station.environment = none) :
    Leads hand station (forsake session failure) (.run session) := by
  have inHand : station.Sound (Occurrence.spends (.forsaken session failure) ++ hand) := sound
  have recorded : Comes hand station
      { station with chronicle := station.chronicle ++ [.forsaken session failure] } :=
    inHand.record rfl reason
  refine leads_change recorded (leads_give recorded.sound (.inr ⟨failure, ?_⟩))
  exact List.mem_append_right _ (List.mem_singleton_self _)

/-- The client of a run is closed, if there is one, and the run ends. -/
theorem leads_windUp
    {code : Json}
    {outcome : Outcome}
    (sound : station.Sound (.run session :: hand))
    (mayClose : station.MayClose)
    (parts : ∀ process, station.TalksTo session process →
      station.PartsWith process code outcome) :
    Leads hand station (windUp session code outcome) (.run session) := by
  refine leads_get ?_
  split
  · rename_i isThere
    obtain ⟨client, found⟩ := Option.isSome_iff_exists.mp isThere
    have talks : station.TalksTo session client.process := ⟨client, found, rfl⟩
    have closes : Leads ((Frame.parted session code outcome).tokens ++ hand) station
        (closeClient session) .closing := leads_closeClient sound ⟨client, found⟩ mayClose
    refine closes.into (.refl .closing) (fun after onward => ?_) nofun
    exact .parted (onward.talksTo talks) (onward.partsWith (parts _ talks))
  · exact leads_endRun sound parts

/-- A run that failed in a way that it does not expect ends, and leaves its server to itself. -/
theorem leads_windUpLeft
    {failure : Failure}
    (sound : station.Sound (.run session :: hand))
    (mayClose : station.MayClose)
    (unexpected : ¬failure.IsFailedStart)
    (notCancelled : failure ≠ .cancelled) :
    Leads hand station (windUp session .null (.error failure)) (.run session) :=
  leads_windUp sound mayClose fun _ _ => .left unexpected notCancelled

/-- A run whose server has exited ends, and parts with the exit code. -/
theorem leads_windUpExited
    {process : Nat}
    {value : Value}
    {outcome : Outcome}
    (sound : station.Sound (.run session :: hand))
    (mayClose : station.MayClose)
    (talks : station.TalksTo session process)
    (told : station.Holds (.exit process) (.ok value)) :
    Leads hand station (windUp session (exitCodeOf (.ok value)) outcome) (.run session) := by
  obtain ⟨code, rfl, exited⟩ := told
  refine leads_windUp sound mayClose fun other talksToo => .exited ?_
  rwa [← talks.unique talksToo]

/-- After closing its client a run ends. -/
theorem leads_afterParting
    {process : Nat}
    {code : Json}
    {outcome told : Outcome}
    (sound : station.Sound (.run session :: hand))
    (talks : station.TalksTo session process)
    (parts : station.PartsWith process code outcome)
    (closed : station.Holds .closing told) :
    Leads hand station (afterParting session code outcome told) (.run session) := by
  obtain ⟨value, rfl⟩ := closed
  refine leads_endRun sound fun other talksToo => ?_
  rwa [← talks.unique talksToo]

/-- A run that was cancelled kills its server and ends. -/
theorem leads_cancelRun
    (sound : station.Sound (.run session :: hand))
    (mayClose : station.MayClose) :
    Leads hand station (cancelRun session) (.run session) := by
  refine leads_get ?_
  split
  · rename_i silent
    exact leads_windUp sound mayClose fun process talks => (Station.not_talksTo silent talks).elim
  · rename_i client found
    refine (keeps_serverHasExited sound session).then_leads ?_
    rintro exited mid _ ⟨rfl, gone⟩
    have talks : mid.TalksTo session client.process := ⟨client, found, rfl⟩
    split
    · rename_i hasExited
      refine leads_windUp sound mayClose fun other talksToo => .cancelled (.inl ?_)
      rw [← talks.unique talksToo]
      exact gone hasExited client found
    · refine (keeps_signal sound talks .kill).then_leads fun _ killed comes wasKilled => ?_
      obtain ⟨state, isThere⟩ := (sound.clientFits found).process
      obtain ⟨now, isNow, _⟩ := comes.onward.processes isThere
      have waits : Leads ((Frame.killed session).tokens ++ hand) killed
          (awaitExit client.process) (.exit client.process) :=
        leads_awaitExit comes.sound ⟨now, isNow⟩
      refine waits.into (.refl _) (fun after onward => ?_) nofun
      exact .killed ((comes.onward.trans onward).talksTo talks) (onward.wasSent wasKilled)

/-- A run that failed in a way that it does not expect, or was cancelled, ends. -/
theorem leads_failRun
    {failure : Failure}
    (sound : station.Sound (.run session :: hand))
    (mayClose : station.MayClose)
    (unexpected : ¬failure.IsFailedStart) :
    Leads hand station (failRun session failure) (.run session) := by
  unfold failRun
  split
  · exact leads_cancelRun sound mayClose
  · rename_i notCancelled
    exact leads_windUpLeft sound mayClose unexpected notCancelled

/-- After killing its server a run ends. -/
theorem leads_afterKill
    {process : Nat}
    {outcome : Outcome}
    (sound : station.Sound (.run session :: hand))
    (mayClose : station.MayClose)
    (talks : station.TalksTo session process)
    (wasKilled : station.WasSent process .kill)
    (told : station.Holds (.exit process) outcome) :
    Leads hand station (afterKill session outcome) (.run session) := by
  cases outcome with
  | error failure =>
      rcases told with rfl | rfl
      · refine leads_windUp sound mayClose fun other talksToo => .cancelled (.inr ?_)
        rwa [← talks.unique talksToo]
      · exact leads_windUpLeft sound mayClose nofun nofun
  | ok value =>
      exact leads_windUpExited sound mayClose talks told

/-- After the exit of its server a run ends. -/
theorem leads_afterExit
    {process : Nat}
    {outcome : Outcome}
    (sound : station.Sound (.run session :: hand))
    (mayClose : station.MayClose)
    (talks : station.TalksTo session process)
    (told : station.Holds (.exit process) outcome) :
    Leads hand station (afterExit session outcome) (.run session) := by
  cases outcome with
  | error failure =>
      refine leads_failRun sound mayClose ?_
      rcases told with rfl | rfl
      · exact nofun
      · exact nofun
  | ok value =>
      exact leads_windUpExited sound mayClose talks told

/-! ## The beginning of a run -/

/-- A run waits for the exit of its server. -/
theorem leads_awaitServerExit
    (sound : station.Sound (.run session :: hand))
    (present : station.HasClient session) :
    Leads hand station (awaitServerExit session) (.run session) := by
  have settled := sound.raise (.settled session)
  refine leads_change settled ?_
  refine (keeps_client_of settled.sound (settled.onward.hasClient present)).then_leads ?_
  rintro client mid _ ⟨rfl, found⟩
  have waits : Leads ((Frame.exited session).tokens ++ hand) (station.raise (.settled session))
      (awaitExit client.process) (.exit client.process) :=
    leads_awaitExit settled.sound (settled.sound.clientFits found).process
  refine waits.into (.refl _) (fun after onward => ?_) nofun
  exact .exited (onward.talksTo ⟨client, found, rfl⟩)

/-- A run whose start is settled, and that failed, ends. -/
theorem leads_settleAndFail
    {failure : Failure}
    (sound : station.Sound (.run session :: hand))
    (mayClose : station.MayClose)
    (unexpected : ¬failure.IsFailedStart) :
    Leads hand station (settleStart session >>= fun _ => failRun session failure)
      (.run session) := by
  have settled := sound.raise (.settled session)
  exact leads_change settled
    (leads_failRun settled.sound (settled.onward.mayClose mayClose) unexpected)

/-- After stopping a server that failed to start, its run waits for its exit, or ends. -/
theorem leads_afterGivingUp
    {outcome : Outcome}
    (sound : station.Sound (.run session :: hand))
    (mayClose : station.MayClose)
    (present : station.HasClient session)
    (told : station.Holds .stopping outcome) :
    Leads hand station (afterGivingUp session outcome) (.run session) := by
  cases outcome with
  | ok value =>
      exact leads_awaitServerExit sound present
  | error failure =>
      refine leads_settleAndFail sound mayClose fun failed => ?_
      cases failed.endsPolitely.symm.trans (told failure rfl)

/-- After a failed handshake a run stops its server, or ends. -/
theorem leads_afterFailedStart
    (sound : station.Sound (.run session :: hand))
    (mayClose : station.MayClose)
    (present : station.HasClient session)
    (failure : Failure) :
    Leads hand station (afterFailedStart session failure) (.run session) := by
  unfold afterFailedStart
  split
  · refine (keeps_session_of sound sound.known_of_hand).then_leads ?_
    rintro known mid _ ⟨rfl, _⟩
    refine (keeps_say sound _ _).then_leads fun _ after comes _ => ?_
    have stops : Leads ((Frame.gaveUp session).tokens ++ hand) after (stopClient session)
        .stopping :=
      leads_stopClient comes.sound session
    refine stops.into (.refl .stopping) (fun late onward => ?_) nofun
    exact .gaveUp ((comes.onward.trans onward).hasClient present)
  · rename_i isUnexpected
    exact leads_settleAndFail sound mayClose fun failed => isUnexpected (isFailedStart_iff.mpr failed)

/-- The manager is told that the server is there, and the run waits for its exit, or ends. -/
theorem leads_welcome
    (sound : station.Sound (.run session :: hand))
    (mayClose : station.MayClose)
    (present : station.HasClient session) :
    Leads hand station (welcome session) (.run session) := by
  refine Keeps.then_leads (keeps_modifySession sound session fun _ => rfl) fun _ mid comes _ => ?_
  have safe := Act.isSafeAt_onInit comes.sound.desk.numbered comes.sound.desk.silent session
  have unexpected : Act.FailsOnly (fun failure => ¬failure.IsFailedStart) (Act.onInit session) :=
    Act.failsOnly_onInit (fun _ => nofun) (fun _ => nofun) session
  have told : Keeps (.run session :: hand) mid (do atDesk (Act.onInit session); return none)
      (fun (failed : Option Failure) _ => ∀ failure ∈ failed, ¬failure.IsFailedStart)
      fun failure => ¬failure.IsFailedStart := by
    refine ((keeps_atDesk comes.sound safe).imp (fun _ _ _ => id) (unexpected _)).bind ?_
    exact fun _ _ later _ => keeps_pure later.sound nofun
  have recovered : Keeps (.run session :: hand) mid
      (tryCatch (do atDesk (Act.onInit session); return none) fun failure => return some failure)
      (fun (failed : Option Failure) _ => ∀ failure ∈ failed, ¬failure.IsFailedStart)
      fun _ => False := by
    refine told.recover fun failure _ later unexpected => keeps_pure later.sound ?_
    rintro _ ⟨rfl⟩
    exact unexpected
  refine recovered.then_leads fun failed after later unexpected => ?_
  have onward := comes.onward.trans later.onward
  cases failed with
  | none =>
      exact leads_awaitServerExit later.sound (onward.hasClient present)
  | some failure =>
      exact leads_settleAndFail later.sound (onward.mayClose mayClose) (unexpected failure rfl)

/-- After the handshake a run goes on, or ends. -/
theorem leads_afterGreeting
    (sound : station.Sound (.run session :: hand))
    (mayClose : station.MayClose)
    (present : station.HasClient session)
    (outcome : Outcome) :
    Leads hand station (afterGreeting session outcome) (.run session) := by
  cases outcome with
  | ok value =>
      exact leads_welcome sound mayClose present
  | error failure =>
      exact leads_afterFailedStart sound mayClose present failure

theorem keeps_settleIn
    (sound : station.Sound (.run session :: hand))
    (silent : station.client? session = none)
    (plan : SpawnPlan)
    (number : Nat) :
    Keeps (.run session :: hand) station (settleIn session plan number)
      (fun _ after => after.TalksTo session number) fun _ => False := by
  refine (keeps_session_of sound sound.known_of_hand).then_keeps ?_
  rintro known mid _ ⟨rfl, _⟩
  refine Keeps.then_keeps (keeps_modifySession sound session fun _ => rfl) ?_
  intro _ noted comes noNew
  obtain ⟨seated, talks⟩ := comes.sound.seat (noNew session silent)
  refine (keeps_change seated).then_keeps ?_
  rintro _ after later rfl
  split
  · rename_i code _
    have exited := later.sound.exitProcess number code
    exact keeps_modify exited (exited.onward.talksTo talks)
  · exact keeps_pure later.sound talks

/-- A program is started, or it is not and the run ends. -/
theorem leads_startProgram
    (sound : station.Sound (.run session :: hand))
    (mayClose : station.MayClose)
    (silent : station.client? session = none)
    (number : Nat)
    (plan : SpawnPlan) :
    Leads hand station (startProgram session number plan) (.run session) := by
  refine (keeps_session_of sound sound.known_of_hand).then_leads ?_
  rintro known mid _ ⟨rfl, _⟩
  split
  · have said : ∀ text, Keeps (.run session :: hand) mid (say .error text)
        (fun _ after => mid.NoNewClient after) fun _ => False :=
      fun text => ⟨(keeps_say sound .error text).1, Station.noNewClient_of_runs_eq rfl⟩
    refine (said _).then_leads fun _ after comes noNew => ?_
    refine leads_windUp comes.sound (comes.onward.mayClose mayClose) fun process talks => ?_
    exact (Station.not_talksTo (noNew session silent) talks).elim
  · exact leads_windUp sound mayClose fun process talks => (Station.not_talksTo silent talks).elim
  · refine (keeps_settleIn sound silent plan number).then_leads fun _ after comes talks => ?_
    obtain ⟨client, found, _⟩ := talks
    have starts : Leads ((Frame.greeted session).tokens ++ hand) after (startClient session)
        (.greeting session) :=
      leads_startClient comes.sound ⟨client, found⟩
    refine starts.into (.refl _) (fun late onward => ?_) nofun
    exact .greeted (onward.hasClient ⟨client, found⟩)

/-- After the time that a program takes to start it is started, or the run ends. -/
theorem leads_afterSpawn
    (sound : station.Sound (.run session :: hand))
    (mayClose : station.MayClose)
    (silent : station.client? session = none)
    (number : Nat)
    (plan : SpawnPlan)
    (time : Nat)
    {outcome : Outcome}
    (told : outcome.IsQuiet) :
    Leads hand station (afterSpawn session number plan time outcome) (.run session) := by
  cases outcome with
  | ok value =>
      exact leads_startProgram sound mayClose silent number plan
  | error failure =>
      cases told failure rfl
      refine (keeps_change (sound.cancelTimer time)).then_leads fun _ after comes _ => ?_
      exact leads_failRun comes.sound (comes.onward.mayClose mayClose) nofun

/-- A run begins. -/
theorem leads_runServer
    (sound : station.Sound (.run session :: hand))
    (mayClose : station.MayClose)
    (silent : station.client? session = none) :
    Leads hand station (runServer session) (.run session) := by
  refine (keeps_session_of sound sound.known_of_hand).then_leads ?_
  rintro known mid _ ⟨rfl, _⟩
  refine leads_get ?_
  split
  · rename_i homeless
    exact leads_forsake sound (.inr ⟨rfl, Option.isNone_iff_eq_none.mp homeless⟩)
  · dsimp only
    have launched : Comes (.run session :: hand) mid { mid with launches := mid.launches + 1 } :=
      sound.withPapers rfl sound.desk.silent _
    refine leads_change launched ?_
    have observed : ∀ event, Keeps (.run session :: hand) { mid with launches := mid.launches + 1 }
        (observe event) (fun _ after => mid.NoNewClient after) fun _ => False :=
      fun event => ⟨(keeps_observe launched.sound event).1, Station.noNewClient_of_runs_eq rfl⟩
    refine (observed _).then_leads fun _ seen comes noNew => ?_
    have onward := launched.onward.trans comes.onward
    have silentNow := noNew session silent
    split
    · refine (keeps_newPromise comes.sound id).then_leads ?_
      rintro promise waiting later ⟨told, sameRuns⟩
      have timed := later.sound.settleAfter told
        ((mid.plans[mid.launches]?.getD .plain).delay)
      refine leads_change timed (leads_pure timed.sound ?_)
      have isTick := timed.onward.loop.topics told
      refine (Station.leads_await (.told isTick trivial)).into_fitting (.refl .tick) .spawned ?_
      refine ⟨fun other starts => ?_, fun other call holds => ?_⟩
      · cases starts
        exact Station.noNewClient_of_runs_eq sameRuns session silentNow
      · cases List.mem_singleton.mp holds
    · exact leads_startProgram comes.sound (onward.mayClose mayClose) silentNow _ _

/-! ## Waiting for a session -/

/-- Waiting until a session is running comes to some end. -/
theorem leads_awaitReady
    (sound : station.Sound hand)
    (session : Nat)
    (timeout : Json) :
    Leads hand station (awaitReady session timeout) .work := by
  unfold awaitReady
  split
  · exact leads_throw sound trivial
  · refine leads_get ?_
    split
    · exact leads_give sound trivial
    · have admitted : station.Admits (.awaitFlag (.settled session)) := trivial
      exact (leads_performFor sound admitted trivial _).into_free (.refl .work)
        (fun _ _ => .plain trivial) rfl

/-- After the start of a session is settled there is some end. -/
theorem leads_afterSettling
    (sound : station.Sound hand)
    (session : Nat)
    (deadline : Number.Binary64)
    (outcome : Outcome) :
    Leads hand station (afterSettling session deadline outcome) .work := by
  unfold afterSettling
  split
  · exact leads_give sound trivial
  · exact leads_give sound trivial
  · refine leads_get ?_
    dsimp only
    split
    · exact (leads_awaitQuiescentFor sound session _).into_free (.refl .work)
        (fun _ _ => .plain trivial) rfl
    · exact leads_give sound trivial

/-- After the server of a session has nothing left to do there is some end. -/
theorem leads_afterReadiness
    (sound : station.Sound hand)
    (session : Nat)
    (outcome : Outcome) :
    Leads hand station (afterReadiness session outcome) .work := by
  unfold afterReadiness
  split
  · exact leads_get (leads_give sound trivial)
  · exact leads_give sound trivial
  · exact leads_give sound trivial

/-- Waiting until the run of a session is over comes to some end. -/
theorem leads_awaitClosed
    (sound : station.Sound hand)
    (session : Nat) :
    Leads hand station (awaitClosed session) .work := by
  refine leads_get ?_
  split
  · exact leads_give sound trivial
  · rename_i task _
    refine leads_pure sound ((Station.leads_await .any).into (.refl .work) (.plain ?_) nofun)
    trivial

/-- After waiting for something that may have been cancelled there is some end. -/
theorem leads_afterCancellation
    (sound : station.Sound hand)
    (outcome : Outcome) :
    Leads hand station (afterCancellation outcome) .work := by
  unfold afterCancellation
  split
  · exact leads_give sound trivial
  · exact leads_give sound trivial
  · exact leads_give sound trivial

end Move

end AnalyzerSessions
