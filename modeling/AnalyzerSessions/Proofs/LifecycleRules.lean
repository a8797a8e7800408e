import AnalyzerSessions.Proofs.ReadingRules
import AnalyzerSessions.Proofs.StationChanges
import AnalyzerSessions.Client.Lifecycle

namespace AnalyzerSessions

/-!
# Rules for the life of a client

Starting and stopping a client come to some end.  A stop that is put on record has
brought the server down, or failed in a way that is not polite.  Closing a client
ends well, whatever its tasks came to, and no cancellation keeps it from that.
-/

/-!
## Tasks that drain logs

Whoever closes a client waits for the task that drains its log, and must not be
told a failure of that task.  That cannot happen: such a task has only one frame,
which waits for nothing but bytes, so that a cancellation reaches it first, and a
cancelled frame ends the task with that cancellation.
-/

namespace Station

variable {hand : List Token} {station : Station}

/-- No frame tells just that something has happened. -/
theorem Takes.given_ne_tick
    {frame : Frame}
    {wanted given : Topic}
    (taken : station.Takes frame wanted given) :
    given ≠ .tick := by
  cases taken with
  | @begin job _ =>
      intro same
      have errand := job.isErrand_topic
      rw [same] at errand
      exact errand
  | deadline _ lapses =>
      rintro rfl
      exact lapses
  | expired _ lapses =>
      rintro rfl
      exact lapses
  | abandoned lapses =>
      rintro rfl
      exact lapses
  | _ =>
      exact nofun

/-- A frame that ends the draining of a log drains it, or begins to. -/
inductive Drains (station : Station) : Frame → Prop where
  | begin {session : Nat} (present : station.HasClient session) :
      Drains station (.begin (.drainErrors session))
  | draining {session : Nat} (present : station.HasClient session) :
      Drains station (.draining session)

/-- What ends the draining of a log only wants to be told that something has happened. -/
theorem Takes.drains
    {frame : Frame}
    {wanted : Topic}
    (taken : station.Takes frame wanted .draining) :
    wanted = .tick ∧ station.Drains frame := by
  generalize isDraining : Topic.draining = given at taken
  cases taken with
  | @begin job admitted =>
      cases job with
      | drainErrors session =>
          exact ⟨rfl, .begin admitted⟩
      | _ =>
          cases isDraining
  | deadline _ lapses =>
      subst isDraining
      exact lapses.elim
  | expired _ lapses =>
      subst isDraining
      exact lapses.elim
  | abandoned lapses =>
      subst isDraining
      exact lapses.elim
  | draining present =>
      exact ⟨rfl, .draining present⟩
  | _ =>
      cases isDraining

/-- Only one frame leads to the end of the draining of a log. -/
theorem Reaches.drains
    {start : Topic}
    {frames : List Frame}
    (reaches : station.Reaches start frames .draining) :
    (frames = [] ∧ start = .draining) ∨
      ∃ frame, frames = [frame] ∧ start = .tick ∧ station.Drains frame := by
  induction frames generalizing start with
  | nil =>
      rcases reaches with same | isWork
      · exact .inl ⟨rfl, same⟩
      · cases isWork
  | cons frame rest inductionHypothesis =>
      obtain ⟨wanted, given, serves, taken, later⟩ := reaches
      rcases inductionHypothesis later with ⟨rfl, rfl⟩ | ⟨_, _, rfl, _⟩
      · obtain ⟨rfl, drains⟩ := taken.drains
        rcases serves with rfl | isWork
        · exact .inr ⟨frame, rfl, rfl, drains⟩
        · cases isWork
      · exact (taken.given_ne_tick rfl).elim

/-- A promise that yields a tick is settled with one. -/
theorem Yields.tick
    {promise : Nat}
    (yields : station.Yields promise .tick) :
    station.loop.topic? promise = some .tick := by
  generalize isTick : Topic.tick = topic at yields
  cases yields with
  | told isTold _ =>
      exact isTick ▸ isTold
  | _ =>
      cases isTick

/-- The task that goes on does not drain a log, so that it may close a client. -/
def MayClose (station : Station) : Prop :=
  ∀ task outcome, station.loop.running = some (task, outcome) →
    ∃ topic, station.loop.topic? task = some topic ∧ topic ≠ .draining ∧ topic.IsErrand

/-- The task that goes on may close a client as long as it goes on. -/
theorem Onward.mayClose
    {before after : Station}
    (onward : before.Onward after)
    (mayClose : before.MayClose) :
    after.MayClose := by
  intro task outcome running
  obtain ⟨topic, told, others⟩ := mayClose task outcome (onward.grows.running ▸ running)
  exact ⟨topic, onward.loop.topics told, others⟩

/-- No task stands for something that has happened. -/
theorem Sound.task?_of_tick
    {promise : Nat}
    (sound : station.Sound hand)
    (mayClose : station.MayClose)
    (isTick : station.loop.topic? promise = some .tick) :
    station.loop.task? promise = none := by
  cases found : station.loop.task? promise with
  | none =>
      rfl
  | some state =>
      have member : ⟨promise, state.frames, state.waitingOn⟩ ∈ station.loop.stances :=
        Loop.mem_stances.mpr ⟨state, Loop.mem_of_task? found, rfl, rfl⟩
      by_cases aside : station.loop.IsAside promise
      · obtain ⟨goal, _, told, errand, _⟩ := sound.loop.rests _ member aside
        cases isTick.symm.trans told
        exact errand.elim
      · obtain ⟨outcome, running⟩ := not_forall_not.mp aside
        obtain ⟨topic, told, _, errand⟩ := mayClose promise outcome running
        cases isTick.symm.trans told
        exact errand.elim

/-- A task that drains a log is doomed when it is cancelled by someone who may close a client. -/
theorem Sound.doomed_cancel
    {task : Nat}
    (sound : station.Sound hand)
    (mayClose : station.MayClose)
    (draining : station.loop.topic? task = some .draining)
    (unsettled : station.loop.outcome? task = none) :
    (station.loop.cancel task).Doomed task := by
  have aside : station.loop.IsAside task := by
    intro outcome running
    obtain ⟨topic, told, other, _⟩ := mayClose task outcome running
    cases draining.symm.trans told
    exact other rfl
  refine sound.loop.doomed_cancel draining unsettled aside ?_
  rintro stance member rfl promise waits
  obtain ⟨goal, start, told, _, reaches, _, yields⟩ := sound.loop.rests stance member aside
  cases draining.symm.trans told
  have isTick : station.loop.topic? promise = some .tick := by
    rcases reaches.drains with ⟨_, rfl⟩ | ⟨_, _, rfl, _⟩
    · generalize isDraining : Topic.draining = topic at yields
      cases yields promise waits with
      | told _ shared =>
          subst isDraining
          exact shared.elim
      | _ =>
          cases isDraining
    · exact (yields promise waits).tick
  exact ⟨by rw [isTick]; rfl, sound.task?_of_tick mayClose isTick⟩

end Station

/-! ## Rules for the life of a client -/

namespace Move

variable {α β : Type} {hand : List Token} {station : Station}

/-! ## Start -/

theorem keeps_rootUri
    (sound : station.Sound hand)
    (session : Session) :
    Keeps hand station (rootUri session) (fun _ _ => True) fun _ => True := by
  unfold rootUri
  split
  · exact keeps_pure sound trivial
  · refine keeps_get ?_
    split
    · exact keeps_pure sound trivial
    · exact keeps_throw sound trivial

/-- A handshake leads to the end of the start of a client. -/
theorem leads_greet
    (sound : station.Sound hand)
    (id : Nat) :
    Leads hand station (greet id) (.greeting id) := by
  refine (keeps_session sound id).leads ?_ fun _ _ _ _ => nofun
  rintro session _ _ ⟨rfl, _⟩
  refine leads_get ?_
  refine (keeps_rootUri sound session).leads (fun uri mid comes _ => ?_) fun _ _ _ _ => nofun
  dsimp only
  split
  · exact leads_throw comes.sound nofun
  · exact (leads_request comes.sound id _ _ _).into_free (.refl _) (fun _ _ => .handshaken) rfl

theorem keeps_changeDisk
    (sound : station.Sound hand)
    (change : Disk → Except FileError Disk) :
    Keeps hand station (changeDisk change) (fun _ _ => True) fun _ => True := by
  refine keeps_get ?_
  split
  · exact keeps_throw sound trivial
  · exact keeps_modify (comes_changeDisk sound _) trivial

theorem keeps_openLog
    (sound : station.Sound hand)
    (session : Nat) :
    Keeps hand station (openLog session) (fun _ _ => True) fun _ => True := by
  refine ((keeps_client sound session).imp (fun _ _ _ => id) fun _ _ => trivial).bind ?_
  rintro client _ _ ⟨rfl, _⟩
  split
  · exact keeps_pure sound trivial
  · refine (keeps_changeDisk sound _).bind fun _ made comes _ => ?_
    refine (keeps_changeDisk comes.sound _).bind fun _ written later _ => ?_
    refine keeps_modify (later.sound.modifyClient (fun _ => rfl) (fun _ => List.Subset.refl _)
      fun client fits => ?_) trivial
    exact ⟨fits.process, fits.pending, fits.reader, fits.drain, fits.quiescent⟩

/-- The start of a client leads to its end. -/
theorem leads_startClient
    {session : Nat}
    (sound : station.Sound hand)
    (present : station.HasClient session) :
    Leads hand station (startClient session) (.greeting session) := by
  have mayRead : station.Admits (.readMessages session) := present
  refine (keeps_spawn sound mayRead id).then_leads fun reader mid spawned told => ?_
  have reads : Comes hand mid (mid.modifyClient session fun client =>
      { client with reader := some reader }) := by
    refine spawned.sound.modifyClient (fun _ => rfl) (fun _ => List.Subset.refl _)
      fun client fits => ?_
    refine ⟨fits.process, fits.pending, fun task isReader => ?_, fits.drain, fits.quiescent⟩
    cases isReader
    exact told
  refine leads_change reads (leads_get ?_)
  split
  · refine (keeps_openLog reads.sound session).leads (fun _ opened logs _ => ?_)
      fun _ _ _ _ => nofun
    have mayDrain : opened.Admits (.drainErrors session) :=
      (spawned.onward.trans (reads.onward.trans logs.onward)).hasClient present
    refine (keeps_spawn logs.sound mayDrain id).then_leads fun drain late drained told => ?_
    have drains : Comes hand late (late.modifyClient session fun client =>
        { client with drain := some drain }) := by
      refine drained.sound.modifyClient (fun _ => rfl) (fun _ => List.Subset.refl _)
        fun client fits => ?_
      refine ⟨fits.process, fits.pending, fits.reader, fun task isDrain => ?_, fits.quiescent⟩
      cases isDrain
      exact told
    exact leads_change drains (leads_greet drains.sound session)
  · exact leads_greet reads.sound session

/-- What a server answered to the handshake is accepted, and the server is told so, or it is not. -/
theorem leads_acceptHandshake
    (sound : station.Sound hand)
    (session : Nat)
    (answer : Json) :
    Leads hand station (acceptHandshake session answer) (.greeting session) := by
  unfold acceptHandshake
  generalize Schema.check "InitializeResult" InitializeResult.read (Act.presentParams answer) =
    checked
  cases checked with
  | error rejection =>
    exact leads_throw sound nofun
  | ok result =>
    refine Keeps.then_leads (keeps_modifySession sound session fun _ => rfl) fun _ mid comes _ => ?_
    refine (keeps_notify comes.sound session _ _).leads ?_ fun _ _ _ _ => nofun
    rintro _ told later ⟨_, sent⟩
    have initialized : Comes hand told (told.modifyClient session fun client =>
        { client with isInitialized := true }) := by
      refine later.sound.modifyClient (fun _ => rfl) (fun _ => List.Subset.refl _)
        fun client fits => ?_
      exact ⟨fits.process, fits.pending, fits.reader, fits.drain, fits.quiescent⟩
    have introduced : IsIntroduced told.chronicle session := ⟨_, sent, rfl⟩
    refine leads_change initialized ?_
    split
    · exact (keeps_say initialized.sound _ _).then_leads fun _ _ said _ =>
        leads_give said.sound fun _ _ => introduced.mono said.onward.chronicle
    · exact leads_give initialized.sound fun _ _ => introduced

/-- After the answer to the handshake the start of a client comes to its end. -/
theorem leads_afterHandshake
    (sound : station.Sound hand)
    (session : Nat)
    (outcome : Outcome) :
    Leads hand station (afterHandshake session outcome) (.greeting session) := by
  unfold afterHandshake
  split
  · exact leads_acceptHandshake sound session _
  · exact leads_acceptHandshake sound session _
  · exact leads_give sound nofun

/-! ## Stop -/

/-- The end of a stop is put on record. -/
theorem leads_endStop
    {session : Nat}
    {outcome : Outcome}
    (sound : station.Sound hand)
    (stopped : station.HasStopped session outcome)
    (impolite : station.Holds .stopping outcome) :
    Leads hand station (endStop session outcome) .stopping := by
  have inHand : station.Sound (Occurrence.spends (.stopped session outcome) ++ hand) := sound
  have recorded : Comes hand station
      { station with chronicle := station.chronicle ++ [.stopped session outcome] } :=
    inHand.record rfl stopped
  exact leads_change recorded (leads_give recorded.sound impolite)

/-- Waiting for the exit of a server, but not for long, leads to its exit code. -/
theorem leads_awaitExitPatiently
    {process : Nat}
    (sound : station.Sound hand)
    (known : ∃ state, station.process? process = some state) :
    Leads hand station (performWithin (.awaitExit process) patience) (.exit process) := by
  have admitted : station.Admits (.awaitExit process) := known
  exact leads_performFor sound admitted trivial (.within _)

/-- Waiting until a server has exited leads to the end of a stop. -/
theorem leads_awaitDeparture
    {session : Nat}
    (sound : station.Sound hand)
    (present : station.HasClient session) :
    Leads hand station (awaitDeparture session) .stopping := by
  refine (keeps_client_of sound present).then_leads ?_
  rintro client mid _ ⟨rfl, found⟩
  refine (keeps_serverHasExited sound session).then_leads ?_
  rintro exited mid _ ⟨rfl, gone⟩
  have talks : mid.TalksTo session client.process := ⟨client, found, rfl⟩
  split
  · rename_i hasExited
    obtain ⟨code, isGone⟩ := gone hasExited client found
    exact leads_endStop sound ⟨client.process, talks, .inl ⟨code, isGone⟩⟩ nofun
  · exact (leads_awaitExitPatiently sound (sound.clientFits found).process).into_free (.refl _)
      (fun after onward => .grace (onward.talksTo talks)) rfl

/-- Stopping a client comes to some end, and does not end with a failure that it expects. -/
theorem leads_stopClient
    (sound : station.Sound hand)
    (session : Nat) :
    Leads hand station (stopClient session) .stopping := by
  have impolite : ∀ (failure : Failure) (mid : Station), Comes hand station mid →
      (¬failure.IsResponse ∧ endsPolitely failure = false ∧ ¬station.HasClient session) →
      mid.Holds .stopping (.error failure) := by
    rintro failure mid _ failed _ ⟨rfl⟩
    exact failed.2.1
  refine (keeps_client sound session).leads ?_ impolite
  rintro client mid _ ⟨rfl, found⟩
  refine (keeps_serverHasExited sound session).then_leads ?_
  rintro exited mid _ ⟨rfl, _⟩
  have present : mid.HasClient session := ⟨client, found⟩
  have admitted : mid.Admits (.request session "shutdown" .null .null) := trivial
  split
  · exact (leads_performWithin sound admitted trivial (fun _ => nofun) _).into_free (.refl _)
      (fun after onward => .shutDown (onward.hasClient present)) rfl
  · exact leads_awaitDeparture sound present

theorem keeps_askToExit
    (sound : station.Sound hand)
    (session : Nat) :
    Keeps hand station (askToExit session) (fun _ _ => True) fun _ => False := by
  have told : Keeps hand station (do let _ ← notify session "exit" .null; return none)
      (fun (_ : Option Failure) _ => True) fun _ => True := by
    refine ((keeps_notify sound session _ _).imp (fun _ _ _ => id) fun _ _ => trivial).bind ?_
    exact fun _ mid comes _ => keeps_pure comes.sound trivial
  exact told.recover fun _ _ comes _ => keeps_pure comes.sound trivial

/-- After the shutdown a stop comes to its end, politely or not. -/
theorem leads_leaveShutdown
    {session : Nat}
    (sound : station.Sound hand)
    (present : station.HasClient session)
    (failed : Option Failure) :
    Leads hand station (leaveShutdown session failed) .stopping := by
  cases failed with
  | none =>
      exact leads_awaitDeparture sound present
  | some failure =>
      dsimp only [leaveShutdown]
      split
      · refine (keeps_say sound _ _).then_leads fun _ mid comes _ => ?_
        exact leads_awaitDeparture comes.sound (comes.onward.hasClient present)
      · rename_i impolite
        have isImpolite : endsPolitely failure = false := (Bool.not_eq_true _).mp impolite
        obtain ⟨client, found⟩ := present
        have stopped : station.HasStopped session (.error failure) :=
          ⟨client.process, ⟨client, found, rfl⟩, .inr (.inr ⟨failure, rfl, isImpolite⟩)⟩
        refine leads_endStop sound stopped fun _ same => ?_
        cases same
        exact isImpolite

/-- After the answer to the shutdown request a stop comes to its end. -/
theorem leads_afterShutdown
    {session : Nat}
    (sound : station.Sound hand)
    (present : station.HasClient session)
    (outcome : Outcome) :
    Leads hand station (afterShutdown session outcome) .stopping := by
  unfold afterShutdown
  split
  · refine (keeps_askToExit sound session).then_leads fun failed mid comes _ => ?_
    exact leads_leaveShutdown comes.sound (comes.onward.hasClient present) failed
  · exact leads_leaveShutdown sound present _

theorem keeps_signal
    {session process : Nat}
    (sound : station.Sound hand)
    (talks : station.TalksTo session process)
    (sent : Signal) :
    Keeps hand station (signal session sent) (fun _ after => after.WasSent process sent)
      fun _ => False := by
  obtain ⟨client, found, rfl⟩ := talks
  refine (keeps_client_of sound ⟨client, found⟩).then_keeps ?_
  rintro known _ _ ⟨rfl, same⟩
  cases found.symm.trans same
  obtain ⟨comes, signalled⟩ := sound.signal client.process sent
  exact keeps_modify comes (signalled (sound.clientFits found).process)

/-- Who stops waiting for an exit without its code was cancelled, or out of time. -/
theorem eq_cancelled_of_exit
    {process : Nat}
    {failure : Failure}
    (told : station.Holds (.exit process) (.error failure))
    (notLate : failure ≠ .timedOut) :
    failure = .cancelled :=
  told.resolve_right notLate

/-- After the time in which the server should have exited by itself, it has, or it is terminated. -/
theorem leads_afterGrace
    {session process : Nat}
    {outcome : Outcome}
    (sound : station.Sound hand)
    (talks : station.TalksTo session process)
    (told : station.Holds (.exit process) outcome) :
    Leads hand station (afterGrace session outcome) .stopping := by
  unfold afterGrace
  split
  · obtain ⟨code, _, exited⟩ := told
    exact leads_endStop sound ⟨process, talks, .inl ⟨code, exited⟩⟩ nofun
  · obtain ⟨client, found, rfl⟩ := talks
    refine (keeps_client_of sound ⟨client, found⟩).then_leads ?_
    rintro known mid _ ⟨rfl, same⟩
    cases found.symm.trans same
    have talks : mid.TalksTo session client.process := ⟨client, found, rfl⟩
    refine (keeps_signal sound talks _).then_leads fun _ after comes wasSent => ?_
    obtain ⟨state, isThere⟩ := (sound.clientFits found).process
    obtain ⟨now, isNow, _⟩ := comes.onward.processes isThere
    refine (leads_awaitExitPatiently comes.sound ⟨now, isNow⟩).into_free (.refl _) ?_ rfl
    intro late onward
    exact .lastGrace ((comes.onward.trans onward).talksTo talks)
      (onward.wasSignalled wasSent.wasSignalled)
  · rename_i failure notLate
    cases eq_cancelled_of_exit told notLate
    have stopped : station.HasStopped session .cancelled :=
      ⟨process, talks, .inr (.inr ⟨.cancelled, rfl, rfl⟩)⟩
    exact leads_endStop sound stopped (Station.holds_cancelled id)

/-- After the time in which the server should have exited when it was terminated, it has, or it is
killed. -/
theorem leads_afterLastGrace
    {session process : Nat}
    {outcome : Outcome}
    (sound : station.Sound hand)
    (talks : station.TalksTo session process)
    (signalled : station.WasSignalled process)
    (told : station.Holds (.exit process) outcome) :
    Leads hand station (afterLastGrace session outcome) .stopping := by
  unfold afterLastGrace
  split
  · exact leads_endStop sound ⟨process, talks, .inr (.inl signalled)⟩ nofun
  · refine (keeps_signal sound talks _).then_leads fun _ mid comes killed => ?_
    have stopped : mid.HasStopped session .done :=
      ⟨process, comes.onward.talksTo talks, .inr (.inl killed.wasSignalled)⟩
    exact leads_endStop comes.sound stopped nofun
  · rename_i failure notLate
    cases eq_cancelled_of_exit told notLate
    exact leads_endStop sound ⟨process, talks, .inr (.inl signalled)⟩ (Station.holds_cancelled id)

/-! ## Close -/

theorem client?_dismissed
    {session : Nat}
    {client : Client}
    (found : station.client? session = some client) :
    ((station.modifyClient session fun client => { client with pending := [] }).raise
      (.quiescent session)).client? session =
        some { client with pending := [], quiescent := ⟨true, []⟩ } := by
  show (Station.modifyClient _ session fun client =>
    { client with quiescent := ⟨true, []⟩ }).client? session = _
  rw [Station.client?_modifyClient, Station.client?_modifyClient, found]
  simp

/-- Everyone goes on who still waits for something from the server. -/
theorem leads_dismiss
    {session : Nat}
    (sound : station.Sound hand)
    (present : station.HasClient session) :
    Leads hand station (dismiss session) .closing := by
  refine (keeps_failPending sound present id).then_leads ?_
  rintro _ mid comes ⟨sameRuns, settled⟩
  have forgotten : Comes hand mid (mid.modifyClient session fun client =>
      { client with pending := [] }) := by
    refine comes.sound.reviseClient (fun _ => rfl) (fun client fits => ?_)
      fun other number promise pends => ?_
    · exact ⟨fits.process, nofun, fits.reader, fits.drain, fits.quiescent⟩
    · obtain ⟨client, found, isPending⟩ := pends
      have told := ((comes.sound.clientFits found).pending _ isPending).1
      by_cases same : other = session
      · subst same
        have pended : station.Pends other number promise :=
          .of_runs_eq ⟨client, found, isPending⟩ sameRuns.symm
        exact .resolved (.settled told (settled number promise pended))
      · have stillPends : (mid.modifyClient session fun client =>
            { client with pending := [] }).Pends other number promise :=
          ⟨client, by rw [Station.client?_modifyClient, found]; simp [same], isPending⟩
        exact .waits stillPends
  have raised := forgotten.sound.raise (.quiescent session)
  have nobody : ∀ number promise, ((mid.modifyClient session fun client =>
      { client with pending := [] }).raise (.quiescent session)).Pends session number promise →
      ((mid.modifyClient session fun client =>
        { client with pending := [] }).raise (.quiescent session)).loop.isSettled promise = true := by
    rintro number promise ⟨client, found, pending⟩
    obtain ⟨known, isKnown⟩ := comes.onward.hasClient present
    cases (client?_dismissed isKnown).symm.trans found
    cases pending
  have hungUp := comes_hangUp raised.sound nobody none
  exact leads_change forgotten (leads_change raised
    (leads_change hungUp (leads_give hungUp.sound ⟨_, rfl⟩)))

/-- Closing the tasks of a client one after the other ends well. -/
theorem leads_closeTasks
    {session : Nat}
    {tasks : List Nat}
    (sound : station.Sound hand)
    (present : station.HasClient session)
    (mayClose : station.MayClose)
    (quiet : ∀ task ∈ tasks, station.loop.topic? task = some .reading ∨
      station.loop.topic? task = some .draining) :
    Leads hand station (closeTasks session tasks) .closing := by
  induction tasks with
  | nil =>
      exact leads_dismiss sound present
  | cons task rest inductionHypothesis =>
      have restQuiet : ∀ other ∈ rest, station.loop.topic? other = some .reading ∨
          station.loop.topic? other = some .draining :=
        fun other member => quiet other (List.mem_cons_of_mem task member)
      refine leads_get ?_
      split
      · exact inductionHypothesis restQuiet
      · rename_i isOpen
        have cancelled := sound.cancel task
        have yields : (station.modifyLoop fun loop => loop.cancel task).Yields task .reading := by
          rcases quiet task List.mem_cons_self with isReading | isDraining
          · exact .told (cancelled.onward.loop.topics isReading) trivial
          · refine .doomed (sound.doomed_cancel mayClose isDraining ?_)
            simpa [Loop.isSettled] using isOpen
        refine leads_change cancelled (leads_pure cancelled.sound ?_)
        refine (Station.leads_await yields).into (.refl .reading) (.closing ?_ ?_)
          fun _ same => by cases same
        · exact cancelled.onward.hasClient present
        · exact fun other member => (restQuiet other member).imp
            cancelled.onward.loop.topics cancelled.onward.loop.topics

/-- Closing a client ends well. -/
theorem leads_closeClient
    {session : Nat}
    (sound : station.Sound hand)
    (present : station.HasClient session)
    (mayClose : station.MayClose) :
    Leads hand station (closeClient session) .closing := by
  refine (keeps_client_of sound present).then_leads ?_
  rintro client _ _ ⟨rfl, found⟩
  have fits := sound.clientFits found
  refine leads_closeTasks sound present mayClose fun task member => ?_
  obtain ⟨place, isThere, same⟩ := List.mem_filterMap.mp member
  subst same
  rcases List.mem_cons.mp isThere with isReader | isThere
  · exact .inl (fits.reader task isReader.symm)
  · exact .inr (fits.drain task (List.mem_singleton.mp isThere).symm)

/-- Closing a client that may be missing comes to some end. -/
theorem leads_closeClientIfAny
    (sound : station.Sound hand)
    (session : Nat)
    (mayClose : station.MayClose) :
    Leads hand station (closeClient session) .work := by
  by_cases present : station.HasClient session
  · exact (leads_closeClient sound present mayClose).serving (.inr rfl)
  · refine (keeps_client sound session).leads ?_ fun _ _ _ _ => trivial
    rintro client mid _ ⟨rfl, found⟩
    exact (present ⟨client, found⟩).elim

/-- After the end of a task that was cancelled closing goes on, and ends well. -/
theorem leads_afterClosing
    {session : Nat}
    {rest : List Nat}
    {outcome : Outcome}
    (sound : station.Sound hand)
    (present : station.HasClient session)
    (mayClose : station.MayClose)
    (quiet : ∀ task ∈ rest, station.loop.topic? task = some .reading ∨
      station.loop.topic? task = some .draining)
    (told : outcome.IsQuiet) :
    Leads hand station (afterClosing session rest outcome) .closing := by
  unfold afterClosing
  split
  · exact leads_closeTasks sound present mayClose quiet
  · exact leads_closeTasks sound present mayClose quiet
  · rename_i failure impossible
    exact (impossible (told failure rfl)).elim

/-! ## Waiting for a quiet server -/

/-- Waiting for a limited time until the server has nothing left to do comes to some end. -/
theorem leads_awaitQuiescentFor
    (sound : station.Sound hand)
    (session : Nat)
    (limit : Limit) :
    Leads hand station (awaitQuiescentFor session limit) .work := by
  refine leads_get ?_
  split
  · exact leads_give sound trivial
  · have admitted : station.Admits (.awaitFlag (.quiescent session)) := trivial
    exact (leads_performFor sound admitted trivial limit).into_free (.refl .work)
      (fun _ _ => .plain trivial) rfl

/-- Waiting within a limit until the server has nothing left to do comes to some end. -/
theorem leads_awaitQuiescent
    (sound : station.Sound hand)
    (session : Nat)
    (timeout : Json) :
    Leads hand station (awaitQuiescent session timeout) .work := by
  refine leads_get ?_
  split
  · exact leads_give sound trivial
  · have admitted : station.Admits (.awaitFlag (.quiescent session)) := trivial
    exact (leads_performWithin sound admitted trivial (fun _ => trivial) timeout).into_free
      (.refl .work)
      (fun _ _ => .plain trivial) rfl

/-- After waiting for a quiet server there is some end. -/
theorem leads_afterQuiescent
    (sound : station.Sound hand)
    (id : Nat)
    (outcome : Outcome) :
    Leads hand station (afterQuiescent id outcome) .work := by
  unfold afterQuiescent
  split
  · exact leads_give sound trivial
  · refine (keeps_session sound id).leads ?_ fun _ _ _ _ => trivial
    rintro session _ _ ⟨rfl, _⟩
    exact (keeps_say sound _ _).then_leads fun _ _ comes _ => leads_give comes.sound trivial
  · exact leads_give sound trivial

end Move

end AnalyzerSessions
