import AnalyzerSessions.Proofs.AttentiveStations
import AnalyzerSessions.Proofs.Conversations

namespace AnalyzerSessions

/-!
# Ready sessions

Whoever waits for a session to be ready is told so only when it is: the server has been
introduced and accepted, the session is running, the server has said that it is quiet and
well enough, and its client is not closed.  A call can be woken by the end of a start that
failed and by the closing of a client too; it tells nobody then that the session is ready.
-/

namespace Station

variable {before after station : Station} {session task : Nat} {outcome : Outcome}

/-! ## Ordinary runs -/

/-- Something that happens at a station when sessions are managed: clients are closed by the runs of
their servers only, handlers are called with what has arrived only, and sessions are changed by the
manager only.  What others do on the desk is as said. -/
inductive AdvancesAmong (others : Desk → Desk → Prop) (before : Station) : Station → Prop where
  | step :
      AdvancesAmong others before before.step
  | job {job : Job}
      (admitted : before.Admits job)
      (ordinary : ¬job.topic.IsSteady)
      (free : job.IsFree)
      (managed : job.IsManaged) :
      AdvancesAmong others before
        (before.modifyLoop fun loop => (loop.spawn job.topic [.begin job]).2)
  | start (overrides : Config.Entries Setting) (buffer : Option Int) :
      AdvancesAmong others before
        (Move.perform (Move.atDesk (Act.start overrides buffer)) before).2
  | stop (buffer : Option Int) :
      AdvancesAmong others before (Move.perform (Move.atDesk (Act.stop buffer)) before).2
  | outside {desk : Desk}
      (registry : desk.registry = before.desk.registry)
      (ledger : desk.ledger = before.desk.ledger)
      (done : others before.desk desk) :
      AdvancesAmong others before { before with desk }
  | server (number : Nat) (act : ServerAct) :
      AdvancesAmong others before (before.doServerAct number act)
  | clock (time : Number.Binary64) :
      AdvancesAmong others before (before.modifyLoop fun loop => loop.moveClock time)
  | timer (seconds : Number.Binary64) :
      AdvancesAmong others before (before.modifyLoop fun loop =>
        (loop.newPromise .tick).2.settleAfter (loop.newPromise .tick).1 seconds)
  | tidy :
      AdvancesAmong others before (before.modifyLoop Loop.tidyTimers)

/-- Others may do on the desk whatever does not concern sessions. -/
abbrev Advances (before after : Station) : Prop :=
  before.AdvancesAmong (fun _ _ => True) after

/-- What happens where others do certain things on the desk happens also where they may do anything. -/
theorem AdvancesAmong.advances
    {others : Desk → Desk → Prop}
    (advanced : before.AdvancesAmong others after) :
    before.Advances after := by
  cases advanced with
  | step => exact .step
  | job admitted ordinary free managed => exact .job admitted ordinary free managed
  | start overrides buffer => exact .start overrides buffer
  | stop buffer => exact .stop buffer
  | outside registry ledger done => exact .outside registry ledger trivial
  | server number act => exact .server number act
  | clock time => exact .clock time
  | timer seconds => exact .timer seconds
  | tidy => exact .tidy

/-- What happens then happens when sessions are managed. -/
theorem Advances.proceeds (advances : before.Advances after) : before.Proceeds after := by
  cases advances with
  | step => exact .step
  | job admitted ordinary free managed => exact .job admitted ordinary free
  | start overrides buffer => exact .start overrides buffer
  | stop buffer => exact .stop buffer
  | outside registry ledger done => exact .outside ledger
  | server number act => exact .server number act
  | clock time => exact .clock time
  | timer seconds => exact .timer seconds
  | tidy => exact .tidy

/-- What a server does by itself is made of edits. -/
theorem reworked_doServerAct
    {scope : Scope}
    {known : Nat}
    {base : Station}
    (held : base.ReworkedWithin scope known station)
    (number : Nat)
    (act : ServerAct) :
    base.ReworkedWithin scope known (station.doServerAct number act) := by
  cases act with
  | send bytes => exact held.edit (.output number fun stream => stream.feed bytes)
  | endOutput => exact held.edit (.output number _)
  | log bytes => exact held.edit (.errors number fun stream => stream.feed bytes)
  | exit code => exact held.edit (.exit number code)
  | breakPipe =>
      have ignores : ∀ (process : ServerProcess) promise, promise < known →
          process.Ignores promise → ({ process with isBroken := true } : ServerProcess).Ignores
            promise :=
        fun _ _ _ ignores => ⟨ignores.output, ignores.errors, ignores.exit⟩
      exact held.edit (.process number ignores)

/-- Whatever happens when sessions are managed leaves a station attentive. -/
theorem Attentive.advances
    (attentive : station.Attentive)
    (poised : station.Poised)
    (advances : station.Advances after) :
    after.Attentive := by
  have held : station.Reworked station.loop.promises.length station :=
    reworked_refl (Nat.le_refl _) poised.toSound.answersFit
  have afterSound := (poised.happens (poised.happensOf advances.proceeds)).1.toSound
  have edited : station.Reworked station.loop.promises.length after → after.Attentive :=
    attentive.edited poised afterSound
  cases advances with
  | step =>
      exact attentive.step poised
  | job admitted ordinary free managed =>
      exact edited (held.edit (.loop (.spawn managed)))
  | start overrides buffer =>
      exact edited (Move.reworks_atDesk held fun _ => .start overrides buffer).1
  | stop buffer =>
      exact edited (Move.reworks_atDesk held fun _ => .stop buffer).1
  | outside registry ledger done =>
      exact attentive.withDesk registry ledger
  | server number act =>
      exact edited (reworked_doServerAct held number act)
  | clock time =>
      exact edited (held.edit (.loop (.clock time)))
  | timer seconds =>
      have promised := held.edit (.loop (.promise .tick))
      exact edited (promised.edit (.loop (.timer (Nat.le_refl _) seconds)))
  | tidy =>
      exact edited (held.edit (.loop .tidied))

/-- A new station without sessions is attentive. -/
theorem IsNew.attentive
    (isNew : station.IsNew)
    (noSessions : station.desk.ledger.entries = []) :
    station.Attentive := by
  have noSession : ∀ session, station.session? session = none := by
    intro session
    cases found : station.session? session with
    | none => rfl
    | some known =>
        have member := (Act.entry_of_get? found).1
        rw [noSessions] at member
        cases member
  have noRun : ∀ session, station.run? session = none := by
    intro session
    cases found : station.run? session with
    | none => rfl
    | some run =>
        have known := (isNew.runs run (mem_of_run? found).1).known
        rw [Ledger.ids, noSessions] at known
        cases known
  have orderly : station.desk.ledger.Orderly := by
    refine ⟨isNew.numbered, fun entry member => ?_, fun entry member => ?_⟩
    · rw [noSessions] at member
      cases member
    · rw [noSessions] at member
      cases member
  refine ⟨⟨orderly, fun session => ?_, fun session settled => ?_, fun session isSet => ?_⟩,
    fun stance member => ?_, fun session hungUp => ?_⟩
  · rw [noSession]
    rfl
  · rw [noSession] at settled
    cases settled
  · rw [flag_quiescent, client?, noRun] at isSet
    cases isSet
  · rw [isNew.loop] at member
    cases member
  · rw [isNew.chronicle] at hungUp
    cases hungUp

end Station

/-- A station that has come from another one by what happens when sessions are managed. -/
inductive OrdinaryRun (initial : Station) : Station → Prop where
  | begin :
      OrdinaryRun initial initial
  | next {station after : Station}
      (earlier : OrdinaryRun initial station)
      (advanced : station.Advances after) :
      OrdinaryRun initial after

namespace OrdinaryRun

variable {initial station : Station}

/-- An ordinary run is a managed run. -/
theorem managed (run : OrdinaryRun initial station) : ManagedRun initial station := by
  induction run with
  | begin => exact .begin
  | next _ advanced inductionHypothesis => exact inductionHypothesis.next advanced.proceeds

/-- Every station of an ordinary run of a new station without sessions is attentive. -/
theorem attentive
    (isNew : initial.IsNew)
    (noSessions : initial.desk.ledger.entries = [])
    (run : OrdinaryRun initial station) :
    station.Attentive := by
  induction run with
  | begin =>
      exact isNew.attentive noSessions
  | next earlier advanced inductionHypothesis =>
      exact inductionHypothesis.advances (earlier.managed.courteous isNew noSessions).1 advanced

/-- Taking steps until nothing can go on is part of an ordinary run. -/
theorem settleWithin
    (fuel : Nat)
    (run : OrdinaryRun initial station) :
    OrdinaryRun initial (Station.settleWithin fuel station) :=
  Station.holds_settleWithin (fun _ run => run.next .step) fuel run

/-- Letting everything go on that can is part of an ordinary run. -/
theorem settle (run : OrdinaryRun initial station) : OrdinaryRun initial station.settle :=
  (run.settleWithin _).next .tidy

end OrdinaryRun

/-! ## Calls that find sessions ready -/

/-- A frame of a call that waits for a session to be ready. -/
inductive Frame.AwaitsReady (session : Nat) : Frame → Prop where
  | begin (timeout : Json) :
      AwaitsReady session (.begin (.awaitReady session timeout))
  | settled (deadline : Number.Binary64) :
      AwaitsReady session (.readySettled session deadline)
  | quiescent :
      AwaitsReady session (.readyQuiescent session)

/-- The session that is found to be ready in a frame. -/
def Frame.ready? : Frame → Option Nat
  | readyQuiescent session => some session
  | _ => none

namespace Station

variable {before after station : Station} {session task : Nat} {outcome : Outcome}

/-- The innermost frame of the running task belongs to a call that waits for a session to be ready, and
the call gives true. -/
inductive FindsReady (station : Station) (session : Nat) : Prop where
  | gives {task : Nat} {outcome : Outcome} {frame : Frame} {rest : List Frame}
      (running : station.loop.running = some (task, outcome))
      (isTop : station.loop.frames task = frame :: rest)
      (awaits : frame.AwaitsReady session)
      (isTrue : (station.moved task frame rest outcome).1 = Next.value (.bool true))

/-- A session is ready: its server answered the introduction well and was accepted, the session is
running, the server has said that it is quiet and well enough, and nothing has closed the client. -/
structure ServesWell (station : Station) (session : Nat) : Prop where
  handshake : ∃ answer result, WasReplied station.chronicle session "initialize" (.json answer) ∧
    Schema.check "InitializeResult" InitializeResult.read (Act.presentParams answer) = .ok result
  introduced : IsIntroduced station.chronicle session
  running : ∃ known, station.session? session = some known ∧ known.state = .running ∧
    known.trail = [.unstarted, .starting, .initialized, .running]
  reported : HasReported station.chronicle session
  connected : .hungUp session none ∉ station.chronicle

end Station

/-- A running session was started and initialized, and nothing else. -/
theorem SessionState.Lived.trail_of_running
    {trail : List SessionState}
    (lived : Lived .running trail) :
    trail = [.unstarted, .starting, .initialized, .running] := by
  cases lived
  rfl

theorem Next.into_ne_give
    (next : Next)
    (frame : Frame)
    (outcome : Outcome) :
    next.into frame ≠ Next.give outcome := by
  intro same
  have noFrames : next.frames ++ [frame] = [] := congrArg Next.frames same
  simp at noFrames

namespace Move

variable {station : Station} {session : Nat} {outcome : Outcome}

theorem awaitReady_ne_true (timeout : Json) :
    ((awaitReady session timeout).make station).1 ≠ Next.value (.bool true) := by
  unfold awaitReady
  split
  · nofun
  · rw [make_get_bind]
    split
    · nofun
    · rw [make_into]
      exact Next.into_ne_give _ _ _

theorem afterSettling_ne_true (deadline : Number.Binary64) :
    ((afterSettling session deadline outcome).make station).1 ≠ Next.value (.bool true) := by
  unfold afterSettling
  split
  · nofun
  · nofun
  · rw [make_get_bind]
    dsimp only
    split
    · rw [make_into]
      exact Next.into_ne_give _ _ _
    · nofun

/-- Readiness is found only where it was told that the server is quiet, and only of a running session. -/
theorem running_of_afterReadiness
    (isTrue : ((afterReadiness session outcome).make station).1 = Next.value (.bool true)) :
    outcome = .ok (.json (.bool true)) ∧
      ∃ known, station.session? session = some known ∧ known.state = .running := by
  unfold afterReadiness at isTrue
  split at isTrue
  · have gives : Next.value (.bool ((station.session? session).map Session.state ==
        some .running)) = Next.value (.bool true) := isTrue
    injection gives with _ samePause
    injection samePause with sameOutcome
    injection sameOutcome with sameValue
    injection sameValue with sameJson
    injection sameJson with isRunning
    obtain ⟨known, found, state⟩ := Option.map_eq_some_iff.mp (beq_iff_eq.mp isRunning)
    exact ⟨rfl, known, found, state⟩
  · cases isTrue
  · cases isTrue

end Move

namespace Station

variable {station : Station} {session : Nat}

/-- Whoever wants the session of a run that has parted finds it stopped. -/
theorem Sound.not_running_of_parted
    {hand : List Token}
    {code : Json}
    {outcome : Outcome}
    {known : Session}
    (sound : station.Sound hand)
    (parted : .parted session code outcome ∈ station.chronicle)
    (found : station.session? session = some known) :
    known.state ≠ .running := by
  obtain ⟨_, ⟨entry, member, isEntry, isStopped⟩, _⟩ := sound.tale.partings _ _ _ parted
  obtain ⟨isThere, isKnown⟩ := Act.entry_of_get? found
  have sameId : known.entry.id = entry.id := isKnown.trans isEntry.symm
  have same := sound.desk.numbered.eq_of_id_eq isThere member sameId
  intro running
  have state : known.entry.state = .running := running
  rw [same, isStopped] at state
  cases state

/-- A client that was introduced had a valid answer to its introduction. -/
theorem Mannered.handshake
    {hand : List Right}
    (mannered : station.Mannered hand)
    (introduced : IsIntroduced station.chronicle session) :
    ∃ answer result, WasReplied station.chronicle session "initialize" (.json answer) ∧
      Schema.check "InitializeResult" InitializeResult.read (Act.presentParams answer) =
        .ok result := by
  obtain ⟨message, sent, isAcceptance⟩ := introduced
  obtain ⟨before, after, split⟩ := List.append_of_mem sent
  have isPart : before ++ [.sent session message] <+: station.chronicle :=
    ⟨after, by rw [split, List.append_assoc]; rfl⟩
  have isSpoken : message.get? "method" ≠ none := by
    rw [isAcceptance]
    nofun
  obtain ⟨_, answer, result, replied, valid⟩ :=
    (mannered.isInPlace isPart isSpoken).acceptance isAcceptance
  exact ⟨answer, result, replied.mono ((List.prefix_append _ _).trans isPart), valid⟩

/-- A call that waits for a session to be ready gives true only when the session is ready. -/
theorem Attentive.servesWell
    (attentive : station.Attentive)
    (poised : station.Poised)
    (courteous : station.Courteous)
    (finds : station.FindsReady session) :
    station.ServesWell session := by
  obtain ⟨running, isTop, awaits, isTrue⟩ := finds
  rename_i task outcome frame rest
  have sound := poised.toSound
  -- Only the last frame of the call gives true.
  cases awaits with
  | begin timeout =>
      cases outcome with
      | ok value => exact (Move.awaitReady_ne_true timeout isTrue).elim
      | error failure => cases isTrue
  | settled deadline =>
      exact (Move.afterSettling_ne_true deadline isTrue).elim
  | quiescent =>
      obtain ⟨rfl, known, found, isRunning⟩ := Move.running_of_afterReadiness isTrue
      have found : station.session? session = some known := found
      obtain ⟨stance, member, rfl⟩ := sound.loop.running running
      have heeds := attentive.heeds stance member
      rw [Loop.given?_of_running running, ← sound.loop.frames_of_mem member, isTop] at heeds
      have connected : .hungUp session none ∉ station.chronicle := by
        intro hungUp
        cases attentive.left session hungUp with
        | parted parted => exact sound.not_running_of_parted parted found isRunning
        | parts runs parts =>
            cases running.symm.trans runs
            rw [isTop] at parts
            cases parts
      have passes : MayPass station.chronicle session := by
        cases heeds with
        | ordinary managed => exact (managed _ List.mem_cons_self).elim
        | ready passes managed => exact passes rfl
        | limits isLimit => cases isLimit
      obtain ⟨isThere, isKnown⟩ := Act.entry_of_get? found
      have introduced : IsIntroduced station.chronicle session :=
        isKnown ▸ courteous.toMannered.running known.entry isThere isRunning
      have lived : SessionState.Lived known.state known.trail :=
        (attentive.orderly.sound known.entry isThere).lived
      rw [isRunning] at lived
      exact ⟨courteous.toMannered.handshake introduced, introduced,
        ⟨known, found, isRunning, lived.trail_of_running⟩, passes.resolve_right connected, connected⟩

/-- A call that is told that the server of a running session is quiet gives true. -/
theorem findsReady_of_running
    {task : Nat}
    {known : Session}
    (running : station.loop.running = some (task, .ok (.json (.bool true))))
    (isTop : (station.loop.frames task).head?.bind Frame.ready? = some session)
    (found : station.session? session = some known)
    (isRunning : known.state = .running) :
    station.FindsReady session := by
  obtain ⟨frame, isHead, isReady⟩ := Option.bind_eq_some_iff.mp isTop
  obtain ⟨rest, framesNow⟩ := List.head?_eq_some_iff.mp isHead
  have isFrame : frame = .readyQuiescent session := by
    cases frame <;> cases isReady
    rfl
  subst isFrame
  refine .gives running framesNow .quiescent ?_
  have gives : (station.moved task (.readyQuiescent session) rest (.ok (.json (.bool true)))).1 =
      Next.value (.bool ((station.session? session).map Session.state == some .running)) :=
    rfl
  rw [gives, found, Option.map_some, isRunning]
  rfl

/-- A message in which a server says that it is quiet and well. -/
def quietMessage : Json :=
  .obj [("jsonrpc", .str "2.0"), ("method", .str "experimental/serverStatus"),
    ("params", .obj [("health", .str "ok"), ("quiescent", .bool true)])]

/-- An accepted server is waited for, says that it is quiet, and is about to be found ready. -/
def aboutReady : Station :=
  settleWithin 14 ((accepted.undertake (.awaitReady 1 (.int 5))).2.doServerAct 1
    (.send (Wire.frame quietMessage)))

end Station

namespace OrdinaryRun

variable {initial station : Station} {session : Nat}

/-- Waiting for an accepted server that says that it is quiet is an ordinary run. -/
theorem aboutReady : OrdinaryRun (Station.vacant .bare []) Station.aboutReady := by
  have launched : OrdinaryRun (Station.vacant .bare []) (Station.launched .bare []) :=
    (begin.next (.start Station.terse none)).settle
  have accepted : OrdinaryRun (Station.vacant .bare []) Station.accepted :=
    (launched.next (.server 1 (.send (Wire.frame Station.acceptedAnswer)))).settle
  have waiting : OrdinaryRun (Station.vacant .bare [])
      (Station.accepted.undertake (.awaitReady 1 (.int 5))).2 := by
    have asked : Station.accepted.Advances (Station.accepted.modifyLoop fun loop =>
        (loop.spawn .work [.begin (.awaitReady 1 (.int 5))]).2) :=
      @Station.AdvancesAmong.job _ _ (.awaitReady 1 (.int 5)) trivial id trivial trivial
    exact (accepted.next asked).settle
  exact (waiting.next (.server 1 (.send (Wire.frame Station.quietMessage)))).settleWithin 14

/-- Whenever a call that waits for a session to be ready gives true, the session is ready: its server
has answered the introduction and was accepted, the session is running, the server has said that it
is quiet and well enough, and its client was not closed. -/
theorem finds_ready_sessions
    (isNew : initial.IsNew)
    (noSessions : initial.desk.ledger.entries = [])
    (reached : OrdinaryRun initial station)
    (finds : station.FindsReady session) :
    station.ServesWell session := by
  obtain ⟨poised, courteous⟩ := reached.managed.courteous isNew noSessions
  exact (reached.attentive isNew noSessions).servesWell poised courteous finds

/-- A server that says that it is quiet while it is waited for. -/
theorem quiet_server_is_found_ready :
    (Station.vacant .bare []).IsNew ∧ (Station.vacant .bare []).desk.ledger.entries = [] ∧
      OrdinaryRun (Station.vacant .bare []) Station.aboutReady ∧
      Station.aboutReady.FindsReady 1 ∧ Station.aboutReady.ServesWell 1 := by
  have running : Station.aboutReady.loop.running = some (7, .ok (.json (.bool true))) := by
    decide +kernel
  have isTop : (Station.aboutReady.loop.frames 7).head?.bind Frame.ready? = some 1 := by
    decide +kernel
  have state : (Station.aboutReady.session? 1).map Session.state = some .running := by
    decide +kernel
  obtain ⟨known, found, isRunning⟩ := Option.map_eq_some_iff.mp state
  have finds := Station.findsReady_of_running running isTop found isRunning
  have isNew := Station.isNew_vacant .bare []
  exact ⟨isNew, rfl, aboutReady, finds, finds_ready_sessions isNew rfl aboutReady finds⟩

end OrdinaryRun

end AnalyzerSessions
