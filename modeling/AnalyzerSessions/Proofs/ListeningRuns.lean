import AnalyzerSessions.Proofs.MirroredFlags

namespace AnalyzerSessions

/-!
# Flags in step with statuses

However clients handle the messages of their servers, the flag of a quiet server is in step
with the status of its session.  It is behind for the one moment between the handler of a
status and the frame in which the flag follows; a server that asks for an answer to its
status is not followed at all, and the closing of a client sets the flag for good.  Every
step of a station keeps this.
-/

namespace Station

variable {before after station : Station} {session task : Nat} {outcome : Outcome}

/-- The status handler of a session has been called, and the flag follows the status next. -/
inductive IsNoting (station : Station) (session : Nat) : Prop where
  | follows {task : Nat} {value : Value} {rest : List Frame}
      (running : station.loop.running = some (task, .ok value))
      (isTop : station.loop.frames task = .noted session statusMethod :: rest)

/-- How the flag of a quiet server may go with the status of its session. -/
inductive InStep (station : Station) (session : Nat) : Prop where
  | mirrors
      (mirrors : station.Mirrors session)
  | notes
      (isNoting : station.IsNoting session)
      (present : station.HasClient session)
  | asked
      (asked : IsAsked station.chronicle session)
  | closed
      (hungUp : .hungUp session none ∈ station.chronicle)

/-- A station whose flags are in step with the statuses, and will be whatever its tasks go on with. -/
structure Attuned (station : Station) : Prop extends station.Informed where
  begins : ∀ stance ∈ station.loop.stances, ∀ frame ∈ stance.frames,
    frame.BeginsAmong station.Permits
  inStep : ∀ session, station.InStep session

/-! ## Changes beside the running task -/

/-- What is in step stays so where neither the statuses nor the flags change. -/
theorem InStep.of_same
    (inStep : before.InStep session)
    (registry : after.desk.registry = before.desk.registry)
    (runs : after.runs = before.runs)
    (chronicle : after.chronicle = before.chronicle)
    (noting : before.IsNoting session → after.IsNoting session) :
    after.InStep session := by
  cases inStep with
  | mirrors mirrors => exact .mirrors (mirrors.of_same registry runs)
  | notes isNoting present =>
      obtain ⟨client, found⟩ := present
      exact .notes (noting isNoting) ⟨client, (client?_congr runs session).trans found⟩
  | asked asked => exact .asked (chronicle ▸ asked)
  | closed hungUp => exact .closed (chronicle ▸ hungUp)

/-- Edits that concern no session's status and start no server, and in which tasks are given what they may
be given at a station. -/
def besideTasks (station : Station) : Scope where
  hears _ := False
  starts _ := False
  gives := station.Permits
  inner := permits_of_isInner

/-- A station stays attuned when it is edited beside the running task. -/
theorem Attuned.edited
    (attuned : station.Attuned)
    (poised : station.Poised)
    (afterSound : after.Sound [])
    (lasts : station.Lasts after)
    (reworked : station.ReworkedWithin station.besideTasks station.loop.promises.length after) :
    after.Attuned := by
  have chronicle := reworked.chronicle.subset
  have enlarges := reworked.enlarges
  refine ⟨reworked.informed attuned.toInformed, fun stance member frame isFrame => ?_,
    fun session => ?_⟩
  · rcases enlarges.added stance member with old | ⟨_, job, permitted, begins⟩
    · exact (attuned.begins stance old frame isFrame).mono lasts.permits
    · rw [begins] at isFrame
      cases List.mem_singleton.mp isFrame
      exact lasts.permits permitted
  · cases attuned.inStep session with
    | mirrors mirrors => exact .mirrors (reworked.mirrors id (fun starts => starts.elim) mirrors)
    | notes isNoting present =>
        obtain ⟨running, isTop⟩ := isNoting
        obtain ⟨stance, member, rfl⟩ := poised.toSound.loop.running running
        have sameFrames := (afterSound.loop.frames_of_mem (enlarges.kept stance member)).trans
          (poised.toSound.loop.frames_of_mem member).symm
        exact .notes (.follows (enlarges.running.trans running) (sameFrames.trans isTop))
          (lasts.hasClient present)
    | asked asked => exact .asked (asked.mono chronicle)
    | closed hungUp => exact .closed (chronicle hungUp)

/-- A station stays attuned when something on its desk changes that does not concern sessions. -/
theorem Attuned.withDesk
    {desk : Desk}
    (attuned : station.Attuned)
    (registry : desk.registry = station.desk.registry)
    (ledger : desk.ledger = station.desk.ledger) :
    ({ station with desk } : Station).Attuned :=
  ⟨attuned.toInformed.withDesk registry ledger, attuned.begins, fun session =>
    (attuned.inStep session).of_same registry rfl rfl fun isNoting => by
      obtain ⟨running, isTop⟩ := isNoting
      exact .follows running isTop⟩

/-! ## Steps -/

theorem Attuned.takeTurn
    (attuned : station.Attuned)
    (nobody : station.loop.running = none) :
    (station.modifyLoop Loop.takeTurn).Attuned := by
  refine ⟨attuned.toInformed.withLoop _, fun stance member => ?_, fun session => ?_⟩
  · have isStack : (stance.task, stance.frames) ∈ station.loop.takeTurn.frameStacks :=
      Loop.mem_frameStacks.mpr ⟨stance, member, rfl, rfl⟩
    rw [Loop.frameStacks_takeTurn] at isStack
    obtain ⟨old, wasThere, _, sameFrames⟩ := Loop.mem_frameStacks.mp isStack
    rw [← sameFrames]
    exact attuned.begins old wasThere
  · refine (attuned.inStep session).of_same rfl rfl rfl fun isNoting => ?_
    obtain ⟨running, isTop⟩ := isNoting
    cases nobody.symm.trans running

theorem Attuned.finish
    (attuned : station.Attuned)
    (running : station.loop.running = some (task, outcome))
    (bare : station.loop.frames task = []) :
    (station.modifyLoop fun loop => loop.finish task outcome).Attuned := by
  refine ⟨attuned.toInformed.withLoop _, fun stance member => ?_, fun session => ?_⟩
  · exact attuned.begins stance (Loop.stances_finish member).2
  · refine (attuned.inStep session).of_same rfl rfl rfl fun isNoting => ?_
    obtain ⟨runs, isTop⟩ := isNoting
    cases running.symm.trans runs
    cases bare.symm.trans isTop

/-- Whoever reads messages of a server or handles one has a client. -/
theorem Hears.hasClient
    {frame : Frame}
    {wanted given : Topic}
    (hears : station.Hears session frame)
    (begins : frame.BeginsAmong station.Permits)
    (taken : station.Takes frame wanted given) :
    station.HasClient session := by
  cases hears with
  | handles notes => exact begins
  | reads reads finds notes =>
      rcases Frame.phase?_eq_some reads with ⟨rfl, rfl⟩ | rfl | ⟨rfl, rfl⟩
      · cases taken with
        | begin admitted => exact admitted
        | plain isPlain => exact isPlain.elim
      · cases taken with
        | reading present => exact present
        | plain isPlain => exact isPlain.elim
      · cases taken with
        | handled present => exact present
        | plain isPlain => exact isPlain.elim

/-- A server that is about to start has not said anything yet. -/
theorem Mirrors.restless
    (mirrors : station.Mirrors session)
    (noClient : station.client? session = none) :
    station.saysQuiet session = false := by
  refine mirrors.symm.trans ?_
  rw [flag_quiescent, noClient]
  rfl

/-- What a frame that goes on with an outcome may concern. -/
def concerns (station : Station) (frame : Frame) (outcome : Outcome) : Scope where
  hears session := (∃ value, outcome = .ok value) ∧ station.Hears session frame
  starts := frame.Starts
  gives := Job.IsInner
  inner := id

/-- What the innermost frame of the running task comes to. -/
theorem Attuned.evolvesInto
    {frame : Frame}
    {rest : List Frame}
    (attuned : station.Attuned)
    (poised : station.Poised)
    (running : station.loop.running = some (task, outcome))
    (isTop : station.loop.frames task = frame :: rest) :
    (station.laid task rest).EvolvesInto ((station.laid task rest).concerns frame outcome)
        (station.moved task frame rest outcome) ∧
      ∀ known ∈ frame :: rest, known.BeginsAmong station.Permits := by
  obtain ⟨turns, given, goal, resumes⟩ := poised.turns running isTop
  obtain ⟨wanted, taken, told⟩ := resumes.taken
  obtain ⟨stance, member, rfl⟩ := poised.toSound.loop.running running
  have begins := attuned.begins stance member
  rw [← poised.toSound.loop.frames_of_mem member, isTop] at begins
  have held : Station.ReworkedWithin ((station.laid stance.task rest).concerns frame outcome)
      (station.laid stance.task rest).loop.promises.length (station.laid stance.task rest)
      (station.laid stance.task rest) :=
    reworked_refl (Nat.le_refl _) turns.laid.answersFit
  exact ⟨taken.evolvesInto told held (begins frame List.mem_cons_self)
    (fun value same session hears => ⟨⟨value, same⟩, hears⟩) fun _ => id, begins⟩

/-- The frames that a task goes on with are begun as they may be. -/
theorem Attuned.begins_goOn
    {frame : Frame}
    {rest : List Frame}
    (attuned : station.Attuned)
    (poised : station.Poised)
    (running : station.loop.running = some (task, outcome))
    (isTop : station.loop.frames task = frame :: rest) :
    ∀ stance ∈ station.step.loop.stances, ∀ frame ∈ stance.frames,
      frame.BeginsAmong station.step.Permits := by
  obtain ⟨turns, _⟩ := poised.turns running isTop
  obtain ⟨evolves, begins⟩ := attuned.evolvesInto poised running isTop
  have stepSound := poised.step.1.toSound
  have lasts := poised.step.2
  have framesNow := @Sound.frames_follow _ _ _ _ (station.moved task frame rest outcome).1
    turns.sound turns.running rest
  intro stance member known isFrame
  by_cases isTask : stance.task = task
  · rw [← stepSound.loop.frames_of_mem member, isTask, turns.step, framesNow] at isFrame
    rcases List.mem_append.mp isFrame with isNext | isOld
    · exact (evolves.begins known isNext).mono permits_of_isInner
    · exact (begins known (List.mem_cons_of_mem _ isOld)).mono lasts.permits
  · rw [turns.step] at member
    rcases evolves.evolves.enlarges.added stance (stances_follow member isTask) with
      old | ⟨_, job, inner, begun⟩
    · rcases Loop.mem_stances_modifyTask old with ⟨same, _⟩ | ⟨_, wasThere⟩
      · exact (isTask same).elim
      · exact (attuned.begins stance wasThere known isFrame).mono lasts.permits
    · rw [begun] at isFrame
      cases List.mem_singleton.mp isFrame
      exact permits_of_isInner inner

/-- When a frame goes on, the flag of a quiet server goes on with the status of its session. -/
theorem Attuned.inStep_goOn
    {frame : Frame}
    {rest : List Frame}
    (attuned : station.Attuned)
    (poised : station.Poised)
    (running : station.loop.running = some (task, outcome))
    (isTop : station.loop.frames task = frame :: rest)
    (session : Nat) :
    station.step.InStep session := by
  obtain ⟨turns, given, goal, resumes⟩ := poised.turns running isTop
  obtain ⟨wanted, taken, told⟩ := resumes.taken
  obtain ⟨evolves, begins⟩ := attuned.evolvesInto poised running isTop
  have chronicle : station.chronicle ⊆ (station.moved task frame rest outcome).2.chronicle :=
    evolves.evolves.chronicle
  have framesNow := @Sound.frames_follow _ _ _ _ (station.moved task frame rest outcome).1
    turns.sound turns.running rest
  have mirrored : (station.moved task frame rest outcome).2.Mirrors session →
      station.step.Mirrors session := by
    intro mirrors
    rw [turns.step]
    exact mirrors.of_same rfl rfl
  cases attuned.inStep session with
  | asked asked =>
      exact .asked (turns.step ▸ asked.mono chronicle)
  | closed hungUp =>
      exact .closed (turns.step ▸ chronicle hungUp)
  | notes isNoting present =>
      -- The running task is the one that follows the status.
      obtain @⟨_, value, _, runs, isNoted⟩ := isNoting
      cases running.symm.trans runs
      cases isTop.symm.trans isNoted
      have present : (station.laid task rest).HasClient session := present
      exact .mirrors (mirrored (Move.mirrors_afterNotification present value))
  | mirrors mirrors =>
      have mirrors : (station.laid task rest).Mirrors session := mirrors.of_same rfl rfl
      by_cases heard : ((station.laid task rest).concerns frame outcome).hears session
      · obtain ⟨⟨value, rfl⟩, hears⟩ := heard
        have present := hears.hasClient (begins frame List.mem_cons_self) taken
        have informed : (station.laid task rest).Informed := attuned.toInformed.withLoop _
        rcases hears.tells informed turns.laid.answersFit value with ⟨outer, next⟩ | asked
        · refine .notes ?_ (poised.step.2.hasClient present)
          have next : (station.moved task frame rest (.ok value)).1 = _ := next
          rw [turns.step]
          rw [next] at framesNow ⊢
          exact .follows rfl framesNow
        · rw [turns.step]
          exact .asked asked
      · rcases evolves.evolves.mirrors heard (fun starts =>
          mirrors.restless (resumes.fits.early session starts)) mirrors with follows | hungUp
        · exact .mirrors (mirrored follows)
        · rw [turns.step]
          exact .closed hungUp

/-- Every step of a poised station leaves it attuned. -/
theorem Attuned.step
    (attuned : station.Attuned)
    (poised : station.Poised) :
    station.step.Attuned := by
  cases running : station.loop.running with
  | none =>
      have turned := attuned.takeTurn running
      rwa [Station.step, running]
  | some known =>
      obtain ⟨task, outcome⟩ := known
      cases isTop : station.loop.frames task with
      | nil =>
          have finished := attuned.finish running isTop
          rw [Station.step, running]
          dsimp only [Station.goOn]
          rwa [isTop]
      | cons frame rest =>
          obtain ⟨turns, _⟩ := poised.turns running isTop
          have evolves := (attuned.evolvesInto poised running isTop).1.evolves
          have laid : (station.laid task rest).Informed := attuned.toInformed.withLoop _
          refine ⟨?_, attuned.begins_goOn poised running isTop,
            attuned.inStep_goOn poised running isTop⟩
          rw [turns.step]
          exact (evolves.informed laid).withLoop _

/-! ## Runs -/

/-- Something that happens at a station whose clients listen to their servers: sessions are started and
stopped, jobs are given to tasks, servers do what they like, and time passes. -/
inductive Listens (before : Station) : Station → Prop where
  | step :
      Listens before before.step
  | job {job : Job}
      (admitted : before.Admits job)
      (ordinary : ¬job.topic.IsSteady)
      (permitted : before.Permits job) :
      Listens before (before.modifyLoop fun loop => (loop.spawn job.topic [.begin job]).2)
  | start (overrides : Config.Entries Setting) (buffer : Option Int) :
      Listens before (Move.perform (Move.atDesk (Act.start overrides buffer)) before).2
  | stop (buffer : Option Int) :
      Listens before (Move.perform (Move.atDesk (Act.stop buffer)) before).2
  | outside {desk : Desk}
      (registry : desk.registry = before.desk.registry)
      (ledger : desk.ledger = before.desk.ledger) :
      Listens before { before with desk }
  | server (number : Nat) (act : ServerAct) :
      Listens before (before.doServerAct number act)
  | clock (time : Number.Binary64) :
      Listens before (before.modifyLoop fun loop => loop.moveClock time)
  | timer (seconds : Number.Binary64) :
      Listens before (before.modifyLoop fun loop =>
        (loop.newPromise .tick).2.settleAfter (loop.newPromise .tick).1 seconds)
  | tidy :
      Listens before (before.modifyLoop Loop.tidyTimers)

theorem Poised.happensOf_listens
    (poised : station.Poised)
    (listens : station.Listens after) :
    station.Happens after := by
  have desk := poised.toSound.desk
  cases listens with
  | step => exact .step
  | job admitted ordinary permitted => exact .job admitted ordinary
  | start overrides buffer =>
      exact .act (Act.isSafeAt_start desk.numbered desk.silent overrides buffer)
  | stop buffer => exact .act (Act.isSafeAt_stop desk.numbered desk.silent buffer)
  | outside registry ledger => exact .outside ledger
  | server number act => exact .server number act
  | clock time => exact .clock time
  | timer seconds => exact .timer seconds
  | tidy => exact .tidy

/-- Whatever happens at a station whose clients listen leaves it attuned. -/
theorem Attuned.listens
    (attuned : station.Attuned)
    (poised : station.Poised)
    (listens : station.Listens after) :
    after.Attuned := by
  have held : station.ReworkedWithin station.besideTasks station.loop.promises.length station :=
    reworked_refl (Nat.le_refl _) poised.toSound.answersFit
  obtain ⟨afterPoised, lasts⟩ := poised.happens (poised.happensOf_listens listens)
  have edited : station.ReworkedWithin station.besideTasks station.loop.promises.length after →
      after.Attuned :=
    attuned.edited poised afterPoised.toSound lasts
  cases listens with
  | step =>
      exact attuned.step poised
  | job admitted ordinary permitted =>
      exact edited (held.edit (.loop (.spawn permitted)))
  | start overrides buffer =>
      exact edited (Move.reworks_atDesk held fun _ => .start overrides buffer).1
  | stop buffer =>
      exact edited (Move.reworks_atDesk held fun _ => .stop buffer).1
  | outside registry ledger =>
      exact attuned.withDesk registry ledger
  | server number act =>
      exact edited (reworked_doServerAct held number act)
  | clock time =>
      exact edited (held.edit (.loop (.clock time)))
  | timer seconds =>
      have promised := held.edit (.loop (.promise .tick))
      exact edited (promised.edit (.loop (.timer (Nat.le_refl _) seconds)))
  | tidy =>
      exact edited (held.edit (.loop .tidied))

/-- At a new station no flag is set, and no server has said anything. -/
theorem IsNew.attuned
    (isNew : station.IsNew)
    (informed : station.Informed) :
    station.Attuned := by
  refine ⟨informed, fun stance member => ?_, fun session => .mirrors ?_⟩
  · rw [isNew.loop] at member
    cases member
  · have lowered : (station.flag (.quiescent session)).isSet = false := by
      rw [flag_quiescent]
      cases found : station.client? session with
      | none => rfl
      | some client =>
          obtain ⟨run, isRun, isClient⟩ := run?_of_client? found
          obtain ⟨_, _, _, _, rfl, _⟩ :=
            (isNew.runs run (mem_of_run? isRun).1).client client isClient
          rfl
    have unsaid : station.saysQuiet session = false := by
      refine eq_false_of_ne_true fun quiet => ?_
      obtain ⟨message, _, arrived, _⟩ := informed.heard session quiet
      rw [isNew.chronicle] at arrived
      cases arrived
    exact lowered.trans unsaid.symm

end Station

/-- A station that has come from another one by what happens where clients listen to their servers. -/
inductive ListeningRun (initial : Station) : Station → Prop where
  | begin :
      ListeningRun initial initial
  | next {station after : Station}
      (earlier : ListeningRun initial station)
      (happened : station.Listens after) :
      ListeningRun initial after

namespace ListeningRun

variable {initial station : Station} {session : Nat}

/-- Every station of a listening run of a new station is attuned. -/
theorem attuned
    (isNew : initial.IsNew)
    (informed : initial.Informed)
    (run : ListeningRun initial station) :
    station.Poised ∧ station.Attuned := by
  induction run with
  | begin =>
      exact ⟨isNew.poised, isNew.attuned informed⟩
  | next _ happened inductionHypothesis =>
      obtain ⟨poised, attuned⟩ := inductionHypothesis
      exact ⟨(poised.happens (poised.happensOf_listens happened)).1,
        attuned.listens poised happened⟩

/-- Taking steps until nothing can go on is part of a listening run. -/
theorem settle (run : ListeningRun initial station) : ListeningRun initial station.settle :=
  (Station.holds_settleWithin (fun _ run => run.next .step) _ run).next .tidy

end ListeningRun

namespace Station

/-- The flag of a quiet server says what the last status of its session says, and nothing before the
server has told a status. -/
structure TellsStatus (station : Station) (session : Nat) : Prop where
  mirrors : (station.flag (.quiescent session)).isSet = true ↔
    ∃ known status, station.session? session = some known ∧ known.status = some status ∧
      status.quiescent = true ∧ status.health ≠ .error
  untold : (∀ message, .arrived session message ∈ station.chronicle →
      message.get? "method" ≠ some statusMethod) →
    (station.flag (.quiescent session)).isSet = false

/-- What it takes for a status to say that a server has nothing left to do. -/
theorem saysQuiet_iff
    (station : Station)
    (session : Nat) :
    station.saysQuiet session = true ↔
      ∃ known status, station.session? session = some known ∧ known.status = some status ∧
        status.quiescent = true ∧ status.health ≠ .error := by
  unfold saysQuiet
  cases station.session? session with
  | none => simp [Move.isSettledStatus]
  | some known =>
      cases isStatus : known.status with
      | none => simp [Move.isSettledStatus, isStatus]
      | some status => simp [Move.isSettledStatus, isStatus]

/-- A server has told nothing but a message that says that it is quiet, and everything that can has gone
on. -/
def toldQuiet : Station :=
  (accepted.doServerAct 1 (.send (Wire.frame quietMessage))).settle

end Station

namespace ListeningRun

variable {initial station : Station} {session : Nat}

/-- However messages of servers were handled, the flag of a quiet server is set exactly when the status of
the session says that the server is quiet and well enough, as long as the client is not closed,
answers to statuses were not asked for, and no status is being noted. -/
theorem flag_tells_status
    (isNew : initial.IsNew)
    (informed : initial.Informed)
    (reached : ListeningRun initial station)
    (connected : .hungUp session none ∉ station.chronicle)
    (unasked : ¬IsAsked station.chronicle session)
    (settled : ¬station.IsNoting session) :
    station.TellsStatus session := by
  have attuned := (reached.attuned isNew informed).2
  refine ⟨?_, fun untold => eq_false_of_ne_true fun isSet => ?_⟩
  · rw [← station.saysQuiet_iff session]
    cases attuned.inStep session with
    | mirrors mirrors =>
        unfold Station.Mirrors at mirrors
        rw [mirrors]
    | notes isNoting present => exact (settled isNoting).elim
    | asked asked => exact (unasked asked).elim
    | closed hungUp => exact (connected hungUp).elim
  · rcases attuned.quiescent session isSet with ⟨message, _, arrived, named, _⟩ | hungUp
    · exact untold message arrived named
    · exact connected hungUp

/-- The flag of a server that says that it is quiet. -/
theorem quiet_server_raises_flag :
    (Station.vacant .bare []).IsNew ∧ (Station.vacant .bare []).Informed ∧
      ListeningRun (Station.vacant .bare []) Station.toldQuiet ∧
      .hungUp 1 none ∉ Station.toldQuiet.chronicle ∧
      ¬IsAsked Station.toldQuiet.chronicle 1 ∧ ¬Station.toldQuiet.IsNoting 1 ∧
      (Station.toldQuiet.flag (.quiescent 1)).isSet = true ∧ Station.toldQuiet.TellsStatus 1 := by
  have isNew := Station.isNew_vacant .bare []
  have informed := (isNew.attentive rfl).toInformed
  have launched : ListeningRun (Station.vacant .bare []) (Station.launched .bare []) :=
    (begin.next (.start Station.terse none)).settle
  have accepted : ListeningRun (Station.vacant .bare []) Station.accepted :=
    (launched.next (.server 1 (.send (Wire.frame Station.acceptedAnswer)))).settle
  have told : ListeningRun (Station.vacant .bare []) Station.toldQuiet :=
    (accepted.next (.server 1 (.send (Wire.frame Station.quietMessage)))).settle
  have observed : .hungUp 1 none ∉ Station.toldQuiet.chronicle ∧
      Station.toldQuiet.loop.running = none ∧
      (Station.toldQuiet.flag (.quiescent 1)).isSet = true ∧
      Station.toldQuiet.chronicle.all (fun
        | .arrived 1 message =>
            message.get? "method" != some statusMethod || (message.get? "id").isNone
        | _ => true) = true := by
    decide +kernel
  obtain ⟨connected, nobody, raised, noneAsks⟩ := observed
  have unasked : ¬IsAsked Station.toldQuiet.chronicle 1 := by
    rintro ⟨message, arrived, named, asks⟩
    have asksNot := List.all_eq_true.mp noneAsks _ arrived
    simp only [named, bne_self_eq_false, Bool.false_or, Option.isNone_iff_eq_none] at asksNot
    exact asks asksNot
  have settled : ¬Station.toldQuiet.IsNoting 1 := by
    rintro ⟨running, _⟩
    cases nobody.symm.trans running
  exact ⟨isNew, informed, told, connected, unasked, settled, raised,
    flag_tells_status isNew informed told connected unasked settled⟩

end ListeningRun

end AnalyzerSessions
