import AnalyzerSessions.Proofs.WatchingTasks

namespace AnalyzerSessions

/-!
# Attentive stations

A station is attentive when it is informed, the frames of all tasks stand as they may, and
the run of a server whose client was closed has parted from its session, or does so next.
Every step leaves an attentive station attentive.
-/

/-!
## Guards of readiness

The frame in which a session is found to be ready stands behind a few others only: those
that wait for the quiet server, within a limit and in a task of its own, and the one that
tells whether it became quiet.  So the frame is told that the server is quiet only if the
server has said so, or if its client was closed.  And a client is closed right before the
run of its server parts from the session.
-/

namespace Station

variable {base before after station : Station} {session task : Nat} {outcome : Outcome}

/-- How the frames of a task may stand, which goes on with an outcome unless it waits: those that find
a session to be ready are guarded, and a client is closed in front of the frame in which the run of
its server parts from the session. -/
inductive Heeds (station : Station) (task : Nat) : Option Outcome → List Frame → Prop where
  | ordinary {given : Option Outcome} {frames : List Frame}
      (managed : ∀ frame ∈ frames, frame.IsManaged) :
      Heeds station task given frames
  | closes {given : Option Outcome} {session : Nat} {others : List Nat} {code : Json}
      {outcome : Outcome} {rest : List Frame}
      (managed : ∀ frame ∈ rest, frame.IsManaged) :
      Heeds station task given (.closing session others :: .parted session code outcome :: rest)
  | ready {session : Nat} {outcome : Outcome} {rest : List Frame}
      (passes : outcome = .ok (.json (.bool true)) → MayPass station.chronicle session)
      (managed : ∀ frame ∈ rest, frame.IsManaged) :
      Heeds station task (some outcome) (.readyQuiescent session :: rest)
  | became {session : Nat} {outcome : Outcome} {rest : List Frame}
      (passes : ∀ value, outcome = .ok value → MayPass station.chronicle session)
      (managed : ∀ frame ∈ rest, frame.IsManaged) :
      Heeds station task (some outcome) (.becameQuiescent session :: .readyQuiescent session :: rest)
  | limits {given : Option Outcome} {session watched : Nat} {frame : Frame} {rest : List Frame}
      (isLimit : frame.IsLimit watched)
      (watches : station.Watches session watched)
      (apart : watched ≠ task)
      (managed : ∀ frame ∈ rest, frame.IsManaged) :
      Heeds station task given (frame :: .becameQuiescent session :: .readyQuiescent session :: rest)

/-- Frames stand on where watching tasks are kept. -/
theorem Heeds.mono
    {given : Option Outcome}
    {frames : List Frame}
    (heeds : before.Heeds task given frames)
    (watches : ∀ {session watched}, watched ≠ task →
      before.Watches session watched → after.Watches session watched)
    (chronicle : before.chronicle ⊆ after.chronicle) :
    after.Heeds task given frames := by
  cases heeds with
  | ordinary managed => exact .ordinary managed
  | closes managed => exact .closes managed
  | ready passes managed =>
      exact .ready (fun same => (passes same).mono chronicle) managed
  | became passes managed =>
      exact .became (fun value same => (passes value same).mono chronicle) managed
  | limits isLimit watched apart managed =>
      exact .limits isLimit (watches apart watched) apart managed

/-- Frames that may stand while a task waits may stand when it goes on. -/
theorem Heeds.woken
    {given : Option Outcome}
    {frames : List Frame}
    (heeds : station.Heeds task none frames) :
    station.Heeds task given frames := by
  cases heeds with
  | ordinary managed => exact .ordinary managed
  | closes managed => exact .closes managed
  | limits isLimit watches apart managed => exact .limits isLimit watches apart managed

end Station

/-- The outcome with which a task goes on. -/
def Pause.given? : Pause → Option Outcome
  | give outcome => some outcome
  | _ => none

namespace Station

variable {base before after station : Station} {session task : Nat} {outcome : Outcome}

/-- The run of a session parts from it next. -/
inductive Parts (session : Nat) : Option Outcome → List Frame → Prop where
  | next (value : Value) (code : Json) (outcome : Outcome) (rest : List Frame) :
      Parts session (some (.ok value)) (.parted session code outcome :: rest)

/-- What a move comes to that is made in front of other frames: it is made of edits, all frames stand as
they may after it, and when a client was closed the run of its server parts from the session next. -/
structure Minds (base : Station) (task : Nat) (rest : List Frame) (result : Next × Station) :
    Prop where
  evolves : base.Evolves result.2
  heeds : result.2.Heeds task result.1.pause.given? (result.1.frames ++ rest)
  left : ∀ session, .hungUp session none ∈ result.2.chronicle →
    .hungUp session none ∈ base.chronicle ∨
      Parts session result.1.pause.given? (result.1.frames ++ rest)

/-! ## Closing -/

/-- No edit closes a client. -/
theorem EditWithin.hungUp
    {scope : Scope}
    {known : Nat}
    (edit : before.EditWithin scope known after)
    (hungUp : .hungUp session none ∈ after.chronicle) :
    .hungUp session none ∈ before.chronicle := by
  have same : after.chronicle = before.chronicle → .hungUp session none ∈ before.chronicle :=
    fun same => same ▸ hungUp
  have added : ∀ {occurrence}, .hungUp session none ∈ before.chronicle ++ [occurrence] →
      (∀ session, occurrence ≠ .hungUp session none) →
        .hungUp session none ∈ before.chronicle := by
    intro occurrence member ordinary
    rcases List.mem_append.mp member with old | isNew
    · exact old
    · exact (ordinary session (List.mem_singleton.mp isNew).symm).elim
  cases edit with
  | record ordinary => exact added hungUp ordinary
  | seat number starts ignores silent lowered => exact added hungUp nofun
  | issue number told => exact added hungUp nofun
  | output number change => exact same (agrees_changeOutput _ _ _).chronicle
  | errors number change => exact same (agrees_changeErrors _ _ _).chronicle
  | exit number code => exact same (agrees_exitProcess _ _ _).chronicle
  | await signpost isNew => cases signpost <;> exact hungUp
  | _ => exact hungUp

theorem ReworkedWithin.hungUp
    {scope : Scope}
    {known : Nat}
    (reworked : base.ReworkedWithin scope known station)
    (hungUp : .hungUp session none ∈ station.chronicle) :
    .hungUp session none ∈ base.chronicle := by
  have edits := reworked.edits
  clear reworked
  induction edits with
  | refl => exact hungUp
  | tail _ edit inductionHypothesis => exact inductionHypothesis (edit.hungUp hungUp)

/-! ## Moves -/

/-- What is made of edits only minds the frames that stand as they may. -/
theorem minds_of_reworked
    {next : Next}
    {rest : List Frame}
    (reworked : base.Reworked base.loop.promises.length after)
    (heeds : after.Heeds task next.pause.given? (next.frames ++ rest)) :
    base.Minds task rest (next, after) where
  evolves := .edited reworked
  heeds := heeds
  left _ hungUp := .inl (reworked.hungUp hungUp)

/-- Edits before a move. -/
theorem Minds.afterEdits
    {mid : Station}
    {rest : List Frame}
    {result : Next × Station}
    (reworked : base.Reworked base.loop.promises.length mid)
    (minds : mid.Minds task rest result) :
    base.Minds task rest result where
  evolves := minds.evolves.afterEdits reworked
  heeds := minds.heeds
  left session hungUp := (minds.left session hungUp).imp_left reworked.hungUp

/-- A frame behind a move is one of those in front of which the move is made. -/
theorem Minds.into
    {frame : Frame}
    {next : Next}
    {rest : List Frame}
    (minds : base.Minds task (frame :: rest) (next, after)) :
    base.Minds task rest (next.into frame, after) := by
  have sameFrames : (next.into frame).frames ++ rest = next.frames ++ frame :: rest :=
    List.append_assoc _ _ _
  exact ⟨minds.evolves, sameFrames ▸ minds.heeds, sameFrames ▸ minds.left⟩

theorem heeds_append
    {given : Option Outcome}
    {next : Next}
    {rest : List Frame}
    (managed : next.IsManaged)
    (restManaged : ∀ frame ∈ rest, frame.IsManaged) :
    station.Heeds task given (next.frames ++ rest) := by
  refine .ordinary fun frame member => ?_
  rcases List.mem_append.mp member with new | old
  · exact managed frame new
  · exact restManaged frame old

/-- Closing a client in front of the frame in which the run of its server parts from the session. -/
theorem minds_of_shuts
    {code : Json}
    {rest : List Frame}
    {result : Next × Station}
    (shuts : Move.Shuts base.loop.promises.length session base result)
    (managed : ∀ frame ∈ rest, frame.IsManaged) :
    base.Minds task (.parted session code outcome :: rest) result := by
  cases shuts with
  | waits reworked =>
      exact minds_of_reworked reworked (.closes managed)
  | @dismisses mid reworked =>
      refine ⟨.closed reworked session, .ordinary fun frame member => ?_, fun other hungUp => ?_⟩
      · rcases List.mem_cons.mp member with rfl | old
        · trivial
        · exact managed frame old
      · rcases List.mem_append.mp hungUp with old | isNew
        · have raised : (mid.raise (.quiescent session)).chronicle = mid.chronicle := rfl
          exact .inl (reworked.hungUp (raised ▸ old))
        · cases List.mem_singleton.mp isNew
          exact .inr (.next _ code outcome rest)

theorem minds_of_ends
    {rest : List Frame}
    {result : Next × Station}
    (ends : Move.Ends base.loop.promises.length base result)
    (managed : ∀ frame ∈ rest, frame.IsManaged) :
    base.Minds task rest result := by
  cases ends with
  | ordinary reworked isManaged =>
      exact minds_of_reworked reworked (heeds_append isManaged managed)
  | closes shuts =>
      exact (minds_of_shuts shuts managed).into

theorem minds_of_retains
    {move : Move Next}
    {gives : Next → Station → Prop}
    {rest : List Frame}
    (retains : Move.Retains (base.Reworked base.loop.promises.length) base move gives)
    (heeds : ∀ next after, base.Reworked base.loop.promises.length after → gives next after →
      after.Heeds task next.pause.given? (next.frames ++ rest))
    (fails : ∀ failure (after : Station), after.Heeds task (some (.error failure)) rest) :
    base.Minds task rest (move.make base) := by
  unfold Move.Retains at retains
  rw [Move.make_eq]
  generalize Move.perform move base = result at retains ⊢
  rcases result with ⟨failure | next, after⟩
  · exact minds_of_reworked retains.1 (fails failure after)
  · exact minds_of_reworked retains.1 (heeds next after retains.1 (retains.2 next rfl))

end Station

/-! ## Waiting for a quiet server -/

namespace Move

variable {known session : Nat} {base station : Station}

/-- What tells whether a server became quiet tells so only if it was told so. -/
theorem retains_afterQuiescent
    (held : base.Reworked known station)
    (session : Nat)
    (outcome : Outcome) :
    Retains (base.Reworked known) station (afterQuiescent session outcome) fun next _ =>
      ∃ given, next = Next.give given ∧
        (given = .ok (.json (.bool true)) → ∃ value, outcome = .ok value) := by
  unfold afterQuiescent
  split
  · rename_i value
    exact retains_pure held ⟨_, rfl, fun _ => ⟨value, rfl⟩⟩
  · refine (retains_session held session).bind fun _ _ held _ => ?_
    exact (reworks_say held _ _).bind fun _ _ held _ => retains_pure held ⟨_, rfl, nofun⟩
  · exact retains_pure held ⟨_, rfl, nofun⟩

end Move

namespace Station

variable {base before after station : Station} {session task : Nat} {outcome : Outcome}
  {rest : List Frame} (held : base.Reworked base.loop.promises.length base)
  (managed : ∀ frame ∈ rest, frame.IsManaged)

include held managed

theorem minds_afterReadiness (session : Nat) (outcome : Outcome) :
    base.Minds task rest ((Move.afterReadiness session outcome).make base) :=
  minds_of_ends (Move.manages_afterReadiness held session outcome).ends managed

theorem minds_afterQuiescent
    (passes : ∀ value, outcome = .ok value → MayPass base.chronicle session) :
    base.Minds task (.readyQuiescent session :: rest)
      ((Move.afterQuiescent session outcome).make base) := by
  refine minds_of_retains (Move.retains_afterQuiescent held session outcome)
    (fun next after reworked gives => ?_) fun failure after => .ready nofun managed
  obtain ⟨given, rfl, told⟩ := gives
  refine .ready (fun same => ?_) managed
  obtain ⟨value, same⟩ := told same
  exact (passes value same).mono reworked.chronicle.subset

omit held in
/-- What is waited for within a limit passes on what the watching task has come to. -/
theorem Watches.heedsLimits
    {watched : Nat}
    {next : Next}
    (watches : base.Watches session watched)
    (apart : watched ≠ task)
    (informed : base.Informed)
    (reworked : base.Reworked base.loop.promises.length after)
    (limits : next.Limits base watched) :
    after.Heeds task next.pause.given?
      (next.frames ++ .becameQuiescent session :: .readyQuiescent session :: rest) := by
  cases limits with
  | gives told =>
      exact .became (fun value same => (watches.heralds.passes value (told value same)).mono
        reworked.chronicle.subset) managed
  | awaits isLimit =>
      exact .limits isLimit (watches.evolves informed (.edited reworked)) apart managed

theorem minds_limit
    {watched : Nat}
    {frame : Frame}
    (isLimit : frame.IsLimit watched)
    (watches : base.Watches session watched)
    (apart : watched ≠ task)
    (informed : base.Informed) :
    base.Minds task (.becameQuiescent session :: .readyQuiescent session :: rest)
      ((Move.resume frame outcome).make base) :=
  minds_of_retains (Move.limits_resume held isLimit outcome)
    (fun _ _ reworked limits => watches.heedsLimits managed apart informed reworked limits)
    fun _ _ => .became (fun _ => nofun) managed

/-- A task that waits for a session to be ready begins to wait for its server to be quiet. -/
theorem minds_awaitQuiescentFor
    {hand : List Token}
    {topic : Topic}
    (sound : base.Sound hand)
    (isTask : base.loop.topic? task = some topic)
    (informed : base.Informed)
    (session : Nat)
    (seconds : Number.Binary64) :
    base.Minds task rest ((Move.into (Move.awaitQuiescentFor session (.within seconds))
      (.readyQuiescent session)).make base) := by
  rw [Move.make_into]
  refine Minds.into ?_
  unfold Move.awaitQuiescentFor
  rw [Move.make_get_bind]
  split
  · rename_i isSet
    exact minds_of_reworked held (.ready (fun _ => informed.quiescent session isSet) managed)
  · rw [Move.make_into]
    refine Minds.into ?_
    -- The watching task has the number of the next promise.
    have spawned : base.Reworked base.loop.promises.length (base.modifyLoop fun loop =>
        (loop.spawn .work [.begin (.awaitFlag (.quiescent session))]).2) :=
      held.edit (.loop (@Loop.EditBy.spawn _ _ _ (.awaitFlag (.quiescent session)) trivial))
    have watches := sound.watchesNew session
    have apart : base.loop.promises.length ≠ task := Nat.ne_of_gt (Loop.lt_of_topic? isTask)
    have informedNow := spawned.informed informed
    have performed : (Move.performFor (.awaitFlag (.quiescent session)) (.within seconds)).make base =
        (Move.awaitFor base.loop.promises.length seconds).make (base.modifyLoop fun loop =>
          (loop.spawn .work [.begin (.awaitFlag (.quiescent session))]).2) :=
      rfl
    rw [performed]
    generalize base.modifyLoop _ = mid at spawned watches informedNow
    have reworked : mid.Reworked mid.loop.promises.length mid :=
      reworked_refl (Nat.le_refl _) spawned.answers
    refine Minds.afterEdits spawned (minds_of_retains
      (Move.limits_awaitFor reworked base.loop.promises.length seconds)
      (fun _ _ reworked limits => watches.heedsLimits managed apart informedNow reworked limits)
      fun _ _ => .became (fun _ => nofun) managed)

theorem minds_afterSettling
    {hand : List Token}
    {topic : Topic}
    (sound : base.Sound hand)
    (isTask : base.loop.topic? task = some topic)
    (informed : base.Informed)
    (session : Nat)
    (deadline : Number.Binary64)
    (outcome : Outcome) :
    base.Minds task rest ((Move.afterSettling session deadline outcome).make base) := by
  have gives : ∀ given, base.Minds task rest (Next.give given, base) :=
    fun given => minds_of_reworked held (.ordinary managed)
  unfold Move.afterSettling
  split
  · exact gives _
  · exact gives _
  · rw [Move.make_get_bind]
    dsimp only
    split
    · exact minds_awaitQuiescentFor held managed sound isTask informed session _
    · exact gives _

end Station

/-! ## Attentive stations -/

namespace Move

variable {station : Station} {session : Nat} {hand : List Token}

/-- The run of a server that ends parts from its session. -/
theorem parted_endRun
    (sound : station.Sound (.run session :: hand))
    (code : Json)
    (outcome : Outcome) :
    .parted session code outcome ∈ (make (endRun session code outcome) station).2.chronicle := by
  obtain ⟨detached, _⟩ := sound.detach session
  have settled := detached.sound.raise (.settled session)
  have told := keeps_onExit settled.sound settled.sound.known_of_hand code
  unfold Keeps at told
  generalize performed : perform (atDesk (Act.onExit session code)) _ = result at told
  rcases result with ⟨failure | value, after⟩
  · exact told.2.elim
  · have ended : make (endRun session code outcome) station =
        make (do record (.parted session code outcome); return Next.give outcome) after :=
      make_bind performed _
    rw [ended]
    exact List.mem_append_right _ (List.mem_singleton_self _)

end Move

namespace Station

variable {base before after station : Station} {session task : Nat} {outcome : Outcome}

/-- Whatever frame goes on, it minds the frames behind it. -/
theorem Heeds.minds
    {frame : Frame}
    {rest : List Frame}
    {topic wanted given : Topic}
    {hand : List Token}
    (heeds : base.Heeds task (some outcome) (frame :: rest))
    (held : base.Reworked base.loop.promises.length base)
    (informed : base.Informed)
    (sound : base.Sound hand)
    (isTask : base.loop.topic? task = some topic)
    (taken : base.Takes frame wanted given)
    (told : base.Holds wanted outcome) :
    base.Minds task rest ((Move.resume frame outcome).make base) := by
  cases heeds with
  | ordinary managed =>
      obtain ⟨isManaged, restManaged⟩ := List.forall_mem_cons.mp managed
      by_cases settles : ∃ session deadline, frame = .readySettled session deadline
      · obtain ⟨session, deadline, rfl⟩ := settles
        exact minds_afterSettling held restManaged sound isTask informed session deadline outcome
      · refine minds_of_ends (Move.ends_resume held isManaged (fun session deadline same => ?_) taken
          (fun _ _ _ _ => trivial) fun _ _ => trivial) restManaged
        exact settles ⟨session, deadline, same⟩
  | closes managed =>
      exact minds_of_shuts (Move.shuts_resume held taken told) managed
  | ready passes managed =>
      exact minds_afterReadiness held managed _ outcome
  | became passes managed =>
      exact minds_afterQuiescent held managed passes
  | limits isLimit watches apart managed =>
      exact minds_limit held managed isLimit watches apart informed

end Station

namespace Loop

variable {Frame : Type} {loop : Loop Frame} {task : Nat} {outcome : Outcome}

/-- The outcome with which a task goes on, unless it waits. -/
def given? (loop : Loop Frame) (task : Nat) : Option Outcome :=
  loop.running.bind fun known => if known.1 = task then some known.2 else none

theorem given?_of_running (running : loop.running = some (task, outcome)) :
    loop.given? task = some outcome := by
  simp [given?, running]

theorem given?_of_ne
    {other : Nat}
    (running : loop.running = some (other, outcome))
    (different : task ≠ other) :
    loop.given? task = none := by
  simp [given?, running, Ne.symm different]

theorem given?_of_nobody (nobody : loop.running = none) : loop.given? task = none := by
  simp [given?, nobody]

end Loop

namespace Station

variable {before after station : Station} {session task : Nat} {outcome : Outcome}

/-- The run of a server whose client was closed has parted from its session, or does so next. -/
inductive HasLeft (station : Station) (session : Nat) : Prop where
  | parted {code : Json} {outcome : Outcome}
      (parted : .parted session code outcome ∈ station.chronicle)
  | parts {task : Nat} {outcome : Outcome}
      (running : station.loop.running = some (task, outcome))
      (parts : Parts session (some outcome) (station.loop.frames task))

/-- An attentive station: sessions are found to be ready with good reason. -/
structure Attentive (station : Station) : Prop extends station.Informed where
  heeds : ∀ stance ∈ station.loop.stances,
    station.Heeds stance.task (station.loop.given? stance.task) stance.frames
  left : ∀ session, .hungUp session none ∈ station.chronicle → station.HasLeft session

/-- When a station is attentive and a frame goes on, it minds the frames behind it. -/
theorem Attentive.minds
    {frame : Frame}
    {rest : List Frame}
    (attentive : station.Attentive)
    (poised : station.Poised)
    (running : station.loop.running = some (task, outcome))
    (isTop : station.loop.frames task = frame :: rest) :
    (station.laid task rest).Minds task rest (station.moved task frame rest outcome) := by
  obtain ⟨turns, given, goal, resumes⟩ := poised.turns running isTop
  obtain ⟨wanted, taken, told⟩ := resumes.taken
  obtain ⟨stance, member, rfl⟩ := poised.toSound.loop.running running
  have heeds := attentive.heeds stance member
  rw [Loop.given?_of_running running, ← poised.toSound.loop.frames_of_mem member, isTop] at heeds
  have laid : (station.laid stance.task rest).Heeds stance.task (some outcome) (frame :: rest) :=
    heeds.mono (fun apart watches => watches.laid apart rest) (List.Subset.refl _)
  exact laid.minds (reworked_refl (Nat.le_refl _) turns.laid.answersFit)
    (attentive.toInformed.withLoop _) turns.laid resumes.told taken told

theorem Attentive.stepEvolves
    (attentive : station.Attentive)
    (poised : station.Poised) :
    station.StepEvolves :=
  fun _ _ _ _ running isTop => (attentive.minds poised running isTop).evolves

/-! ## Steps -/

theorem Attentive.takeTurn
    (attentive : station.Attentive)
    (poised : station.Poised)
    (nobody : station.loop.running = none) :
    (station.modifyLoop Loop.takeTurn).Attentive := by
  have stays : ∀ stance ∈ station.loop.stances,
      (station.modifyLoop Loop.takeTurn).Heeds stance.task none stance.frames := by
    intro stance member
    have heeds := attentive.heeds stance member
    rw [Loop.given?_of_nobody nobody] at heeds
    exact heeds.mono (fun _ watches => watches.takeTurn poised.toSound nobody)
      (List.Subset.refl _)
  refine ⟨attentive.toInformed.withLoop _, fun stance member => ?_, fun session hungUp => ?_⟩
  · have isStack : (stance.task, stance.frames) ∈ station.loop.takeTurn.frameStacks :=
      Loop.mem_frameStacks.mpr ⟨stance, member, rfl, rfl⟩
    rw [Loop.frameStacks_takeTurn] at isStack
    obtain ⟨old, wasThere, sameTask, sameFrames⟩ := Loop.mem_frameStacks.mp isStack
    rw [← sameTask, ← sameFrames]
    exact (stays old wasThere).woken
  · cases attentive.left session hungUp with
    | parted parted => exact .parted parted
    | parts running _ => cases nobody.symm.trans running

theorem Attentive.finish
    (attentive : station.Attentive)
    (poised : station.Poised)
    (running : station.loop.running = some (task, outcome))
    (bare : station.loop.frames task = []) :
    (station.modifyLoop fun loop => loop.finish task outcome).Attentive := by
  refine ⟨attentive.toInformed.withLoop _, fun stance member => ?_, fun session hungUp => ?_⟩
  · obtain ⟨different, wasThere⟩ := Loop.stances_finish member
    have heeds := attentive.heeds stance wasThere
    rw [Loop.given?_of_ne running different] at heeds
    exact heeds.woken.mono (fun _ watches => watches.finish poised running bare)
      (List.Subset.refl _)
  · cases attentive.left session hungUp with
    | parted parted => exact .parted parted
    | parts runs parts =>
        cases running.symm.trans runs
        rw [bare] at parts
        cases parts

/-- The frames of the task that goes on stand as they may when it has gone on. -/
theorem Minds.heeds_follow
    {rest : List Frame}
    {next : Next}
    (minds : before.Minds task rest (next, after))
    (running : after.loop.running = some (task, outcome)) :
    (after.follow task rest next).Heeds task ((after.follow task rest next).loop.given? task)
      (next.frames ++ rest) := by
  have followed : (after.follow task rest next).Heeds task next.pause.given? (next.frames ++ rest) :=
    minds.heeds.mono (fun apart watches => watches.follow running apart rest next)
      (List.Subset.refl _)
  obtain ⟨frames, pause⟩ := next
  cases pause with
  | give given =>
      have runs : (after.follow task rest ⟨frames, .give given⟩).loop.running = some (task, given) :=
        rfl
      rw [Loop.given?_of_running runs]
      exact followed
  | await promise => exact followed.woken
  | yield => exact followed.woken

/-- When a task has gone on, the run of a server whose client was closed parts from its session, if it
has not parted. -/
theorem Minds.hasLeft
    {hand : List Token}
    {rest : List Frame}
    {next : Next}
    (minds : before.Minds task rest (next, after))
    (sound : after.Sound hand)
    (running : after.loop.running = some (task, outcome))
    (hungUp : .hungUp session none ∈ after.chronicle)
    (earlier : .hungUp session none ∈ before.chronicle →
      ∃ code outcome, .parted session code outcome ∈ after.chronicle) :
    (after.follow task rest next).HasLeft session := by
  rcases minds.left session hungUp with old | parts
  · obtain ⟨code, given, parted⟩ := earlier old
    exact .parted parted
  · have framesNow := @Sound.frames_follow _ _ _ _ next sound running rest
    obtain ⟨frames, pause⟩ := next
    cases pause with
    | give given => exact .parts rfl (framesNow ▸ parts)
    | await promise => cases parts
    | yield => cases parts

/-- The run of a server that parts from its session is on record when it has gone on. -/
theorem HasLeft.parted_moved
    {frame : Frame}
    {rest : List Frame}
    (left : station.HasLeft session)
    (turns : station.Turns task frame rest outcome)
    (running : station.loop.running = some (task, outcome))
    (isTop : station.loop.frames task = frame :: rest)
    (grows : station.chronicle ⊆ (station.moved task frame rest outcome).2.chronicle) :
    ∃ code given, .parted session code given ∈
      (station.moved task frame rest outcome).2.chronicle := by
  cases left with
  | parted parted =>
      exact ⟨_, _, grows parted⟩
  | parts runs parts =>
      cases running.symm.trans runs
      rw [isTop] at parts
      cases parts with
      | next value code given _ =>
          have laid : (station.laid task rest).Sound [.run session] := turns.laid
          exact ⟨code, given, Move.parted_endRun laid code given⟩

theorem Attentive.goOn
    {frame : Frame}
    {rest : List Frame}
    (attentive : station.Attentive)
    (poised : station.Poised)
    (running : station.loop.running = some (task, outcome))
    (isTop : station.loop.frames task = frame :: rest) :
    station.step.Attentive := by
  have minds := attentive.minds poised running isTop
  obtain ⟨turns, _⟩ := poised.turns running isTop
  have evolves := minds.evolves
  have laid : (station.laid task rest).Informed := attentive.toInformed.withLoop _
  have parted := fun session (hungUp : .hungUp session none ∈ station.chronicle) =>
    (attentive.left session hungUp).parted_moved turns running isTop evolves.chronicle
  have watches : ∀ {session watched}, station.Watches session watched →
      station.step.Watches session watched :=
    fun watches => watches.step poised attentive.toInformed (attentive.stepEvolves poised)
  have stepSound := poised.step.1.toSound
  have framesNow := @Sound.frames_follow _ _ _ _ (station.moved task frame rest outcome).1
    turns.sound turns.running rest
  rw [turns.step] at watches stepSound ⊢
  refine ⟨(evolves.informed laid).withLoop _, fun stance member => ?_, fun session hungUp => ?_⟩
  · by_cases isTask : stance.task = task
    · have sameFrames := stepSound.loop.frames_of_mem member
      rw [← sameFrames, isTask, framesNow]
      exact minds.heeds_follow turns.running
    · rcases evolves.enlarges.added stance (stances_follow member isTask) with old | ⟨_, job, begins⟩
      · rcases Loop.mem_stances_modifyTask old with ⟨same, _⟩ | ⟨_, wasThere⟩
        · exact (isTask same).elim
        · have heeds := attentive.heeds stance wasThere
          rw [Loop.given?_of_ne running isTask] at heeds
          exact heeds.woken.mono (fun _ => watches) evolves.chronicle
      · rw [begins.2]
        refine .ordinary fun known isFrame => ?_
        cases List.mem_singleton.mp isFrame
        exact begins.1
  · exact minds.hasLeft turns.sound turns.running hungUp (parted session)

/-- Every step of a poised station leaves it attentive. -/
theorem Attentive.step
    (attentive : station.Attentive)
    (poised : station.Poised) :
    station.step.Attentive := by
  cases running : station.loop.running with
  | none =>
      have turned := attentive.takeTurn poised running
      rwa [Station.step, running]
  | some known =>
      obtain ⟨task, outcome⟩ := known
      cases isTop : station.loop.frames task with
      | nil =>
          have finished := attentive.finish poised running isTop
          rw [Station.step, running]
          dsimp only [Station.goOn]
          rwa [isTop]
      | cons frame rest =>
          exact attentive.goOn poised running isTop

/-- A promise waits for a flag whatever is on the desk. -/
theorem Heralds.withDesk
    {promise : Nat}
    (heralds : station.Heralds session promise)
    (desk : Desk) :
    ({ station with desk } : Station).Heralds session promise :=
  ⟨heralds.told, heralds.unreleased, heralds.ignored,
    fun signpost waits => heralds.own signpost (flag_congr rfl _ ▸ waits), heralds.passes⟩

theorem Watches.withDesk
    (watches : station.Watches session task)
    (desk : Desk) :
    ({ station with desk } : Station).Watches session task :=
  ⟨watches.heralds.withDesk desk, fun stance member isTask =>
    (watches.stances stance member isTask).mono id (fun _ heralds => heralds.withDesk desk)
      (fun _ runs => runs) (List.Subset.refl _)⟩

/-- A station stays attentive when something on its desk changes that does not concern sessions. -/
theorem Attentive.withDesk
    {desk : Desk}
    (attentive : station.Attentive)
    (registry : desk.registry = station.desk.registry)
    (ledger : desk.ledger = station.desk.ledger) :
    ({ station with desk } : Station).Attentive := by
  refine ⟨attentive.toInformed.withDesk registry ledger, fun stance member => ?_,
    fun session hungUp => ?_⟩
  · exact (attentive.heeds stance member).mono (fun _ watches => watches.withDesk desk)
      (List.Subset.refl _)
  · cases attentive.left session hungUp with
    | parted parted => exact .parted parted
    | parts running parts => exact .parts running parts

/-- A station stays attentive when it is edited beside the running task. -/
theorem Attentive.edited
    (attentive : station.Attentive)
    (poised : station.Poised)
    (afterSound : after.Sound [])
    (reworked : station.Reworked station.loop.promises.length after) :
    after.Attentive := by
  have evolves : station.Evolves after := .edited reworked
  have enlarges := evolves.enlarges
  have sameGiven : ∀ task, after.loop.given? task = station.loop.given? task := by
    intro task
    unfold Loop.given?
    rw [enlarges.running]
  refine ⟨evolves.informed attentive.toInformed, fun stance member => ?_, fun session hungUp => ?_⟩
  · rcases enlarges.added stance member with old | ⟨_, job, managed, begins⟩
    · rw [sameGiven]
      exact (attentive.heeds stance old).mono
        (fun _ watches => watches.evolves attentive.toInformed evolves) evolves.chronicle
    · rw [begins]
      refine .ordinary fun known isFrame => ?_
      cases List.mem_singleton.mp isFrame
      exact managed
  · cases attentive.left session (reworked.hungUp hungUp) with
    | parted parted => exact .parted (evolves.chronicle parted)
    | parts running parts =>
        obtain ⟨stance, member, rfl⟩ := poised.toSound.loop.running running
        have sameFrames := (afterSound.loop.frames_of_mem (enlarges.kept stance member)).trans
          (poised.toSound.loop.frames_of_mem member).symm
        exact .parts (enlarges.running.trans running) (sameFrames ▸ parts)

end Station

end AnalyzerSessions
