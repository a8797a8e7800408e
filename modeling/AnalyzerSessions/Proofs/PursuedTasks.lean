import AnalyzerSessions.Proofs.ArmedStations

namespace AnalyzerSessions

/-!
# Pursued tasks

A task is pursued from the moment when it goes on for the first time: what it puts on record
is told apart from what others put there, and its frames stay as they are until it goes on
itself.
-/

namespace Move

variable {α : Type} {station : Station}

/-- What is done at a desk puts nothing on record, and neither does what is ordered there. -/
theorem chronicle_atDesk
    (act : Act α)
    (station : Station) :
    (perform (atDesk act) station).2.chronicle = station.chronicle := by
  have launched : ∀ mid : Station, mid.chronicle = station.chronicle → ∀ session,
      Retains (fun after => after.chronicle = station.chronicle) mid (launch session)
        fun _ _ => True :=
    fun mid same session => ⟨same, fun _ _ => trivial⟩
  have terminated : ∀ mid : Station, mid.chronicle = station.chronicle → ∀ session,
      Retains (fun after => after.chronicle = station.chronicle) mid (terminate session)
        fun _ _ => True := by
    intro mid same session
    refine retains_get ?_
    split
    · exact ⟨same, fun _ _ => trivial⟩
    · split
      · exact ⟨same, fun _ _ => trivial⟩
      · exact ⟨same, fun _ _ => trivial⟩
  have ordered : ∀ (orders : List Order) (mid : Station), mid.chronicle = station.chronicle →
      Retains (fun after => after.chronicle = station.chronicle) mid (carryOutAll orders)
        fun _ _ => True := by
    intro orders
    induction orders with
    | nil =>
        exact fun mid same => retains_pure same trivial
    | cons order rest inductionHypothesis =>
        intro mid same
        have carried : Retains (fun after => after.chronicle = station.chronicle) mid
            (carryOut order) fun _ _ => True := by
          refine retains_get ?_
          split
          · exact ⟨same, fun _ _ => trivial⟩
          · exact ⟨same, fun _ _ => trivial⟩
          · exact launched mid same _
          · exact terminated mid same _
        exact carried.bind fun _ after same _ => inductionHypothesis after same
  have kept : Retains (fun after => after.chronicle = station.chronicle) station (atDesk act)
      fun _ _ => True := by
    refine retains_get ?_
    generalize (ExceptT.run act).run { station.desk with orders := [] } = result
    obtain ⟨outcome, desk⟩ := result
    have changed : Retains (fun after => after.chronicle = station.chronicle) station
        (set { station with desk := { desk with orders := [] } }) fun _ _ => True :=
      ⟨rfl, fun _ _ => trivial⟩
    refine changed.bind fun _ mid same _ => ?_
    refine (ordered desk.orders mid same).bind fun _ after same _ => ?_
    cases outcome with
    | ok value => exact retains_pure same trivial
    | error failure => exact retains_throw same
  exact kept.1

end Move

/-- A task that goes on with an outcome runs. -/
theorem Loop.running_of_given?
    {loop : Loop Frame}
    {task : Nat}
    {outcome : Outcome}
    (given : loop.given? task = some outcome) :
    loop.running = some (task, outcome) := by
  obtain ⟨⟨number, told⟩, isRunning, isTask⟩ := Option.bind_eq_some_iff.mp given
  dsimp only at isTask
  split at isTask
  · rename_i same
    cases isTask
    cases same
    exact isRunning
  · cases isTask

namespace Station

variable {before after station : Station} {task : Nat} {outcome : Outcome} {frames : List Frame}
  {given : Option Outcome}

/-- What happens is a step, or it happens beside the tasks that there are and puts nothing on record. -/
theorem AdvancesAmong.eq_step_or
    {others : Desk → Desk → Prop}
    (advanced : station.AdvancesAmong others after)
    (sound : station.Sound []) :
    after = station.step ∨
      station.loop.Enlarges after.loop ∧ after.chronicle = station.chronicle := by
  have held : station.Reworked station.loop.promises.length station :=
    reworked_refl (Nat.le_refl _) sound.answersFit
  have looped : ∀ {loop : Loop Frame}, station.loop.Edit station.loop.promises.length loop →
      station.loop.Enlarges loop :=
    fun edit => edit.enlarges
  cases advanced with
  | step => exact .inl rfl
  | job admitted ordinary free managed => exact .inr ⟨looped (.spawn managed), rfl⟩
  | start overrides buffer =>
      exact .inr ⟨(Move.reworks_atDesk held fun _ => .start overrides buffer).1.enlarges,
        Move.chronicle_atDesk _ station⟩
  | stop buffer =>
      exact .inr ⟨(Move.reworks_atDesk held fun _ => .stop buffer).1.enlarges,
        Move.chronicle_atDesk _ station⟩
  | outside registry ledger done => exact .inr ⟨(Loop.sameTasks_refl _).enlarges, rfl⟩
  | server number act =>
      refine .inr ⟨(reworked_doServerAct held number act).enlarges, ?_⟩
      cases act with
      | send bytes => exact (agrees_changeOutput _ _ _).chronicle
      | endOutput => exact (agrees_changeOutput _ _ _).chronicle
      | log bytes => exact (agrees_changeErrors _ _ _).chronicle
      | exit code => exact (agrees_exitProcess _ _ _).chronicle
      | breakPipe => rfl
  | clock time => exact .inr ⟨looped (.clock time), rfl⟩
  | timer seconds =>
      have timed : (station.loop.newPromise .tick).2.Edit station.loop.promises.length
          ((station.loop.newPromise .tick).2.settleAfter (station.loop.newPromise .tick).1 seconds) :=
        .timer (Nat.le_refl _) seconds
      exact .inr ⟨(looped (.promise .tick)).trans timed.enlarges, rfl⟩
  | tidy => exact .inr ⟨looped .tidied, rfl⟩

/-! ## What a task puts on record -/

/-- What a task has put on record when something happened: it did so only if it was the task that went
on. -/
def deedsOf (before : Station) (task : Nat) (after : Station) : List Occurrence :=
  if (before.loop.given? task).isSome then after.chronicle.drop before.chronicle.length else []

/-- A task is pursued from its first step on, as long as all is calm. -/
inductive Pursuit (task : Nat) (calm : Station → Prop) (start : Station) :
    List Occurrence → Station → Prop where
  | begin
      (isCalm : calm start.step) :
      Pursuit task calm start (start.deedsOf task start.step) start.step
  | next {deeds : List Occurrence} {station after : Station}
      (earlier : Pursuit task calm start deeds station)
      (tends : station.Tends after)
      (isCalm : calm after) :
      Pursuit task calm start (deeds ++ station.deedsOf task after) after

/-! ## How a task stands -/

/-- An unfinished task has frames, and goes on with an outcome or waits. -/
structure Stands (station : Station) (task : Nat) (given : Option Outcome) (frames : List Frame) :
    Prop where
  isThere : (task, frames) ∈ station.loop.frameStacks
  isGiven : station.loop.given? task = given

/-- A task has ended. -/
structure IsGone (station : Station) (task : Nat) : Prop where
  known : ∃ topic, station.loop.topic? task = some topic
  gone : ∀ frames, (task, frames) ∉ station.loop.frameStacks

theorem Stands.frames_eq
    {hand : List Token}
    (stands : station.Stands task given frames)
    (sound : station.Sound hand) :
    station.loop.frames task = frames := by
  obtain ⟨stance, member, rfl, rfl⟩ := Loop.mem_frameStacks.mp stands.isThere
  exact sound.loop.frames_of_mem member

/-- A task that goes on has frames. -/
theorem Sound.stands
    {hand : List Token}
    (sound : station.Sound hand)
    (running : station.loop.running = some (task, outcome)) :
    station.Stands task (some outcome) (station.loop.frames task) := by
  obtain ⟨stance, member, rfl⟩ := sound.loop.running running
  refine ⟨Loop.mem_frameStacks.mpr ⟨stance, member, rfl, ?_⟩, Loop.given?_of_running running⟩
  exact (sound.loop.frames_of_mem member).symm

theorem Stands.running
    (stands : station.Stands task (some outcome) frames) :
    station.loop.running = some (task, outcome) :=
  Loop.running_of_given? stands.isGiven

/-- A task stands as it stood when something happens beside it. -/
theorem Stands.enlarges
    (stands : before.Stands task given frames)
    (enlarges : before.loop.Enlarges after.loop) :
    after.Stands task given frames := by
  obtain ⟨stance, member, isTask, sameFrames⟩ := Loop.mem_frameStacks.mp stands.isThere
  refine ⟨Loop.mem_frameStacks.mpr ⟨stance, enlarges.kept stance member, isTask, sameFrames⟩, ?_⟩
  rw [← stands.isGiven]
  unfold Loop.given?
  rw [enlarges.running]

/-- A task that goes on in a frame goes on in what that frame said, in front of the others. -/
theorem Turns.stands
    {frame : Frame}
    {rest : List Frame}
    (turns : station.Turns task frame rest outcome) :
    ∃ given, station.step.Stands task given
        ((station.moved task frame rest outcome).1.frames ++ rest) ∧
      ∀ told, (station.moved task frame rest outcome).1.pause = .give told → given = some told := by
  refine ⟨station.step.loop.given? task, ⟨?_, rfl⟩, fun told gives => ?_⟩
  · rw [turns.step, frameStacks_follow, Loop.frameStacks_setFrames]
    obtain ⟨stance, member, isTask⟩ := turns.sound.loop.running turns.running
    refine List.mem_map.mpr ⟨(task, stance.frames), ?_, if_pos rfl⟩
    exact Loop.mem_frameStacks.mpr ⟨stance, member, isTask, rfl⟩
  · rw [turns.step]
    generalize station.moved task frame rest outcome = moved at gives
    obtain ⟨⟨frames, pause⟩, mid⟩ := moved
    cases gives
    exact Loop.given?_of_running rfl

/-- A task stands as it stood when another one goes on. -/
theorem Turns.stands_of_ne
    {other : Nat}
    {frame : Frame}
    {rest : List Frame}
    (turns : station.Turns other frame rest outcome)
    (different : task ≠ other)
    (isThere : (task, frames) ∈ station.loop.frameStacks) :
    (task, frames) ∈ station.step.loop.frameStacks := by
  have laid : (task, frames) ∈ (station.laid other rest).loop.frameStacks :=
    (Loop.mem_frameStacks_setFrames_of_ne different).mpr isThere
  obtain ⟨stance, member, isTask, sameFrames⟩ := Loop.mem_frameStacks.mp laid
  rw [turns.step, frameStacks_follow]
  refine (Loop.mem_frameStacks_setFrames_of_ne different).mpr (Loop.mem_frameStacks.mpr
    ⟨stance, turns.onward.grows.stances.subset member, isTask, sameFrames⟩)

/-- Whatever happens, a task stands as it stood, unless it is the one that goes on; if it has been told
something, that is what it is told. -/
theorem Stands.tends
    (stands : station.Stands task given frames)
    (poised : station.Poised)
    (tends : station.Tends after) :
    (∃ now, after.Stands task now frames ∧ (given.isSome → now = given) ∧
        station.deedsOf task after = []) ∨
      ∃ outcome, given = some outcome ∧ after = station.step := by
  rcases tends.eq_step_or poised.toSound with rfl | ⟨enlarges, sameChronicle⟩
  · cases given with
    | some outcome =>
        exact .inr ⟨outcome, rfl, rfl⟩
    | none =>
        have noDeeds : station.deedsOf task station.step = [] := by
          unfold deedsOf
          rw [stands.isGiven]
          rfl
        refine .inl ⟨station.step.loop.given? task, ⟨?_, rfl⟩, nofun, noDeeds⟩
        cases running : station.loop.running with
        | none =>
            rw [Station.step, running]
            exact (Loop.frameStacks_takeTurn _).symm ▸ stands.isThere
        | some known =>
            obtain ⟨other, outcome⟩ := known
            have different : task ≠ other := by
              rintro rfl
              cases (Loop.given?_of_running running).symm.trans stands.isGiven
            cases isTop : station.loop.frames other with
            | nil =>
                rw [Station.step, running]
                dsimp only [Station.goOn]
                rw [isTop]
                show (task, frames) ∈ (station.loop.finish other outcome).frameStacks
                rw [Loop.frameStacks_finish]
                exact List.mem_filter.mpr ⟨stands.isThere, by simpa using different⟩
            | cons frame rest =>
                exact (poised.turns running isTop).1.stands_of_ne different stands.isThere
  · refine .inl ⟨given, stands.enlarges enlarges, fun _ => rfl, ?_⟩
    unfold deedsOf
    rw [sameChronicle, List.drop_length, ite_self]

/-! ## The end of a task -/

/-- A task without frames ends, and puts nothing on record then. -/
theorem Stands.ends
    (stands : station.Stands task (some outcome) [])
    (poised : station.Poised) :
    station.step.IsGone task ∧ station.deedsOf task station.step = [] := by
  have running := stands.running
  have bare := stands.frames_eq poised.toSound
  obtain ⟨goal, _, told, _⟩ := poised.goes running
  have finishes : station.step = station.modifyLoop fun loop => loop.finish task outcome := by
    rw [Station.step, running]
    dsimp only [Station.goOn]
    rw [bare]
  rw [finishes]
  refine ⟨⟨⟨goal, (Loop.topic?_settle _ _ _ _).trans told⟩, fun frames isThere => ?_⟩, ?_⟩
  · have remains : (task, frames) ∈ (station.loop.finish task outcome).frameStacks := isThere
    rw [Loop.frameStacks_finish] at remains
    simpa using (List.mem_filter.mp remains).2
  · unfold deedsOf
    exact (congrArg (ite _ · _) List.drop_length).trans (ite_self _)

/-- A task that has ended stays so when tasks are added. -/
theorem IsGone.enlarges
    (ended : before.IsGone task)
    (enlarges : before.loop.Enlarges after.loop) :
    after.IsGone task := by
  obtain ⟨topic, told⟩ := ended.known
  refine ⟨⟨topic, enlarges.topics told⟩, fun frames isThere => ?_⟩
  obtain ⟨stance, member, isTask, sameFrames⟩ := Loop.mem_frameStacks.mp isThere
  rcases enlarges.added stance member with old | ⟨isNew, _⟩
  · exact ended.gone frames (Loop.mem_frameStacks.mpr ⟨stance, old, isTask, sameFrames⟩)
  · have below := Loop.lt_of_topic? told
    omega

/-- A task that has ended stays so whatever happens, and puts nothing on record. -/
theorem IsGone.tends
    (ended : station.IsGone task)
    (attentive : station.Attentive)
    (poised : station.Poised)
    (tends : station.Tends after) :
    after.IsGone task ∧ station.deedsOf task after = [] := by
  have notRunning : ∀ outcome, station.loop.running ≠ some (task, outcome) := by
    intro outcome running
    exact ended.gone _ (poised.toSound.stands running).isThere
  have noDeeds : station.deedsOf task after = [] := by
    unfold deedsOf
    refine if_neg fun isGiven => ?_
    obtain ⟨outcome, isOutcome⟩ := Option.isSome_iff_exists.mp isGiven
    exact notRunning outcome (Loop.running_of_given? isOutcome)
  refine ⟨?_, noDeeds⟩
  rcases tends.eq_step_or poised.toSound with rfl | ⟨enlarges, _⟩
  · obtain ⟨topic, told⟩ := ended.known
    have known := poised.step.2.loop.topics told
    refine ⟨⟨topic, known⟩, fun frames isThere => ?_⟩
    cases running : station.loop.running with
    | none =>
        rw [Station.step, running] at isThere
        exact ended.gone frames ((Loop.frameStacks_takeTurn _) ▸ isThere)
    | some known =>
        obtain ⟨other, outcome⟩ := known
        have different : task ≠ other := by
          rintro rfl
          exact notRunning outcome running
        cases isTop : station.loop.frames other with
        | nil =>
            rw [Station.step, running] at isThere
            dsimp only [Station.goOn] at isThere
            rw [isTop] at isThere
            have remains : (task, frames) ∈ (station.loop.finish other outcome).frameStacks := isThere
            rw [Loop.frameStacks_finish] at remains
            exact ended.gone frames (List.mem_filter.mp remains).1
        | cons frame rest =>
            have evolves := attentive.stepEvolves poised _ _ _ _ running isTop
            have laid : (station.laid other rest).IsGone task :=
              ⟨⟨topic, told⟩, fun known isKnown => ended.gone known
                ((Loop.mem_frameStacks_setFrames_of_ne different).mp isKnown)⟩
            rw [(poised.turns running isTop).1.step, frameStacks_follow] at isThere
            exact (laid.enlarges evolves.enlarges).gone frames
              ((Loop.mem_frameStacks_setFrames_of_ne different).mp isThere)
  · exact ended.enlarges enlarges

end Station

end AnalyzerSessions
