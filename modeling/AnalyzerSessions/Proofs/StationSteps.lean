import AnalyzerSessions.Proofs.FrameStacks
import AnalyzerSessions.Proofs.ResumedFrames

namespace AnalyzerSessions.Station

/-!
# Steps of sound stations

A station is poised when it is sound, no token is in hand, and the running task goes
on as it may.  Every step leaves a poised station poised: the frame that goes on
lays its tokens down, and what comes after it takes up what is left of them.
-/

variable {station : Station}

/-- A sound station at which the running task goes on as it may. -/
structure Poised (station : Station) : Prop extends station.Sound [] where
  goes : ∀ {task outcome}, station.loop.running = some (task, outcome) →
    station.Goes task (station.loop.frames task) outcome

/-- The tokens that frames hold are gathered from their stacks. -/
theorem held_eq_gathered (station : Station) :
    station.held = station.loop.gathered Frame.tokens := by
  simp [held, Loop.gathered, Loop.frameStacks, List.flatMap_map]

/-! ## Waiting and going on -/

/-- Whoever waits for a promise may go on with its outcome. -/
theorem Yields.holds
    {promise : Nat}
    {start : Topic}
    {outcome : Outcome}
    (yields : station.Yields promise start)
    (settled : station.loop.outcome? promise = some outcome)
    (tells : ∀ topic, station.loop.topic? promise = some topic → station.Holds topic outcome) :
    station.Holds start outcome := by
  cases yields with
  | told isTold _ =>
      exact tells _ isTold
  | any =>
      trivial
  | doomed isDoomed =>
      exact isDoomed.quiet settled

/-- Whoever waits for a promise may be cancelled. -/
theorem Yields.holds_cancelled
    {promise : Nat}
    {start : Topic}
    (yields : station.Yields promise start) :
    station.Holds start .cancelled := by
  cases yields with
  | told _ shared =>
      exact Station.holds_cancelled shared.ordinary
  | any =>
      trivial
  | doomed _ =>
      exact isQuiet_cancelled

/-- Whoever waits as he may, may go on with a cancellation. -/
theorem Rests.cancelled
    {stance : Stance Frame}
    (rests : station.Rests stance) :
    station.Goes stance.task stance.frames .cancelled := by
  obtain ⟨goal, start, told, errand, reaches, isTick, yields⟩ := rests
  refine ⟨goal, start, told, errand, reaches, ?_⟩
  cases waits : stance.waitingOn with
  | none =>
      rw [isTick waits]
      exact isQuiet_cancelled
  | some promise =>
      exact (yields promise waits).holds_cancelled

/-- Whoever waits for his turn may take it. -/
theorem Rests.begins
    {task : Nat}
    {frames : List Frame}
    (rests : station.Rests ⟨task, frames, none⟩) :
    station.Goes task frames .done := by
  obtain ⟨goal, start, told, errand, reaches, isTick, _⟩ := rests
  refine ⟨goal, start, told, errand, reaches, ?_⟩
  rw [isTick rfl]
  exact isQuiet_ok _

/-- Whoever waits for a promise may go on with what it tells. -/
theorem Rests.wakes
    {task promise : Nat}
    {frames : List Frame}
    {outcome : Outcome}
    (rests : station.Rests ⟨task, frames, some promise⟩)
    (settled : station.loop.outcome? promise = some outcome)
    (tells : ∀ topic, station.loop.topic? promise = some topic → station.Holds topic outcome) :
    station.Goes task frames outcome := by
  obtain ⟨goal, start, told, errand, reaches, _, yields⟩ := rests
  exact ⟨goal, start, told, errand, reaches, (yields promise rfl).holds settled tells⟩

/-- The next turn of a poised station may be taken when nobody runs. -/
theorem Sound.takeTurn
    (sound : station.Sound [])
    (nobody : station.loop.running = none) :
    (station.modifyLoop Loop.takeTurn).Poised ∧
      station.Lasts (station.modifyLoop Loop.takeTurn) := by
  have lastsLoop := Loop.lasts_takeTurn sound.loop nobody
  have lasts := lasts_modifyLoop lastsLoop
  have fits := sound.loopLater lasts
  have wakes : station.loop.Wakes (station.modifyLoop Loop.takeTurn).Holds
      (station.modifyLoop Loop.takeTurn).Rests (station.modifyLoop Loop.takeTurn).Goes := by
    refine fun {task frames} => ⟨Rests.cancelled, Rests.begins, ?_⟩
    intro promise outcome rests tells settled
    refine rests.wakes (lastsLoop.outcomes settled) fun topic told => ?_
    exact tells topic ((station.loop.topic?_takeTurn promise).symm.trans told)
  have turned := fits.takeTurn nobody wakes (isQuiet_ok _)
  refine ⟨⟨sound.reloop lastsLoop turned.toFits ?_ ?_ ?_, turned.goes⟩, lasts⟩
  · exact fun told => (station.loop.topic?_takeTurn _).symm.trans told
  · rw [held_eq_gathered, held_eq_gathered]
    show (station.loop.takeTurn.gathered _).Perm (station.loop.gathered _)
    rw [Loop.gathered, Loop.frameStacks_takeTurn]
    exact .refl _
  · intro stance member frame isFrame
    have isStack : (stance.task, stance.frames) ∈ station.loop.takeTurn.frameStacks :=
      Loop.mem_frameStacks.mpr ⟨stance, member, rfl, rfl⟩
    rw [Loop.frameStacks_takeTurn] at isStack
    obtain ⟨old, wasThere, _, sameFrames⟩ := Loop.mem_frameStacks.mp isStack
    exact sound.frames old wasThere frame (sameFrames ▸ isFrame)

/-! ## The end of a task -/

/-- A task may end with a cancellation in place of a value. -/
theorem holds_finalOutcome
    {goal : Topic}
    {outcome : Outcome}
    (errand : goal.IsErrand)
    (told : station.Holds goal outcome)
    (state : Option (Task Frame)) :
    station.Holds goal (Loop.finalOutcome state outcome) := by
  cases outcome with
  | error failure =>
      exact told
  | ok value =>
      dsimp only [Loop.finalOutcome]
      split
      · cases goal with
        | run session =>
            exact told
        | closing =>
            exact errand.elim
        | _ =>
            exact holds_cancelled id
      · exact told

/-- The running task ends when it has no frames left. -/
theorem Poised.finish
    {task : Nat}
    {outcome : Outcome}
    (poised : station.Poised)
    (running : station.loop.running = some (task, outcome))
    (bare : station.loop.frames task = []) :
    (station.modifyLoop fun loop => loop.finish task outcome).Poised ∧
      station.Lasts (station.modifyLoop fun loop => loop.finish task outcome) := by
  have lastsLoop := Loop.lasts_finish running
  have lasts : station.Lasts (station.modifyLoop fun loop => loop.finish task outcome) :=
    lasts_modifyLoop lastsLoop
  obtain ⟨goal, start, told, errand, reaches, holds⟩ := poised.goes running
  rw [bare] at reaches
  have tells : ∀ topic, station.loop.topic? task = some topic →
      (station.modifyLoop fun loop => loop.finish task outcome).Holds topic
        (Loop.finalOutcome (station.loop.task? task) outcome) := by
    intro topic isTold
    cases told.symm.trans isTold
    exact lasts.holds (holds_finalOutcome errand (holds_of_serves reaches holds) _)
  have fits := (poised.toSound.loopLater lasts).finish running tells
  have noFrames : ∀ stance ∈ station.loop.stances, stance.task = task → stance.frames = [] := by
    rintro stance member rfl
    exact (poised.toSound.loop.frames_of_mem member).symm.trans bare
  refine ⟨⟨poised.toSound.reloop lastsLoop fits ?_ ?_ ?_, ?_⟩, lasts⟩
  · exact fun isRun => (Loop.topic?_settle _ _ _ _).symm.trans isRun
  · rw [held_eq_gathered, held_eq_gathered]
    have same := Loop.gathered_finish noFrames outcome Frame.tokens
    exact same ▸ .refl _
  · intro stance member frame isFrame
    obtain ⟨state, isTask, sameFrames, sameWait⟩ := Loop.mem_stances.mp member
    have wasThere := (List.mem_filter.mp isTask).1
    rw [Loop.tasks_settle] at wasThere
    exact poised.toSound.frames stance
      (Loop.mem_stances.mpr ⟨state, wasThere, sameFrames, sameWait⟩) frame isFrame
  · intro other given goesOn
    cases goesOn

/-! ## The end of a move -/

/-- What comes after a frame takes up the tokens that are in hand. -/
theorem Sound.takeUp
    {change : Loop Frame → Loop Frame}
    {stance : Stance Frame}
    {frames : List Frame}
    {hand : List Token}
    (sound : station.Sound hand)
    (member : stance ∈ station.loop.stances)
    (tokens : frames.flatMap Frame.tokens = hand)
    (frameFits : ∀ frame ∈ frames, station.FrameFits frame)
    (frameStacks : (change station.loop).frameStacks =
      (station.loop.setFrames stance.task (frames ++ stance.frames)).frameStacks)
    (lasts : station.loop.Lasts (change station.loop))
    (fits : (change station.loop).Fits (station.modifyLoop change).Holds
      (station.modifyLoop change).Rests)
    (topics : ∀ promise, (change station.loop).topic? promise = station.loop.topic? promise) :
    (station.modifyLoop change).Sound [] := by
  refine sound.reloop lasts fits (fun told => (topics _).symm.trans told) ?_ ?_
  · have sameHeld : (station.modifyLoop change).held =
        (station.loop.setFrames stance.task (frames ++ stance.frames)).gathered
          Frame.tokens := by
      rw [held_eq_gathered, Loop.gathered, Loop.gathered, ← frameStacks]
      rfl
    have takenUp := Loop.perm_gathered_takeUp sound.loop.distinct member frames Frame.tokens
    rw [tokens] at takenUp
    rw [sameHeld, held_eq_gathered, List.nil_append]
    exact takenUp
  · intro other isThere frame isFrame
    have isStack : (other.task, other.frames) ∈ (change station.loop).frameStacks :=
      Loop.mem_frameStacks.mpr ⟨other, isThere, rfl, rfl⟩
    rw [frameStacks, Loop.frameStacks_setFrames] at isStack
    obtain ⟨⟨number, oldFrames⟩, wasThere, same⟩ := List.mem_map.mp isStack
    obtain ⟨old, oldMember, rfl, rfl⟩ := Loop.mem_frameStacks.mp wasThere
    dsimp only at same
    split at same
    · have isFrames : frames ++ stance.frames = other.frames := congrArg Prod.snd same
      rw [← isFrames] at isFrame
      rcases List.mem_append.mp isFrame with new | kept
      · exact frameFits frame new
      · exact sound.frames stance member frame kept
    · have isFrames : old.frames = other.frames := congrArg Prod.snd same
      exact sound.frames old oldMember frame (isFrames ▸ isFrame)

/-- A frame that goes on lays its tokens down. -/
theorem Sound.layDown
    {stance : Stance Frame}
    {frame : Frame}
    {rest : List Frame}
    {outcome : Outcome}
    (sound : station.Sound [])
    (running : station.loop.running = some (stance.task, outcome))
    (member : stance ∈ station.loop.stances)
    (isTop : stance.frames = frame :: rest) :
    (station.modifyLoop fun loop => loop.setFrames stance.task rest).Sound frame.tokens ∧
      station.Lasts (station.modifyLoop fun loop => loop.setFrames stance.task rest) := by
  have lastsLoop := Loop.lasts_setFrames running rest
  have lasts : station.Lasts (station.modifyLoop fun loop => loop.setFrames stance.task rest) :=
    lasts_modifyLoop lastsLoop
  have fits := (sound.loopLater lasts).setFrames running rest
  refine ⟨sound.reloop lastsLoop fits id ?_ ?_, lasts⟩
  · rw [held_eq_gathered, held_eq_gathered, List.nil_append]
    exact Loop.perm_gathered_layDown sound.loop.distinct member isTop Frame.tokens
  · intro other isThere known isFrame
    rcases Loop.mem_stances_modifyTask isThere with ⟨_, _, _, sameFrames, _⟩ | ⟨_, wasThere⟩
    · have isRest : other.frames = rest := sameFrames
      refine sound.frames stance member known ?_
      rw [isTop]
      exact List.mem_cons_of_mem frame (isRest ▸ isFrame)
    · exact sound.frames other wasThere known isFrame

/-- A task goes on as the frame that went on said. -/
theorem Sound.follow
    {stance : Stance Frame}
    {next : Next}
    {given goal : Topic}
    {outcome : Outcome}
    (sound : station.Sound next.tokens)
    (running : station.loop.running = some (stance.task, outcome))
    (member : stance ∈ station.loop.stances)
    (told : station.loop.topic? stance.task = some goal)
    (errand : goal.IsErrand)
    (leads : station.Leads next given)
    (later : station.Reaches given stance.frames goal)
    (loyal : goal = .draining → outcome = .cancelled → next = .give .cancelled) :
    (station.follow stance.task stance.frames next).Poised ∧
      station.Lasts (station.follow stance.task stance.frames next) := by
  obtain ⟨⟨start, reaches, awaits⟩, frameFits⟩ := leads
  have whole := reaches.append later
  obtain ⟨frames, pause⟩ := next
  cases pause with
  | give result =>
      have lastsLoop : station.loop.Lasts
          ((station.loop.setFrames stance.task (frames ++ stance.frames)).letRun stance.task
            result) := by
        -- A task that drains a log has to end as cancelled when it is; `loyal` says that it does.
        refine Loop.lasts_letRun running (fun isDraining isCancelled => ?_) _
        cases told.symm.trans isDraining
        cases loyal rfl isCancelled
        rfl
      have lasts : station.Lasts (station.modifyLoop fun loop =>
          (loop.setFrames stance.task (frames ++ stance.frames)).letRun stance.task result) :=
        lasts_modifyLoop lastsLoop
      have goes : station.Goes stance.task (frames ++ stance.frames) result :=
        ⟨goal, start, told, errand, whole, awaits⟩
      have poised := (sound.loopLater lasts).letRun running (lasts.goes goes)
      exact ⟨⟨sound.takeUp member rfl frameFits rfl lastsLoop poised.toFits fun _ => rfl,
        poised.goes⟩, lasts⟩
  | await promise =>
      have resting : station.loop.topic? stance.task = some .draining → outcome ≠ .cancelled := by
        intro isDraining isCancelled
        cases told.symm.trans isDraining
        cases loyal rfl isCancelled
      have lastsLoop := Loop.lasts_await running resting (frames ++ stance.frames) promise
      have lasts : station.Lasts (station.modifyLoop fun loop =>
          (loop.setFrames stance.task (frames ++ stance.frames)).await stance.task promise) :=
        lasts_modifyLoop lastsLoop
      -- What the promise tells leads through the frames to the goal, so the task may wait for it.
      have rests : station.Rests ⟨stance.task, frames ++ stance.frames, some promise⟩ := by
        refine ⟨goal, start, told, errand, whole, nofun, fun other waits => ?_⟩
        cases waits
        exact awaits
      have poised := (sound.loopLater lasts).await running (lasts.rests rests)
        fun {result} settled => lasts.goes
          (rests.wakes settled fun topic isTold => sound.loop.outcomes isTold settled)
      refine ⟨⟨sound.takeUp member rfl frameFits ?_ lastsLoop poised.toFits ?_, poised.goes⟩, lasts⟩
      · exact Loop.frameStacks_await _ _ _
      · exact Loop.topic?_await promise
  | yield =>
      have resting : station.loop.topic? stance.task = some .draining → outcome ≠ .cancelled := by
        intro isDraining isCancelled
        cases told.symm.trans isDraining
        cases loyal rfl isCancelled
      have lastsLoop := Loop.lasts_yieldTurn running resting (frames ++ stance.frames)
      have lasts : station.Lasts (station.modifyLoop fun loop =>
          (loop.setFrames stance.task (frames ++ stance.frames)).yieldTurn stance.task) :=
        lasts_modifyLoop lastsLoop
      have rests : station.Rests ⟨stance.task, frames ++ stance.frames, none⟩ :=
        ⟨goal, start, told, errand, whole, fun _ => awaits, nofun⟩
      have fits := (sound.loopLater lasts).yieldTurn running (lasts.rests rests)
      refine ⟨⟨sound.takeUp member rfl frameFits rfl lastsLoop fits fun _ => rfl, ?_⟩, lasts⟩
      intro task given goesOn
      cases goesOn

/-- The running task of a poised station may close a client, unless it drains a log. -/
theorem Poised.mayClose
    {task : Nat}
    {goal : Topic}
    {outcome : Outcome}
    (running : station.loop.running = some (task, outcome))
    (told : station.loop.topic? task = some goal)
    (errand : goal.IsErrand)
    (other : goal ≠ .draining) :
    station.MayClose := by
  intro known given goesOn
  cases running.symm.trans goesOn
  exact ⟨goal, told, other, errand⟩

/-- What holds when a frame goes on with an outcome: its tokens are in hand, it takes what it is
told, and the frames behind it lead on from what it gives to what the task is about. -/
structure Resumes
    (station : Station)
    (task : Nat)
    (frame : Frame)
    (rest : List Frame)
    (outcome : Outcome)
    (given goal : Topic) : Prop where
  sound : station.Sound frame.tokens
  fits : station.FrameFits frame
  taken : ∃ wanted, station.Takes frame wanted given ∧ station.Holds wanted outcome
  told : station.loop.topic? task = some goal
  errand : goal.IsErrand
  later : station.Reaches given rest goal
  drains : goal = .draining → given = .draining
  mayClose : given ≠ .draining → station.MayClose

/-- The innermost frame of the running task of a poised station goes on as it may when it is taken
from the others. -/
theorem Poised.resumes
    {stance : Stance Frame}
    {frame : Frame}
    {rest : List Frame}
    {outcome : Outcome}
    (poised : station.Poised)
    (running : station.loop.running = some (stance.task, outcome))
    (member : stance ∈ station.loop.stances)
    (isTop : stance.frames = frame :: rest) :
    station.Lasts (station.modifyLoop fun loop => loop.setFrames stance.task rest) ∧
      ∃ given goal, (station.modifyLoop fun loop => loop.setFrames stance.task rest).Resumes
        stance.task frame rest outcome given goal := by
  obtain ⟨goal, start, told, errand, reaches, holds⟩ := poised.goes running
  rw [poised.toSound.loop.frames_of_mem member, isTop] at reaches
  have wholeReaches := reaches
  obtain ⟨wanted, given, serves, taken, later⟩ := reaches
  have drains : goal = .draining → given = .draining := by
    rintro rfl
    rcases wholeReaches.drains with ⟨isNil, _⟩ | ⟨_, isOne, _⟩
    · cases isNil
    · cases isOne
      exact later.elim id nofun
  obtain ⟨sound, lasts⟩ := poised.toSound.layDown running member isTop
  have fits : (station.modifyLoop fun loop => loop.setFrames stance.task rest).FrameFits frame := by
    refine (poised.toSound.frames stance member frame ?_).later (fun _ => id) List.prefix_rfl
    rw [isTop]
    exact List.mem_cons_self
  have tells := lasts.holds (holds_of_serves serves holds)
  refine ⟨lasts, given, goal, sound, fits, ⟨wanted, lasts.takes taken, tells⟩, told, errand,
    lasts.reaches later, drains, fun other => ?_⟩
  exact Poised.mayClose running told errand fun isDraining => other (drains isDraining)

/-- A frame of a poised station goes on. -/
theorem Poised.goOnIn
    {stance : Stance Frame}
    {frame : Frame}
    {rest : List Frame}
    {outcome : Outcome}
    (poised : station.Poised)
    (running : station.loop.running = some (stance.task, outcome))
    (member : stance ∈ station.loop.stances)
    (isTop : stance.frames = frame :: rest) :
    let moved := (Move.resume frame outcome).make
      (station.modifyLoop fun loop => loop.setFrames stance.task rest)
    (moved.2.follow stance.task rest moved.1).Poised ∧
      station.Lasts (moved.2.follow stance.task rest moved.1) := by
  intro moved
  obtain ⟨lasts, given, goal, resumes⟩ := poised.resumes running member isTop
  obtain ⟨wanted, taken, holds⟩ := resumes.taken
  obtain ⟨comes, leads⟩ := Move.leads_resume resumes.sound resumes.fits taken holds resumes.mayClose
  have loyal : goal = .draining → outcome = .cancelled → moved.1 = .give .cancelled := by
    intro isDraining isCancelled
    have ends : (station.modifyLoop fun loop => loop.setFrames stance.task rest).Takes frame
        wanted .draining := resumes.drains isDraining ▸ taken
    subst isCancelled
    exact Move.make_resume_of_drains resumes.sound ends.drains.2
  rw [List.append_nil] at comes
  have runs : moved.2.loop.running = some (stance.task, outcome) :=
    comes.onward.grows.running.trans running
  obtain ⟨⟨task, frames, waitingOn⟩, isThere, sameTask⟩ :=
    Loop.exists_stance_modifyTask member stance.task fun state => { state with frames := rest }
  have isRest : frames = rest := Loop.mem_stances_setFrames isThere sameTask
  subst isRest
  cases sameTask
  have onward := comes.onward.toLasts
  have member : ⟨stance.task, frames, waitingOn⟩ ∈ moved.2.loop.stances :=
    comes.onward.grows.stances.subset isThere
  have laterNow : moved.2.Reaches given frames goal := onward.reaches resumes.later
  have runsNow : moved.2.loop.running =
      some ((⟨stance.task, frames, waitingOn⟩ : Stance Frame).task, outcome) := runs
  obtain ⟨followed, lastsFollow⟩ := Sound.follow comes.sound runsNow member
    (onward.loop.topics resumes.told) resumes.errand leads laterNow loyal
  exact ⟨followed, (lasts.trans onward).trans lastsFollow⟩

/-- Every step leaves a poised station poised, and nothing that stays is lost. -/
theorem Poised.step (poised : station.Poised) :
    station.step.Poised ∧ station.Lasts station.step := by
  unfold Station.step
  split
  · rename_i task outcome running
    unfold goOn
    split
    · rename_i bare
      exact poised.finish running bare
    · rename_i frame rest isTop
      obtain ⟨stance, member, rfl⟩ := poised.toSound.loop.running running
      have sameFrames := (poised.toSound.loop.frames_of_mem member).symm.trans isTop
      exact poised.goOnIn running member sameFrames
  · rename_i nobody
    exact poised.toSound.takeTurn nobody

end AnalyzerSessions.Station
