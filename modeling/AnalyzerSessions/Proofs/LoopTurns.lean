import AnalyzerSessions.Proofs.FittingLoops

namespace AnalyzerSessions.Loop

/-!
# Turns of a loop

Between the moves of tasks a loop takes turns, lets the running task wait, or ends
it.  Nothing that lasts is lost by that, and a loop that fits goes on fitting: who
goes on does so with an outcome that tells what it waited for, or with a
cancellation.
-/

variable {Frame : Type} {holds : Topic → Outcome → Prop} {rests : Stance Frame → Prop}

/-- A loop that fits, and in which the running task goes on as it may. -/
structure Poised
    (holds : Topic → Outcome → Prop)
    (rests : Stance Frame → Prop)
    (goes : Nat → List Frame → Outcome → Prop)
    (loop : Loop Frame) : Prop extends loop.Fits holds rests where
  goes : ∀ {task outcome}, loop.running = some (task, outcome) →
    goes task (loop.frames task) outcome

/-- Nobody goes on where nobody runs. -/
theorem Fits.poised
    {loop : Loop Frame}
    {goes : Nat → List Frame → Outcome → Prop}
    (fits : loop.Fits holds rests)
    (nobody : loop.running = none) :
    loop.Poised holds rests goes := by
  refine ⟨fits, ?_⟩
  intro task outcome running
  rw [nobody] at running
  cases running

/-- Every task is aside where nobody runs. -/
theorem isAside_of_running_eq_none
    {loop : Loop Frame}
    (nobody : loop.running = none)
    (task : Nat) :
    loop.IsAside task := by
  intro outcome running
  rw [nobody] at running
  cases running

/-- The running task is not aside. -/
theorem not_isAside
    {loop : Loop Frame}
    {task : Nat}
    {outcome : Outcome}
    (running : loop.running = some (task, outcome)) :
    ¬loop.IsAside task :=
  fun aside => aside outcome running

/-- All tasks but the running one are aside. -/
theorem isAside_of_ne
    {loop : Loop Frame}
    {task other : Nat}
    {outcome : Outcome}
    (running : loop.running = some (task, outcome))
    (different : other ≠ task) :
    loop.IsAside other := by
  intro given same
  rw [running] at same
  cases same
  exact different rfl

/-- The task that is not aside is the running one. -/
theorem eq_of_not_isAside
    {loop : Loop Frame}
    {task other : Nat}
    {outcome : Outcome}
    (running : loop.running = some (task, outcome))
    (goesOn : ¬loop.IsAside other) :
    other = task := by
  by_contra different
  exact goesOn (isAside_of_ne running different)

/-! ## Turns -/

/-- The tasks after one of them was changed. -/
theorem mem_tasks_modifyTask
    {loop : Loop Frame}
    {task number : Nat}
    {change : Task Frame → Task Frame}
    {state : Task Frame}
    (member : (number, state) ∈ (loop.modifyTask task change).tasks) :
    ∃ old, (number, old) ∈ loop.tasks ∧ state = if number = task then change old else old := by
  obtain ⟨⟨known, old⟩, isThere, same⟩ := List.mem_map.mp member
  dsimp only at same
  split at same
  · rename_i isTask
    cases same
    exact ⟨old, isThere, (if_pos isTask).symm⟩
  · rename_i isOther
    cases same
    exact ⟨state, isThere, (if_neg isOther).symm⟩

/-- How a task waits after one of them was changed. -/
theorem mem_stances_modifyTask
    {loop : Loop Frame}
    {task : Nat}
    {change : Task Frame → Task Frame}
    {stance : Stance Frame}
    (member : stance ∈ (loop.modifyTask task change).stances) :
    (stance.task = task ∧ ∃ old, (task, old) ∈ loop.tasks ∧
      stance.frames = (change old).frames ∧ stance.waitingOn = (change old).waitingOn) ∨
    (stance.task ≠ task ∧ stance ∈ loop.stances) := by
  obtain ⟨state, isThere, sameFrames, sameWait⟩ := mem_stances.mp member
  obtain ⟨old, wasThere, same⟩ := mem_tasks_modifyTask isThere
  by_cases isTask : stance.task = task
  · rw [if_pos isTask] at same
    subst same
    exact .inl ⟨isTask, old, isTask ▸ wasThere, sameFrames.symm, sameWait.symm⟩
  · rw [if_neg isTask] at same
    subst same
    exact .inr ⟨isTask, mem_stances.mpr ⟨state, wasThere, sameFrames, sameWait⟩⟩

/-- The other tasks after one of them was changed. -/
theorem mem_tasks_of_ne
    {loop : Loop Frame}
    {task other : Nat}
    {change : Task Frame → Task Frame}
    {state : Task Frame}
    (different : other ≠ task)
    (member : (other, state) ∈ (loop.modifyTask task change).tasks) :
    (other, state) ∈ loop.tasks := by
  obtain ⟨old, wasThere, same⟩ := mem_tasks_modifyTask member
  rw [if_neg different] at same
  exact same ▸ wasThere

/-- Every task is still there after one of them was changed. -/
theorem exists_stance_modifyTask
    {loop : Loop Frame}
    {stance : Stance Frame}
    (member : stance ∈ loop.stances)
    (task : Nat)
    (change : Task Frame → Task Frame) :
    ∃ other ∈ (loop.modifyTask task change).stances, other.task = stance.task := by
  obtain ⟨old, isThere, _⟩ := mem_stances.mp member
  refine ⟨⟨stance.task, _, _⟩, mem_stances.mpr ⟨if stance.task = task then change old else old,
    List.mem_map.mpr ⟨(stance.task, old), isThere, ?_⟩, rfl, rfl⟩, rfl⟩
  dsimp only
  split <;> rfl

/-- Changing a task leaves the numbers of all tasks as they are. -/
theorem numbers_modifyTask
    (loop : Loop Frame)
    (task : Nat)
    (change : Task Frame → Task Frame) :
    (loop.modifyTask task change).stances.map Stance.task = loop.stances.map Stance.task := by
  simp only [stances, modifyTask, List.map_map]
  refine List.map_congr_left fun entry _ => ?_
  simp only [Function.comp]
  split <;> rfl

/-- A loop fits in which the same tasks, or fewer, wait as they may. -/
theorem Fits.rearrange
    {before after : Loop Frame}
    (fits : before.Fits holds rests)
    (topics : ∀ promise, after.topic? promise = before.topic? promise)
    (outcomes : ∀ promise, after.outcome? promise = before.outcome? promise)
    (releases : ∀ {promise}, after.Releases promise → before.Releases promise)
    (numbers : (after.stances.map Stance.task).Sublist (before.stances.map Stance.task))
    (waits : ∀ stance ∈ after.stances, (after.IsAside stance.task → rests stance) ∧
      (¬after.IsAside stance.task → stance.waitingOn = none))
    (kept : ∀ stance ∈ before.stances, before.outcome? stance.task = none →
      ∃ other ∈ after.stances, other.task = stance.task)
    (running : ∀ {task outcome}, after.running = some (task, outcome) →
      ∃ stance ∈ after.stances, stance.task = task) :
    after.Fits holds rests where
  outcomes told settled :=
    fits.outcomes ((topics _).symm.trans told) ((outcomes _).symm.trans settled)
  rests stance member := (waits stance member).1
  distinct := fits.distinct.sublist numbers
  idle stance member := (waits stance member).2
  known stance member := by
    obtain ⟨old, wasThere, same⟩ := List.mem_map.mp
      (numbers.subset (List.mem_map_of_mem member))
    rw [topics, ← same]
    exact fits.known old wasThere
  running := running
  ticking := fits.ticking.of_releases (fun told => (topics _).trans told)
    fun released => .inl (releases released)
  cancellable told unsettled := by
    rw [outcomes] at unsettled
    refine (fits.cancellable ((topics _).symm.trans told) unsettled).imp_right ?_
    rintro ⟨stance, member, rfl⟩
    exact kept stance member unsettled

/-- The task that is found after one of them was changed. -/
theorem task?_modifyTask
    (loop : Loop Frame)
    (task other : Nat)
    (change : Task Frame → Task Frame) :
    (loop.modifyTask task change).task? other =
      (loop.task? other).map fun state => if other = task then change state else state := by
  unfold task? modifyTask
  dsimp only
  induction loop.tasks with
  | nil =>
      rfl
  | cons entry rest inductionHypothesis =>
      obtain ⟨number, state⟩ := entry
      by_cases found : number = other
      · subst found
        by_cases isTask : number = task
        · simp [isTask]
        · simp [isTask]
      · have notFound : (number == other) = false := by
          simpa using found
        by_cases isTask : number = task
        · subst isTask
          simpa [List.find?_cons, notFound] using inductionHypothesis
        · simpa [List.find?_cons, notFound, isTask] using inductionHypothesis

/-- A change of a task that keeps its frames keeps all frames. -/
theorem frames_modifyTask
    (loop : Loop Frame)
    (task other : Nat)
    {change : Task Frame → Task Frame}
    (same : ∀ state, (change state).frames = state.frames) :
    (loop.modifyTask task change).frames other = loop.frames other := by
  unfold frames
  rw [task?_modifyTask]
  cases loop.task? other with
  | none =>
      rfl
  | some state =>
      simp only [Option.map_some, Option.getD_some]
      split
      · exact same state
      · rfl

theorem lasts_proceed
    {loop : Loop Frame}
    {task : Nat}
    {awaited : Option Nat}
    {outcome : Outcome}
    (nobody : loop.running = none)
    (woken : ∀ promise, awaited = some promise → loop.outcome? promise = some outcome) :
    loop.Lasts (loop.proceed task awaited outcome) := by
  unfold proceed
  split
  · exact .refl loop
  · rename_i state found
    split
    · rename_i waits
      refine ⟨fun told => told, fun settled => settled, fun {doomedTask} doomed => ?_⟩
      refine ⟨doomed.draining, doomed.quiet, fun unsettled => ?_⟩
      cases doomed.ending unsettled with
      | going running =>
        rw [nobody] at running
        cases running
      | waiting _ cancelled =>
        by_cases isTask : doomedTask = task
        · subst isTask
          refine .going ?_
          rcases cancelled state (mem_of_task? found) with due | ⟨promise, waitsFor, settled⟩
          · simp [letRun, due]
          · have isCancelled := (woken promise (waits.symm.trans waitsFor)).symm.trans settled
            cases isCancelled
            simp [letRun]
        · refine .waiting ?_ ?_
          · intro given running
            cases running
            exact isTask rfl
          · intro other member
            have changed : (doomedTask, other) ∈ (loop.modifyTask task Task.awakened).tasks := member
            exact cancelled other (mem_tasks_of_ne isTask changed)
    · exact .refl loop

theorem lasts_take
    {loop : Loop Frame}
    (nobody : loop.running = none)
    (turn : Turn)
    (released : ∀ promise, turn = .release promise → loop.topic? promise = some .tick) :
    loop.Lasts (loop.take turn) := by
  cases turn with
  | begin task =>
      refine lasts_proceed nobody fun promise waits => ?_
      cases waits
  | wake task promise =>
      dsimp only [take]
      cases settled : loop.outcome? promise with
      | none =>
          exact .refl loop
      | some outcome =>
          refine lasts_proceed nobody fun other waits => ?_
          cases waits
          exact settled
  | release promise =>
      refine (grows_settle fun told => ?_).toLasts
      rw [released promise rfl] at told
      cases told

theorem lasts_turns
    (loop : Loop Frame)
    (current ready : List Turn)
    (timers : TimerHeap) :
    loop.Lasts { loop with current, ready, timers } := by
  refine Grows.toLasts (grows_of_same ?_ ?_ rfl rfl)
  · exact fun _ => rfl
  · exact fun _ => rfl

theorem lasts_takeTurn
    {loop : Loop Frame}
    (fits : loop.Fits holds rests)
    (nobody : loop.running = none) :
    loop.Lasts loop.takeTurn := by
  unfold takeTurn
  split
  · exact lasts_turns loop _ _ _
  · rename_i turn rest due
    have isTick : ∀ promise, turn = .release promise → loop.topic? promise = some .tick := by
      intro promise isRelease
      refine fits.ticking promise (.turn (.inl ?_))
      rw [due, isRelease]
      exact List.mem_cons_self
    have stillNobody : ({ loop with current := rest } : Loop Frame).running = none := nobody
    exact (lasts_turns loop rest loop.ready loop.timers).trans
      (lasts_take stillNobody turn isTick)

theorem topic?_takeTurn
    (loop : Loop Frame)
    (promise : Nat) :
    loop.takeTurn.topic? promise = loop.topic? promise := by
  have proceeds : ∀ (loop : Loop Frame) task awaited outcome,
      (loop.proceed task awaited outcome).topic? promise = loop.topic? promise := by
    intro loop task awaited outcome
    unfold proceed
    split
    · rfl
    · split <;> rfl
  unfold takeTurn
  split
  · rfl
  · rename_i turn rest _
    cases turn with
    | begin task =>
        exact proceeds { loop with current := rest } task none .done
    | wake task awaited =>
        dsimp only [take]
        split
        · exact proceeds { loop with current := rest } task _ _
        · rfl
    | release other =>
        exact topic?_settle { loop with current := rest } other .done promise

/-- A loop whose turns were due before, or that timers have brought, ticks. -/
theorem Fits.turns
    {loop : Loop Frame}
    (fits : loop.Fits holds rests)
    {current ready : List Turn}
    {timers : TimerHeap}
    (started : ∀ timer ∈ timers.places, timer ∈ loop.timers.places)
    (due : ∀ promise, .release promise ∈ current ∨ .release promise ∈ ready →
      loop.Releases promise) :
    ({ loop with current, ready, timers } : Loop Frame).Fits holds rests := by
  refine fits.of_same ?_ ?_ rfl rfl ?_
  · exact fun _ => rfl
  · exact fun _ => rfl
  · intro promise released
    refine fits.ticking promise ?_
    cases released with
    | timer isThere =>
        exact .timer (started _ isThere)
    | turn isDue =>
        exact due promise isDue
    | waiter found waits =>
        exact .waiter found waits

/-- A round may begin. -/
theorem Fits.beginRound
    {loop : Loop Frame}
    (fits : loop.Fits holds rests) :
    loop.beginRound.Fits holds rests := by
  refine fits.turns ?_ ?_
  · exact fun timer isThere => TimerHeap.mem_tidy (TimerHeap.mem_takeDue (.inr isThere))
  · rintro promise (current | ready)
    · rcases List.mem_append.mp current with old | new
      · exact .turn (.inr old)
      · obtain ⟨timer, isDue, same⟩ := List.mem_map.mp new
        cases same
        have started := (List.mem_filter.mp isDue).1
        exact .timer (TimerHeap.mem_tidy (TimerHeap.mem_takeDue (.inl started)))
    · cases ready

theorem releases_of_same
    {before after : Loop Frame}
    {promise : Nat}
    (released : after.Releases promise)
    (promises : after.promises = before.promises)
    (timers : after.timers = before.timers)
    (current : after.current = before.current)
    (ready : after.ready = before.ready) :
    before.Releases promise := by
  cases released with
  | timer started =>
      exact .timer (timers ▸ started)
  | turn due =>
      exact .turn (current ▸ ready ▸ due)
  | waiter found waits =>
      exact .waiter (promises ▸ found) waits

/-- A task goes on as it may. -/
theorem Fits.proceed
    {loop : Loop Frame}
    {goes : Nat → List Frame → Outcome → Prop}
    {task : Nat}
    {awaited : Option Nat}
    {outcome : Outcome}
    (fits : loop.Fits holds rests)
    (nobody : loop.running = none)
    (wakes : ∀ frames, rests ⟨task, frames, awaited⟩ →
      goes task frames .cancelled ∧ goes task frames outcome) :
    (loop.proceed task awaited outcome).Poised holds rests goes := by
  unfold Loop.proceed
  split
  · exact fits.poised nobody
  · rename_i state found
    split
    · rename_i waits
      have member : ⟨task, state.frames, awaited⟩ ∈ loop.stances :=
        mem_stances.mpr ⟨state, mem_of_task? found, rfl, waits⟩
      have everyoneAside := isAside_of_running_eq_none nobody
      have framesSame : (loop.modifyTask task Task.awakened).frames task =
          state.frames := by
        rw [frames_modifyTask]
        · simp [frames, found]
        · exact fun _ => rfl
      obtain ⟨cancelled, given⟩ := wakes state.frames (fits.rests _ member (everyoneAside task))
      refine ⟨fits.rearrange (fun _ => rfl) (fun _ => rfl)
        (fun released => releases_of_same released rfl rfl rfl rfl) ?_ ?_ ?_ ?_, ?_⟩
      · exact (numbers_modifyTask loop task Task.awakened) ▸ .refl _
      · intro stance isThere
        have changed : stance ∈ (loop.modifyTask task Task.awakened).stances := isThere
        rcases mem_stances_modifyTask changed with
          ⟨isTask, old, wasThere, _, noWait⟩ | ⟨different, wasThere⟩
        · refine ⟨fun aside => ?_, fun _ => noWait⟩
          exact (aside _ (congrArg (fun number => some (number, _)) isTask.symm)).elim
        · refine ⟨fun _ => ?_, fun goesOn => ?_⟩
          · exact fits.rests stance wasThere (everyoneAside _)
          · exact (different (eq_of_not_isAside rfl goesOn)).elim
      · exact fun stance wasThere _ => exists_stance_modifyTask wasThere task Task.awakened
      · intro other given running
        cases running
        exact exists_stance_modifyTask member task Task.awakened
      · intro other given running
        cases running
        show goes task ((loop.modifyTask task Task.awakened).frames task) _
        rw [framesSame]
        split
        -- A task that was to be cancelled meanwhile wakes with the cancellation instead.
        · exact cancelled
        · exact given
    · exact fits.poised nobody

/-- Whoever waits as he may, may go on with what he waited for, and with a cancellation. -/
def Wakes
    (holds : Topic → Outcome → Prop)
    (rests : Stance Frame → Prop)
    (goes : Nat → List Frame → Outcome → Prop)
    (loop : Loop Frame) : Prop :=
  ∀ {task frames}, (∀ {awaited}, rests ⟨task, frames, awaited⟩ → goes task frames .cancelled) ∧
    (rests ⟨task, frames, none⟩ → goes task frames .done) ∧
    (∀ {promise outcome}, rests ⟨task, frames, some promise⟩ →
      (∀ topic, loop.topic? promise = some topic → holds topic outcome) →
      loop.outcome? promise = some outcome → goes task frames outcome)

/-- The next turn may be taken. -/
theorem Fits.takeTurn
    {loop : Loop Frame}
    {goes : Nat → List Frame → Outcome → Prop}
    (fits : loop.Fits holds rests)
    (nobody : loop.running = none)
    (wakes : loop.Wakes holds rests goes)
    (happens : holds .tick .done) :
    loop.takeTurn.Poised holds rests goes := by
  unfold Loop.takeTurn
  split
  · exact fits.beginRound.poised nobody
  · rename_i turn rest due
    have shorter : ({ loop with current := rest } : Loop Frame).Fits holds rests := by
      refine fits.turns (fun _ isThere => isThere) ?_
      rintro promise (current | ready)
      · exact .turn (.inl (due ▸ List.mem_cons_of_mem _ current))
      · exact .turn (.inr ready)
    cases turn with
    | begin task =>
        exact shorter.proceed nobody fun frames mayRest => ⟨wakes.1 mayRest, wakes.2.1 mayRest⟩
    | wake task promise =>
        dsimp only [Loop.take]
        cases settled : ({ loop with current := rest } : Loop Frame).outcome? promise with
        | none =>
            exact shorter.poised nobody
        | some outcome =>
            refine shorter.proceed nobody fun frames mayRest => ⟨wakes.1 mayRest, ?_⟩
            exact wakes.2.2 mayRest (fun topic told => fits.outcomes told settled) settled
    | release promise =>
        have isTick : loop.topic? promise = some .tick :=
          fits.ticking promise (.turn (.inl (due ▸ List.mem_cons_self)))
        refine (shorter.settle fun topic told => ?_).poised ?_
        · cases isTick.symm.trans told
          exact happens
        · exact (running_settle _ _ _).trans nobody

/-! ## The end of a move -/

/-- The frames of the running task may change. -/
theorem Fits.setFrames
    {loop : Loop Frame}
    {task : Nat}
    {outcome : Outcome}
    (fits : loop.Fits holds rests)
    (running : loop.running = some (task, outcome))
    (frames : List Frame) :
    (loop.setFrames task frames).Fits holds rests := by
  refine fits.rearrange (fun _ => rfl) (fun _ => rfl)
    (fun released => releases_of_same released rfl rfl rfl rfl) ?_ ?_ ?_ ?_
  · exact (numbers_modifyTask loop task _) ▸ .refl _
  · intro stance changed
    rcases mem_stances_modifyTask changed with ⟨rfl, old, wasThere, _, sameWait⟩ | ⟨_, wasThere⟩
    · have member : ⟨stance.task, old.frames, old.waitingOn⟩ ∈ loop.stances :=
        mem_stances.mpr ⟨old, wasThere, rfl, rfl⟩
      refine ⟨fun aside => (aside _ running).elim, fun goesOn => ?_⟩
      exact sameWait.trans (fits.idle _ member goesOn)
    · exact ⟨fits.rests stance wasThere, fits.idle stance wasThere⟩
  · exact fun stance wasThere _ => exists_stance_modifyTask wasThere task _
  · intro other given goesOn
    obtain ⟨stance, member, isTask⟩ := fits.running goesOn
    obtain ⟨changed, isThere, same⟩ := exists_stance_modifyTask member task _
    exact ⟨changed, isThere, same.trans isTask⟩

/-- The frames of a task that were set. -/
theorem mem_stances_setFrames
    {loop : Loop Frame}
    {task : Nat}
    {frames : List Frame}
    {stance : Stance Frame}
    (member : stance ∈ (loop.setFrames task frames).stances)
    (isTask : stance.task = task) :
    stance.frames = frames := by
  rcases mem_stances_modifyTask member with ⟨_, old, _, sameFrames, _⟩ | ⟨different, _⟩
  · exact sameFrames
  · exact (different isTask).elim

/-- Nobody may run when the task that ran waits as it may. -/
theorem Fits.pause
    {loop : Loop Frame}
    {task : Nat}
    {outcome : Outcome}
    (fits : loop.Fits holds rests)
    (running : loop.running = some (task, outcome))
    (mayRest : ∀ stance ∈ loop.stances, stance.task = task → rests stance) :
    loop.pause.Fits holds rests := by
  refine fits.rearrange (fun _ => rfl) (fun _ => rfl)
    (fun released => releases_of_same released rfl rfl rfl rfl) (.refl _) ?_ ?_ ?_
  · intro stance member
    refine ⟨fun _ => ?_, fun goesOn => ?_⟩
    · by_cases isTask : stance.task = task
      · exact mayRest stance member isTask
      · exact fits.rests stance member (isAside_of_ne running isTask)
    · exact (goesOn (isAside_of_running_eq_none rfl _)).elim
  · exact fun stance member _ => ⟨stance, member, rfl⟩
  · intro other given same
    cases same

/-- Setting the frames of an unfinished task. -/
theorem frames_setFrames
    {loop : Loop Frame}
    {stance : Stance Frame}
    (member : stance ∈ loop.stances)
    (frames : List Frame) :
    (loop.setFrames stance.task frames).frames stance.task = frames := by
  unfold setFrames Loop.frames
  rw [task?_modifyTask]
  obtain ⟨state, isThere, _⟩ := mem_stances.mp member
  cases found : loop.task? stance.task with
  | none =>
      exact (not_mem_of_task? found state isThere).elim
  | some known =>
      simp

theorem lasts_of_running
    {before after : Loop Frame}
    {task : Nat}
    {outcome : Outcome}
    (running : before.running = some (task, outcome))
    (topics : ∀ promise, after.topic? promise = before.topic? promise)
    (outcomes : ∀ {promise given}, before.outcome? promise = some given →
      after.outcome? promise = some given)
    (aside : ∀ other, other ≠ task → after.IsAside other ∧
      after.outcome? other = before.outcome? other ∧
      ∀ state, (other, state) ∈ after.tasks → (other, state) ∈ before.tasks)
    (loyal : before.Doomed task → after.Doomed task) :
    before.Lasts after := by
  refine ⟨fun told => (topics _).trans told, outcomes, fun {other} doomed => ?_⟩
  by_cases isTask : other = task
  · exact isTask ▸ loyal (isTask ▸ doomed)
  · obtain ⟨asideNow, sameOutcome, sameTasks⟩ := aside other isTask
    refine ⟨(topics other).trans doomed.draining, ?_, fun unsettled => ?_⟩
    · exact fun settled => doomed.quiet (sameOutcome.symm.trans settled)
    · cases doomed.ending (sameOutcome.symm.trans unsettled) with
      | going isRunning =>
          cases running.symm.trans isRunning
          exact (isTask rfl).elim
      | waiting _ cancelled =>
          refine .waiting asideNow fun state member => ?_
          refine (cancelled state (sameTasks state member)).imp_right ?_
          rintro ⟨promise, waits, settled⟩
          exact ⟨promise, waits, outcomes settled⟩

/-- The running task is doomed only if it has ended quietly or goes on with a cancellation. -/
theorem Doomed.going
    {loop : Loop Frame}
    {task : Nat}
    {outcome : Outcome}
    (doomed : loop.Doomed task)
    (running : loop.running = some (task, outcome))
    (unsettled : loop.outcome? task = none) :
    outcome = .cancelled := by
  cases doomed.ending unsettled with
  | going isRunning =>
      cases running.symm.trans isRunning
      rfl
  | waiting aside _ =>
      exact (aside _ running).elim

section

variable {loop : Loop Frame} {task : Nat} {outcome : Outcome}
  (running : loop.running = some (task, outcome))

include running

theorem lasts_letRun
    {given : Outcome}
    (loyal : loop.topic? task = some .draining → outcome = .cancelled → given = .cancelled)
    (frames : List Frame) :
    loop.Lasts ((loop.setFrames task frames).letRun task given) := by
  refine lasts_of_running running (fun _ => rfl) (fun settled => settled) ?_ ?_
  · intro other different
    refine ⟨isAside_of_ne rfl different, rfl, fun state member => ?_⟩
    have changed : (other, state) ∈ (loop.setFrames task frames).tasks := member
    exact mem_tasks_of_ne different changed
  · intro doomed
    refine ⟨doomed.draining, doomed.quiet, fun unsettled => .going ?_⟩
    rw [← loyal doomed.draining (doomed.going running unsettled)]
    rfl

theorem lasts_yieldTurn
    (loyal : loop.topic? task = some .draining → outcome ≠ .cancelled)
    (frames : List Frame) :
    loop.Lasts ((loop.setFrames task frames).yieldTurn task) := by
  refine lasts_of_running running (fun _ => rfl) (fun settled => settled) ?_ ?_
  · intro other different
    refine ⟨isAside_of_running_eq_none rfl other, rfl, fun state member => ?_⟩
    have changed : (other, state) ∈ (loop.setFrames task frames).tasks := member
    exact mem_tasks_of_ne different changed
  · intro doomed
    refine ⟨doomed.draining, doomed.quiet, fun unsettled => ?_⟩
    exact (loyal doomed.draining (doomed.going running unsettled)).elim

theorem lasts_await
    (loyal : loop.topic? task = some .draining → outcome ≠ .cancelled)
    (frames : List Frame)
    (promise : Nat) :
    loop.Lasts ((loop.setFrames task frames).await task promise) := by
  unfold await
  split
  · refine lasts_letRun running (fun draining isCancelled => ?_) frames
    exact (loyal draining isCancelled).elim
  · have outcomesSame : ∀ other, (((loop.setFrames task frames).whenSettled promise
        (.wake task)).modifyTask task (Task.waitingFor promise)).pause.outcome? other =
        loop.outcome? other :=
      outcome?_whenSettled (loop.setFrames task frames) promise _
    have waits : loop.Lasts (((loop.setFrames task frames).whenSettled promise
        (.wake task)).modifyTask task (Task.waitingFor promise)).pause := by
      refine lasts_of_running running (topic?_whenSettled _ promise _) ?_ ?_ ?_
      · exact fun settled => (outcomesSame _).trans settled
      · intro other different
        refine ⟨isAside_of_running_eq_none rfl other, outcomesSame other, fun state member => ?_⟩
        have changed : (other, state) ∈ (((loop.setFrames task frames).whenSettled promise
          (.wake task)).modifyTask task (Task.waitingFor promise)).tasks := member
        have framed := mem_tasks_of_ne different changed
        rw [tasks_whenSettled] at framed
        exact mem_tasks_of_ne different framed
      · intro doomed
        refine ⟨?_, fun settled => ?_, fun unsettled => ?_⟩
        · exact (topic?_whenSettled _ promise _ _).trans doomed.draining
        · exact doomed.quiet ((outcomesSame _).symm.trans settled)
        · have stillUnsettled := (outcomesSame _).symm.trans unsettled
          exact (loyal doomed.draining (doomed.going running stillUnsettled)).elim
    split
    · split
      · exact waits.trans (grows_cancel _ promise).toLasts
      · exact waits
    · exact waits

theorem lasts_finish :
    loop.Lasts (loop.finish task outcome) := by
  refine lasts_of_running running (topic?_settle loop task _) outcome?_settle_of_outcome? ?_ ?_
  · intro other different
    refine ⟨isAside_of_running_eq_none rfl other, ?_, fun state member => ?_⟩
    · show (loop.settle task _).outcome? other = _
      rw [outcome?_settle, if_neg fun same => different same.1]
    · have left := (List.mem_filter.mp member).1
      rwa [tasks_settle] at left
  · intro doomed
    refine ⟨(topic?_settle _ _ _ _).trans doomed.draining, fun {given} settled => ?_, ?_⟩
    · have settledNow : (loop.settle task _).outcome? task = some given := settled
      rw [outcome?_settle] at settledNow
      split at settledNow
      · rename_i isOpen
        rw [doomed.going running isOpen.2.2] at settledNow
        cases settledNow
        intro failure same
        cases same
        rfl
      · exact doomed.quiet settledNow
    · intro unsettled
      have unsettledNow : (loop.settle task _).outcome? task = none := unsettled
      rw [outcome?_settle] at unsettledNow
      split at unsettledNow
      · cases unsettledNow
      · rename_i isOpen
        exact (isOpen ⟨rfl, by rw [doomed.draining]; rfl, unsettledNow⟩).elim

omit running in
theorem topic?_await
    (promise other : Nat) :
    (loop.await task promise).topic? other = loop.topic? other := by
  unfold await
  split
  · rfl
  · have waits : ((loop.whenSettled promise (.wake task)).modifyTask task
        (Task.waitingFor promise)).pause.topic? other = loop.topic? other :=
      topic?_whenSettled loop promise _ other
    split
    · split
      · exact ((stances_topic?_cancelWithin _ _ promise).2 other).trans waits
      · exact waits
    · exact waits

omit running in
theorem outcome?_cancel_of_noTask
    {promise other : Nat}
    (noTask : loop.task? promise = none)
    (apart : other ≠ promise) :
    (loop.cancel promise).outcome? other = loop.outcome? other := by
  unfold cancel cancelWithin
  split
  · rfl
  · rw [noTask]
    dsimp only
    rw [outcome?_settle, if_neg fun same => apart same.1]

omit running in
theorem outcome?_await
    {promise other : Nat}
    (noTask : loop.task? promise = none)
    (apart : other ≠ promise) :
    (loop.await task promise).outcome? other = loop.outcome? other := by
  unfold await
  split
  · rfl
  · have waits : ((loop.whenSettled promise (.wake task)).modifyTask task
        (Task.waitingFor promise)).pause.outcome? other = loop.outcome? other :=
      outcome?_whenSettled loop promise _ other
    have stillNone : ((loop.whenSettled promise (.wake task)).modifyTask task
        (Task.waitingFor promise)).pause.task? promise = none := by
      have sameTasks : (loop.whenSettled promise (.wake task)).task? promise = none := by
        unfold whenSettled
        split <;> exact noTask
      show ((loop.whenSettled promise (.wake task)).modifyTask task
        (Task.waitingFor promise)).task? promise = none
      rw [task?_modifyTask, sameTasks]
      rfl
    split
    · split
      · exact (outcome?_cancel_of_noTask stillNone apart).trans waits
      · exact waits
    · exact waits

variable (fits : loop.Fits holds rests)

include fits

/-- The running task may run on as it may. -/
theorem Fits.letRun
    {goes : Nat → List Frame → Outcome → Prop}
    {frames : List Frame}
    {given : Outcome}
    (goesOn : goes task frames given) :
    ((loop.setFrames task frames).letRun task given).Poised holds rests goes := by
  obtain ⟨stance, member, isTask⟩ := fits.running running
  have framed := fits.setFrames running frames
  refine ⟨framed.rearrange (fun _ => rfl) (fun _ => rfl)
    (fun released => releases_of_same released rfl rfl rfl rfl) (.refl _) ?_ ?_ ?_, ?_⟩
  · intro other isThere
    refine ⟨fun aside => ?_, fun isRunning => ?_⟩
    · have different : other.task ≠ task := by
        rintro same
        exact aside given (congrArg (fun number => some (number, given)) same.symm)
      exact framed.rests other isThere (isAside_of_ne running different)
    · have same : other.task = task := eq_of_not_isAside rfl isRunning
      refine framed.idle other isThere ?_
      rw [same]
      exact not_isAside running
  · exact fun other isThere _ => ⟨other, isThere, rfl⟩
  · intro other result same
    cases same
    exact framed.running running
  · intro other result same
    cases same
    subst isTask
    have framesNow : ((loop.setFrames stance.task frames).letRun stance.task given).frames
        stance.task = frames := frames_setFrames member frames
    rw [framesNow]
    exact goesOn

/-- The running task may wait for its next turn. -/
theorem Fits.yieldTurn
    {frames : List Frame}
    (mayRest : rests ⟨task, frames, none⟩) :
    ((loop.setFrames task frames).yieldTurn task).Fits holds rests := by
  have framed := fits.setFrames running frames
  have runningNow : (loop.setFrames task frames).running = some (task, outcome) := running
  have queued : ({ loop.setFrames task frames with
      ready := loop.ready ++ [.begin task] } : Loop Frame).Fits holds rests := by
    refine framed.turns (fun timer started => started) ?_
    rintro promise (isDue | isDue)
    · exact .turn (.inl isDue)
    · rcases List.mem_append.mp isDue with old | new
      · exact .turn (.inr old)
      · cases List.mem_singleton.mp new
  refine queued.pause running fun stance member isTask => ?_
  have idle := framed.idle stance member (by
    rw [isTask]
    exact not_isAside runningNow)
  have sameFrames := mem_stances_setFrames member isTask
  obtain ⟨number, stanceFrames, waitingOn⟩ := stance
  cases isTask
  cases idle
  cases sameFrames
  exact mayRest

/-- The running task may wait for a promise. -/
theorem Fits.await
    {goes : Nat → List Frame → Outcome → Prop}
    {frames : List Frame}
    {promise : Nat}
    (mayRest : rests ⟨task, frames, some promise⟩)
    (goesOn : ∀ {given}, loop.outcome? promise = some given → goes task frames given) :
    ((loop.setFrames task frames).await task promise).Poised holds rests goes := by
  unfold Loop.await
  split
  · rename_i given settled
    exact fits.letRun running (goesOn settled)
  · rename_i unsettled
    -- The task is still the running one while it enters its wait; only `pause` sets it aside.
    have awaited : ((loop.setFrames task frames).whenSettled promise (.wake task)).Fits
        holds rests := by
      refine (fits.setFrames running frames).whenSettled fun other isRelease => ?_
      cases isRelease
    have runningNow : ((loop.setFrames task frames).whenSettled promise
        (.wake task)).running = some (task, outcome) :=
      (running_whenSettled _ _ _).trans running
    have waits : (((loop.setFrames task frames).whenSettled promise
        (.wake task)).modifyTask task (Task.waitingFor promise)).pause.Fits holds rests := by
      refine awaited.rearrange (fun _ => rfl) (fun _ => rfl)
        (fun released => releases_of_same released rfl rfl rfl rfl) ?_ ?_ ?_ ?_
      · have numbers := numbers_modifyTask ((loop.setFrames task frames).whenSettled promise
          (.wake task)) task (Task.waitingFor promise)
        exact numbers ▸ .refl _
      · intro stance isThere
        have changed : stance ∈ (((loop.setFrames task frames).whenSettled promise
          (.wake task)).modifyTask task (Task.waitingFor promise)).stances := isThere
        refine ⟨fun _ => ?_, fun goesOn => ?_⟩
        · rcases mem_stances_modifyTask changed with
            ⟨isTask, old, wasThere, sameFrames, sameWait⟩ | ⟨different, wasThere⟩
          · rw [tasks_whenSettled] at wasThere
            have member : ⟨task, old.frames, old.waitingOn⟩ ∈
                (loop.setFrames task frames).stances :=
              mem_stances.mpr ⟨old, wasThere, rfl, rfl⟩
            have framed : old.frames = frames := mem_stances_setFrames member rfl
            obtain ⟨number, stanceFrames, waitingOn⟩ := stance
            cases isTask
            cases sameWait
            cases sameFrames
            cases framed
            exact mayRest
          · exact awaited.rests stance wasThere (isAside_of_ne runningNow different)
        · exact (goesOn (isAside_of_running_eq_none rfl _)).elim
      · exact fun stance wasThere _ => exists_stance_modifyTask wasThere task _
      · intro other given same
        cases same
    split
    · split
      · refine (waits.cancel promise).poised ?_
        exact (grows_cancel _ promise).running
      · exact waits.poised rfl
    · exact waits.poised rfl

/-- The running task may end. -/
theorem Fits.finish
    (tells : ∀ topic, loop.topic? task = some topic →
      holds topic (finalOutcome (loop.task? task) outcome)) :
    (loop.finish task outcome).Fits holds rests := by
  have settled := fits.settle tells
  refine settled.rearrange (fun _ => rfl) (fun _ => rfl)
    (fun released => releases_of_same released rfl rfl rfl rfl) ?_ ?_ ?_ ?_
  · exact (List.filter_sublist.map _).map _
  · intro stance isThere
    obtain ⟨state, isTask, sameFrames, sameWait⟩ := mem_stances.mp isThere
    obtain ⟨wasThere, different⟩ := List.mem_filter.mp isTask
    have member := mem_stances.mpr ⟨state, wasThere, sameFrames, sameWait⟩
    refine ⟨fun _ => ?_, fun goesOn => ?_⟩
    · refine settled.rests stance member ?_
      refine isAside_of_ne ((running_settle _ _ _).trans running) ?_
      simpa using different
    · exact (goesOn (isAside_of_running_eq_none rfl _)).elim
  · intro stance member unsettled
    obtain ⟨state, wasThere, sameFrames, sameWait⟩ := mem_stances.mp member
    refine ⟨stance, mem_stances.mpr ⟨state, List.mem_filter.mpr ⟨wasThere, ?_⟩, sameFrames,
      sameWait⟩, rfl⟩
    simp only [bne_iff_ne, ne_eq]
    intro isTask
    rw [outcome?_settle] at unsettled
    split at unsettled
    · cases unsettled
    · rename_i isOpen
      obtain ⟨topic, told⟩ := settled.known stance member
      rw [topic?_settle, isTask] at told
      exact isOpen ⟨isTask, by rw [told]; rfl, isTask ▸ unsettled⟩
  · intro other given same
    cases same

end

end AnalyzerSessions.Loop
