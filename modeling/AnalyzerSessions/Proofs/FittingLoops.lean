import AnalyzerSessions.Proofs.LoopGrowth
import Mathlib.Data.List.Nodup

namespace AnalyzerSessions.Loop

/-!
# Loops that fit

What outcomes have to tell and how tasks may wait is left open here.  A loop fits
when every outcome tells what its promise is about, every task that is aside waits
as it may, and what timers and other promises settle tells only that something has
happened.  Everything that a task does to a loop while it goes on keeps it fitting.
-/

variable {Frame : Type} {holds : Topic → Outcome → Prop} {rests : Stance Frame → Prop}

/-- A loop fits what outcomes have to tell and how tasks may wait. -/
structure Fits
    (holds : Topic → Outcome → Prop)
    (rests : Stance Frame → Prop)
    (loop : Loop Frame) : Prop where
  outcomes : ∀ {promise topic outcome}, loop.topic? promise = some topic →
    loop.outcome? promise = some outcome → holds topic outcome
  rests : ∀ stance ∈ loop.stances, loop.IsAside stance.task → rests stance
  distinct : (loop.stances.map Stance.task).Nodup
  /-- The running task does not wait. -/
  idle : ∀ stance ∈ loop.stances, ¬loop.IsAside stance.task → stance.waitingOn = none
  known : ∀ stance ∈ loop.stances, ∃ topic, loop.topic? stance.task = some topic
  running : ∀ {task outcome}, loop.running = some (task, outcome) →
    ∃ stance ∈ loop.stances, stance.task = task
  ticking : loop.Ticking
  /-- What is not a task may be cancelled. -/
  cancellable : ∀ {promise topic}, loop.topic? promise = some topic →
    loop.outcome? promise = none →
    holds topic .cancelled ∨ ∃ stance ∈ loop.stances, stance.task = promise

theorem Fits.mono
    {loop : Loop Frame}
    {holdsNow : Topic → Outcome → Prop}
    {restsNow : Stance Frame → Prop}
    (fits : loop.Fits holds rests)
    (still : ∀ topic outcome, holds topic outcome → holdsNow topic outcome)
    (stays : ∀ stance, rests stance → restsNow stance) :
    loop.Fits holdsNow restsNow where
  outcomes told settled := still _ _ (fits.outcomes told settled)
  rests stance member aside := stays stance (fits.rests stance member aside)
  distinct := fits.distinct
  idle := fits.idle
  known := fits.known
  running := fits.running
  ticking := fits.ticking
  cancellable told unsettled := (fits.cancellable told unsettled).imp_left (still _ _)

/-- A loop fits when it differs from one that fits only in what timers and turns there are. -/
theorem Fits.of_same
    {before after : Loop Frame}
    (fits : before.Fits holds rests)
    (topics : ∀ promise, after.topic? promise = before.topic? promise)
    (outcomes : ∀ promise, after.outcome? promise = before.outcome? promise)
    (stances : after.stances = before.stances)
    (running : after.running = before.running)
    (ticking : after.Ticking) :
    after.Fits holds rests where
  outcomes told settled :=
    fits.outcomes ((topics _).symm.trans told) ((outcomes _).symm.trans settled)
  rests stance member aside := by
    refine fits.rests stance (stances ▸ member) ?_
    unfold IsAside at aside ⊢
    rwa [running] at aside
  distinct := by
    rw [stances]
    exact fits.distinct
  idle stance member isRunning := by
    refine fits.idle stance (stances ▸ member) ?_
    unfold IsAside at isRunning ⊢
    rwa [running] at isRunning
  known stance member := by
    rw [topics]
    exact fits.known stance (stances ▸ member)
  running goesOn := by
    rw [stances]
    exact fits.running (running.symm.trans goesOn)
  ticking := ticking
  cancellable told unsettled := by
    rw [stances]
    exact fits.cancellable ((topics _).symm.trans told) ((outcomes _).symm.trans unsettled)

/-! ## Timers and turns -/

/-- Ticking is kept where topics last and nothing new is settled by timers or promises. -/
theorem Ticking.of_releases
    {before after : Loop Frame}
    (ticking : before.Ticking)
    (topics : ∀ {promise topic}, before.topic? promise = some topic →
      after.topic? promise = some topic)
    (releases : ∀ {promise}, after.Releases promise →
      before.Releases promise ∨ after.topic? promise = some .tick) :
    after.Ticking := by
  intro promise released
  rcases releases released with old | isTick
  · exact topics (ticking promise old)
  · exact isTick

theorem releases_newPromise
    {loop : Loop Frame}
    {topic : Topic}
    {promise : Nat}
    (released : (loop.newPromise topic).2.Releases promise) :
    loop.Releases promise := by
  cases released with
  | timer started =>
      exact .timer started
  | turn due =>
      exact .turn due
  | @waiter _ other known found waits =>
      rcases Nat.lt_or_ge other loop.promises.length with below | above
      · have isThere : loop.promises[other]? = some known := by
          rwa [newPromise, List.getElem?_append_left below] at found
        exact .waiter isThere waits
      · rw [newPromise, List.getElem?_append_right above] at found
        cases List.mem_singleton.mp (List.mem_of_getElem? found)
        cases waits

theorem releases_spawn
    {loop : Loop Frame}
    {topic : Topic}
    {frames : List Frame}
    {promise : Nat}
    (released : (loop.spawn topic frames).2.Releases promise) :
    loop.Releases promise := by
  suffices before : (loop.newPromise topic).2.Releases promise from releases_newPromise before
  cases released with
  | timer started =>
      exact .timer started
  | turn due =>
      refine .turn (due.imp_right fun member => ?_)
      rcases List.mem_append.mp member with old | new
      · exact old
      · cases List.mem_singleton.mp new
  | waiter found waits =>
      exact .waiter found waits

theorem releases_settle
    {loop : Loop Frame}
    {promise other : Nat}
    {outcome : Outcome}
    (released : (loop.settle promise outcome).Releases other) :
    loop.Releases other := by
  unfold settle at released
  split at released
  · rename_i topic waiters found
    cases released with
    | timer started =>
        exact .timer started
    | turn due =>
        rcases due with current | ready
        · exact .turn (.inl current)
        · rcases List.mem_append.mp ready with old | new
          · exact .turn (.inr old)
          · obtain ⟨waiter, waits, same⟩ := List.mem_map.mp new
            cases waiter with
            | wake task =>
                cases same
            | release promise =>
                cases same
                exact .waiter found waits
    | @waiter _ place known isThere waits =>
        dsimp only at isThere
        by_cases same : promise = place
        · subst same
          rw [List.getElem?_set_self (List.getElem?_eq_some_iff.mp found).1] at isThere
          cases isThere
          cases waits
        · rw [List.getElem?_set_ne same] at isThere
          exact .waiter isThere waits
  · exact released

/-- What is settled by timers or promises after someone waits for a promise was so before, or is
what waits. -/
theorem releases_whenSettled
    {loop : Loop Frame}
    {promise other : Nat}
    {waiter : Waiter}
    (released : (loop.whenSettled promise waiter).Releases other) :
    loop.Releases other ∨ waiter = .release other := by
  unfold whenSettled at released
  split at released
  · rename_i topic waiters found
    cases released with
    | timer started =>
        exact .inl (.timer started)
    | turn due =>
        exact .inl (.turn due)
    | @waiter _ place known isThere waits =>
        dsimp only at isThere
        by_cases same : promise = place
        · subst same
          rw [List.getElem?_set_self (List.getElem?_eq_some_iff.mp found).1] at isThere
          cases isThere
          rcases List.mem_append.mp waits with old | new
          · exact .inl (.waiter found old)
          · exact .inr (List.mem_singleton.mp new).symm
        · rw [List.getElem?_set_ne same] at isThere
          exact .inl (.waiter isThere waits)
  · cases released with
    | timer started =>
        exact .inl (.timer started)
    | turn due =>
        rcases due with current | ready
        · exact .inl (.turn (.inl current))
        · rcases List.mem_append.mp ready with old | new
          · exact .inl (.turn (.inr old))
          · refine .inr ?_
            cases waiter with
            | wake task =>
                cases List.mem_singleton.mp new
            | release promise =>
                cases List.mem_singleton.mp new
                rfl
    | waiter found waits =>
        exact .inl (.waiter found waits)

/-! ## What a task does to a loop -/

section

variable {loop : Loop Frame} (fits : loop.Fits holds rests)

include fits

/-- A promise that may be cancelled may be added. -/
theorem Fits.newPromise
    {topic : Topic}
    (free : holds topic .cancelled) :
    (loop.newPromise topic).2.Fits holds rests where
  outcomes told settled := by
    rw [outcome?_newPromise] at settled
    obtain ⟨known, isKnown⟩ := topic?_of_outcome? settled
    rw [(grows_newPromise loop topic).topics isKnown] at told
    cases told
    exact fits.outcomes isKnown settled
  rests := fits.rests
  distinct := fits.distinct
  idle := fits.idle
  known stance member := (fits.known stance member).imp fun _ => (grows_newPromise loop topic).topics
  running := fits.running
  ticking := fits.ticking.of_releases (grows_newPromise loop topic).topics
    fun released => .inl (releases_newPromise released)
  cancellable told unsettled := by
    rw [topic?_newPromise] at told
    rw [outcome?_newPromise] at unsettled
    split at told
    · cases told
      exact .inl free
    · exact fits.cancellable told unsettled

/-- A task may be added that may wait for its turn. -/
theorem Fits.spawn
    {topic : Topic}
    {frames : List Frame}
    (mayRest : rests ⟨loop.promises.length, frames, none⟩) :
    (loop.spawn topic frames).2.Fits holds rests := by
  -- The new task is the last stance, and its number is the one that no promise had yet.
  have stancesAfter : (loop.spawn topic frames).2.stances =
      loop.stances ++ [⟨loop.promises.length, frames, none⟩] := by
    simp [Loop.stances, Loop.spawn, Loop.newPromise]
  have topics : ∀ {promise told}, loop.topic? promise = some told →
      (loop.spawn topic frames).2.topic? promise = some told :=
    (grows_spawn loop topic frames).topics
  have newTopic : (loop.spawn topic frames).2.topic? loop.promises.length = some topic := by
    show (loop.newPromise topic).2.topic? loop.promises.length = some topic
    rw [topic?_newPromise, if_pos rfl]
  refine ⟨?_, ?_, ?_, ?_, ?_, ?_, ?_, ?_⟩
  · intro promise told outcome isTold settled
    have settledBefore : loop.outcome? promise = some outcome :=
      (outcome?_newPromise loop topic promise).symm.trans settled
    obtain ⟨known, isKnown⟩ := topic?_of_outcome? settledBefore
    rw [topics isKnown] at isTold
    cases isTold
    exact fits.outcomes isKnown settledBefore
  · intro stance member aside
    rw [stancesAfter] at member
    rcases List.mem_append.mp member with old | new
    · exact fits.rests stance old aside
    · rw [List.mem_singleton.mp new]
      exact mayRest
  · rw [stancesAfter, List.map_append]
    refine List.nodup_append.mpr ⟨fits.distinct, by simp, ?_⟩
    intro task old other new
    obtain ⟨stance, member, rfl⟩ := List.mem_map.mp old
    obtain ⟨topic, told⟩ := fits.known stance member
    rw [List.mem_singleton.mp new]
    exact Nat.ne_of_lt (lt_of_topic? told)
  · intro stance member goesOn
    rw [stancesAfter] at member
    rcases List.mem_append.mp member with old | new
    · exact fits.idle stance old goesOn
    · rw [List.mem_singleton.mp new]
  · intro stance member
    rw [stancesAfter] at member
    rcases List.mem_append.mp member with old | new
    · exact (fits.known stance old).imp fun _ => topics
    · rw [List.mem_singleton.mp new]
      exact ⟨topic, newTopic⟩
  · intro task outcome goesOn
    obtain ⟨stance, member, isTask⟩ := fits.running goesOn
    rw [stancesAfter]
    exact ⟨stance, List.mem_append_left _ member, isTask⟩
  · exact fits.ticking.of_releases topics fun released => .inl (releases_spawn released)
  · intro promise told isTold unsettled
    rw [stancesAfter]
    have toldBefore : (loop.newPromise topic).2.topic? promise = some told := isTold
    rw [topic?_newPromise] at toldBefore
    split at toldBefore
    · rename_i isNew
      exact .inr ⟨_, List.mem_append_right _ (List.mem_singleton.mpr rfl), isNew.symm⟩
    · have unsettledBefore : loop.outcome? promise = none :=
        (outcome?_newPromise loop topic promise).symm.trans unsettled
      refine (fits.cancellable toldBefore unsettledBefore).imp_right ?_
      rintro ⟨stance, member, isTask⟩
      exact ⟨stance, List.mem_append_left _ member, isTask⟩

/-- A promise may be settled with an outcome that tells what it is about. -/
theorem Fits.settle
    {promise : Nat}
    {outcome : Outcome}
    (tells : ∀ topic, loop.topic? promise = some topic → holds topic outcome) :
    (loop.settle promise outcome).Fits holds rests := by
  have stancesSame : (loop.settle promise outcome).stances = loop.stances := by
    simp only [Loop.stances, tasks_settle]
  refine ⟨?_, ?_, ?_, ?_, ?_, ?_, ?_, ?_⟩
  · intro other topic given told settled
    rw [topic?_settle] at told
    rw [outcome?_settle] at settled
    split at settled
    · rename_i isOpen
      cases settled
      exact tells topic (isOpen.1 ▸ told)
    · exact fits.outcomes told settled
  · intro stance member aside
    refine fits.rests stance (stancesSame ▸ member) ?_
    unfold IsAside at aside ⊢
    rwa [running_settle] at aside
  · rw [stancesSame]
    exact fits.distinct
  · intro stance member goesOn
    refine fits.idle stance (stancesSame ▸ member) ?_
    unfold IsAside at goesOn ⊢
    rwa [running_settle] at goesOn
  · intro stance member
    rw [topic?_settle]
    exact fits.known stance (stancesSame ▸ member)
  · intro task given goesOn
    rw [running_settle] at goesOn
    rw [stancesSame]
    exact fits.running goesOn
  · exact fits.ticking.of_releases (fun told => (topic?_settle _ _ _ _).trans told)
      fun released => .inl (releases_settle released)
  · intro other topic told unsettled
    rw [topic?_settle] at told
    rw [stancesSame]
    refine fits.cancellable told ?_
    rw [outcome?_settle] at unsettled
    split at unsettled
    · cases unsettled
    · exact unsettled

/-- Someone may wait for a promise; another promise that waits tells that something happened. -/
theorem Fits.whenSettled
    {promise : Nat}
    {waiter : Waiter}
    (isTick : ∀ other, waiter = .release other → loop.topic? other = some .tick) :
    (loop.whenSettled promise waiter).Fits holds rests := by
  refine fits.of_same (topic?_whenSettled _ _ _) (outcome?_whenSettled _ _ _) ?_
    (running_whenSettled _ _ _) ?_
  · simp only [Loop.stances, tasks_whenSettled]
  · refine fits.ticking.of_releases (fun told => (topic?_whenSettled _ _ _ _).trans told) ?_
    intro other released
    refine (releases_whenSettled released).imp_right fun same => ?_
    rw [topic?_whenSettled]
    exact isTick other same

/-- Timers may change as long as they tell that something happened. -/
theorem Fits.timers
    {timers : TimerHeap}
    (ticks : ∀ timer ∈ timers.places, loop.topic? timer.promise = some .tick) :
    ({ loop with timers } : Loop Frame).Fits holds rests := by
  refine fits.of_same (fun _ => rfl) (fun _ => rfl) rfl rfl ?_
  intro promise released
  cases released with
  | timer started =>
      exact ticks _ started
  | turn due =>
      exact fits.ticking promise (.turn due)
  | waiter found waits =>
      exact fits.ticking promise (.waiter found waits)

/-- A timer tells that something happened. -/
theorem Fits.timer_topic
    {timer : Timer}
    (started : timer ∈ loop.timers.places) :
    loop.topic? timer.promise = some .tick :=
  fits.ticking _ (.timer started)

/-- A promise that tells that something happened may be settled by a timer. -/
theorem Fits.settleAfter
    {promise : Nat}
    (seconds : Number.Binary64)
    (isTick : loop.topic? promise = some .tick) :
    (loop.settleAfter promise seconds).Fits holds rests := by
  refine fits.timers fun timer started => ?_
  rcases TimerHeap.mem_insert started with old | isNew
  · exact fits.timer_topic old
  · rw [isNew]
    exact isTick

/-- A timer may be cancelled. -/
theorem Fits.cancelTimer
    (promise : Nat) :
    (loop.cancelTimer promise).Fits holds rests := by
  refine fits.timers fun timer started => ?_
  obtain ⟨old, isThere, same⟩ := TimerHeap.mem_cancel started
  exact same ▸ fits.timer_topic isThere

/-- Cancelled timers may be removed. -/
theorem Fits.tidyTimers :
    loop.tidyTimers.Fits holds rests :=
  fits.timers fun _ started => fits.timer_topic (TimerHeap.mem_tidy started)

/-- A cancellation may become due for a task. -/
theorem Fits.cancelDue
    (task : Nat) :
    (loop.modifyTask task Task.doomed).Fits holds rests := by
  refine fits.of_same (fun _ => rfl) (fun _ => rfl) (stances_cancelDue loop task) rfl ?_
  intro promise released
  refine fits.ticking promise ?_
  cases released with
  | timer started =>
      exact .timer started
  | turn due =>
      exact .turn due
  | waiter found waits =>
      exact .waiter found waits

/-- Something may be cancelled. -/
theorem Fits.cancelWithin
    (depth promise : Nat) :
    (Loop.cancelWithin depth loop promise).Fits holds rests := by
  induction depth generalizing promise with
  | zero =>
      exact fits
  | succ depth inductionHypothesis =>
      unfold Loop.cancelWithin
      split
      · exact fits
      · rename_i unsettled
        split
        · rename_i missing
          refine fits.settle fun topic told => ?_
          have isOpen : loop.outcome? promise = none := by
            simpa [isSettled] using unsettled
          obtain free | ⟨stance, member, rfl⟩ := fits.cancellable told isOpen
          · exact free
          · obtain ⟨state, isThere, _⟩ := mem_stances.mp member
            exact (not_mem_of_task? missing state isThere).elim
        · split
          · split
            · exact fits.cancelDue promise
            · exact inductionHypothesis _
          · exact fits.cancelDue promise

/-- Something may be cancelled. -/
theorem Fits.cancel
    (promise : Nat) :
    (loop.cancel promise).Fits holds rests :=
  fits.cancelWithin _ promise

/-- An unfinished task has one state. -/
theorem Fits.task?_of_mem
    {task : Nat}
    {state : Task Frame}
    (member : (task, state) ∈ loop.tasks) :
    loop.task? task = some state := by
  have numbers : (loop.tasks.map Prod.fst).Nodup := by
    have distinct := fits.distinct
    simpa [stances, List.map_map, Function.comp_def] using distinct
  cases found : loop.task? task with
  | none =>
      exact (not_mem_of_task? found state member).elim
  | some known =>
      have same := List.inj_on_of_nodup_map numbers (mem_of_task? found) member rfl
      cases same
      rfl

/-- The frames of an unfinished task. -/
theorem Fits.frames_of_mem
    {stance : Stance Frame}
    (member : stance ∈ loop.stances) :
    loop.frames stance.task = stance.frames := by
  obtain ⟨state, isThere, sameFrames, _⟩ := mem_stances.mp member
  rw [frames, fits.task?_of_mem isThere]
  exact sameFrames

omit fits in
/-- A task that drains a log is doomed when a cancellation is due for it. -/
theorem doomed_cancelDue
    {task : Nat}
    (draining : loop.topic? task = some .draining)
    (unsettled : loop.outcome? task = none)
    (aside : loop.IsAside task) :
    (loop.modifyTask task Task.doomed).Doomed task := by
  refine ⟨draining, fun settled => ?_, fun _ => .waiting aside fun state member => .inl ?_⟩
  · cases unsettled.symm.trans settled
  · obtain ⟨entry, _, same⟩ := List.mem_map.mp member
    split at same
    · cases same
      rfl
    · rename_i other
      cases same
      exact (other rfl).elim

omit fits in
/-- The end of a log that is settled with a cancellation is doomed. -/
theorem doomed_settle
    {task : Nat}
    (draining : loop.topic? task = some .draining)
    (unsettled : loop.outcome? task = none) :
    (loop.settle task .cancelled).Doomed task := by
  have settledNow : (loop.settle task .cancelled).outcome? task = some .cancelled := by
    rw [outcome?_settle, if_pos ⟨rfl, by rw [draining]; rfl, unsettled⟩]
  refine ⟨(topic?_settle _ _ _ _).trans draining, fun settled => ?_, fun stillUnsettled => ?_⟩
  · cases settledNow.symm.trans settled
    intro failure same
    cases same
    rfl
  · cases settledNow.symm.trans stillUnsettled

/-- A task that drains a log is doomed when what it waits for is cancelled. -/
theorem Fits.doomed_settle_awaited
    {task promise : Nat}
    {state : Task Frame}
    (draining : loop.topic? task = some .draining)
    (unsettled : loop.outcome? task = none)
    (aside : loop.IsAside task)
    (found : loop.task? task = some state)
    (awaits : state.waitingOn = some promise)
    (known : (loop.topic? promise).isSome)
    (isOpen : loop.outcome? promise = none)
    (different : task ≠ promise) :
    (loop.settle promise .cancelled).Doomed task := by
  refine ⟨(topic?_settle _ _ _ _).trans draining, fun settled => ?_, fun _ => .waiting ?_ ?_⟩
  · rw [outcome?_settle, if_neg fun same => different same.1, unsettled] at settled
    cases settled
  · intro outcome running
    rw [running_settle] at running
    exact aside outcome running
  · intro other member
    rw [tasks_settle] at member
    cases (fits.task?_of_mem member).symm.trans found
    refine .inr ⟨promise, awaits, ?_⟩
    rw [outcome?_settle, if_pos ⟨rfl, known, isOpen⟩]

/-- A task that drains a log and waits for nothing but its turn, or for what is no task, is doomed
when it is cancelled. -/
theorem Fits.doomed_cancel
    {task : Nat}
    (draining : loop.topic? task = some .draining)
    (unsettled : loop.outcome? task = none)
    (aside : loop.IsAside task)
    (waits : ∀ stance ∈ loop.stances, stance.task = task → ∀ promise,
      stance.waitingOn = some promise →
        (loop.topic? promise).isSome ∧ loop.task? promise = none) :
    (loop.cancel task).Doomed task := by
  have stillOpen : loop.isSettled task = false := by
    rw [isSettled, unsettled]
    rfl
  unfold Loop.cancel Loop.cancelWithin
  rw [if_neg (by simp [stillOpen])]
  split
  · exact doomed_settle draining unsettled
  · rename_i state found
    split
    · rename_i promise awaits
      split
      · exact doomed_cancelDue draining unsettled aside
      · rename_i isOpen
        have isThere := mem_of_task? found
        have member : ⟨task, state.frames, some promise⟩ ∈ loop.stances :=
          mem_stances.mpr ⟨state, isThere, rfl, awaits⟩
        obtain ⟨known, isNone⟩ := waits _ member rfl promise rfl
        obtain ⟨entry, rest, cons⟩ := List.exists_cons_of_ne_nil (List.ne_nil_of_mem isThere)
        have settles : Loop.cancelWithin loop.tasks.length loop promise =
            loop.settle promise .cancelled := by
          rw [cons, List.length_cons, Loop.cancelWithin, if_neg isOpen, isNone]
        rw [settles]
        refine fits.doomed_settle_awaited draining unsettled aside found awaits known ?_ ?_
        · simpa [isSettled] using isOpen
        · rintro rfl
          cases isNone.symm.trans found
    · exact doomed_cancelDue draining unsettled aside

end

end AnalyzerSessions.Loop
