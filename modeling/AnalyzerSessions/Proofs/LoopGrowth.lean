import AnalyzerSessions.Task.Loop
import AnalyzerSessions.Task.TimerHeap
import Mathlib.Data.List.Basic

namespace AnalyzerSessions

/-!
# Loops grow

While a task goes on a loop only grows: promises are added and settled, tasks are
added, and cancellations become due.  What a promise tells and the outcome that it
has stay as they are, and so does what the other tasks wait for.  A task that
drains a log and was cancelled is doomed: whatever happens, a cancellation reaches
it before anything else does.
-/

/-!
## Timers

Nothing that is done to a heap makes up a timer: what stands in a place, or is
taken because it is due, was put there.
-/

namespace TimerHeap

/-- Moving a timer up makes up no timer. -/
theorem mem_siftUp
    {fuel top : Nat}
    {places : List Timer}
    {place : Nat}
    {timer other : Timer}
    (member : other ∈ siftUp fuel top places place timer) :
    other ∈ places ∨ other = timer := by
  induction fuel generalizing places place with
  | zero =>
      exact List.mem_or_eq_of_mem_set member
  | succ fuel inductionHypothesis =>
      unfold siftUp at member
      split at member
      · exact List.mem_or_eq_of_mem_set member
      · split at member
        · exact List.mem_or_eq_of_mem_set member
        · rename_i above found
          split at member
          · rcases inductionHypothesis member with moved | isTimer
            · rcases List.mem_or_eq_of_mem_set moved with old | isAbove
              · exact .inl old
              · exact .inl (isAbove ▸ List.mem_of_getElem? found)
            · exact .inr isTimer
          · exact List.mem_or_eq_of_mem_set member

/-- Starting a timer adds no other. -/
theorem mem_insert
    {heap : TimerHeap}
    {timer other : Timer}
    (member : other ∈ (heap.insert timer).places) :
    other ∈ heap.places ∨ other = timer := by
  rcases mem_siftUp member with old | isTimer
  · simpa using old
  · exact .inr isTimer

/-- The timer that moves up stands in the heap. -/
theorem mem_of_successor?
    {places : List Timer}
    {place below : Nat}
    {timer : Timer}
    (next : successor? places place = some (below, timer)) :
    timer ∈ places := by
  unfold successor? at next
  split at next
  · cases next
  · rename_i left found _
    cases next
    exact List.mem_of_getElem? found
  · rename_i left right foundLeft foundRight
    split at next
    · cases next
      exact List.mem_of_getElem? foundLeft
    · cases next
      exact List.mem_of_getElem? foundRight

/-- Moving timers up into a free place makes up no timer. -/
theorem mem_sink
    {fuel : Nat}
    {places : List Timer}
    {place : Nat}
    {other : Timer}
    (member : other ∈ (sink fuel places place).1) :
    other ∈ places := by
  induction fuel generalizing places place with
  | zero =>
      exact member
  | succ fuel inductionHypothesis =>
      unfold sink at member
      split at member
      · exact member
      · rename_i below timer next
        rcases List.mem_or_eq_of_mem_set (inductionHypothesis member) with old | isMoved
        · exact old
        · exact isMoved ▸ mem_of_successor? next

/-- Finding a place for a timer makes up no timer. -/
theorem mem_place
    {places : List Timer}
    {top : Nat}
    {timer other : Timer}
    (member : other ∈ place places top timer) :
    other ∈ places ∨ other = timer :=
  (mem_siftUp member).imp_left mem_sink

/-- Arranging timers makes up no timer. -/
theorem mem_arranged
    {timers : List Timer}
    {other : Timer}
    (member : other ∈ arranged timers) :
    other ∈ timers := by
  unfold arranged at member
  generalize (List.range (timers.length / 2)).reverse = tops at member
  induction tops generalizing timers with
  | nil =>
      exact member
  | cons top rest inductionHypothesis =>
      have moved := inductionHypothesis member
      dsimp only at moved
      split at moved
      · rename_i timer isThere
        rcases mem_place moved with old | isTimer
        · exact old
        · exact isTimer ▸ List.mem_of_getElem? isThere
      · exact moved

/-- What is left behind the first timer was there. -/
theorem mem_removeFirst
    {heap : TimerHeap}
    {other : Timer}
    (member : other ∈ heap.removeFirst.places) :
    other ∈ heap.places := by
  unfold removeFirst withoutFirst at member
  dsimp only at member
  split at member
  · rename_i first rest last front isLast
    rcases mem_place member with old | isTimer
    · exact List.dropLast_subset _ (front ▸ old)
    · exact isTimer ▸ List.mem_of_getLast? isLast
  · cases member

/-- Marking a timer as cancelled adds no promise. -/
theorem mem_cancel
    {heap : TimerHeap}
    {promise : Nat}
    {other : Timer}
    (member : other ∈ (heap.cancel promise).places) :
    ∃ timer ∈ heap.places, timer.promise = other.promise := by
  obtain ⟨timer, isThere, rfl⟩ := List.mem_map.mp member
  refine ⟨timer, isThere, ?_⟩
  split <;> rfl

/-- What is left when cancelled timers in front are removed was there. -/
theorem mem_pruneWithin
    {fuel : Nat}
    {heap : TimerHeap}
    {other : Timer}
    (member : other ∈ (pruneWithin fuel heap).places) :
    other ∈ heap.places := by
  induction fuel generalizing heap with
  | zero =>
      exact member
  | succ fuel inductionHypothesis =>
      unfold pruneWithin at member
      split at member
      · exact member
      · split at member
        · have left := inductionHypothesis member
          exact mem_removeFirst left
        · exact member

/-- What is left when cancelled timers are removed was there. -/
theorem mem_tidy
    {heap : TimerHeap}
    {other : Timer}
    (member : other ∈ heap.tidy.places) :
    other ∈ heap.places := by
  unfold tidy at member
  split at member
  · exact (List.mem_filter.mp (mem_arranged member)).1
  · exact mem_pruneWithin member

/-- The timers that are taken because they are due, and those that are left, were there. -/
theorem mem_takeDueWithin
    {fuel : Nat}
    {now : Number.Binary64}
    {heap : TimerHeap}
    {other : Timer}
    (member : other ∈ (takeDueWithin fuel now heap).1 ∨
      other ∈ (takeDueWithin fuel now heap).2.places) :
    other ∈ heap.places := by
  induction fuel generalizing heap with
  | zero =>
      simpa [takeDueWithin] using member
  | succ fuel inductionHypothesis =>
      unfold takeDueWithin at member
      split at member
      · simpa using member
      · rename_i first isFirst
        split at member
        · have later := fun found : other ∈ (takeDueWithin fuel now heap.removeFirst).1 ∨
              other ∈ (takeDueWithin fuel now heap.removeFirst).2.places =>
            mem_removeFirst (inductionHypothesis found)
          rcases member with taken | left
          · rcases List.mem_cons.mp taken with isTaken | taken
            · exact isTaken ▸ List.mem_of_head? isFirst
            · exact later (.inl taken)
          · exact later (.inr left)
        · simpa using member

/-- The timers that are taken because they are due, and those that are left, were there. -/
theorem mem_takeDue
    {now : Number.Binary64}
    {heap : TimerHeap}
    {other : Timer}
    (member : other ∈ (takeDue now heap).1 ∨ other ∈ (takeDue now heap).2.places) :
    other ∈ heap.places :=
  mem_takeDueWithin member

end TimerHeap

/-! ## What a loop holds -/


/-- Something ended quietly: with a value or with a cancellation. -/
def Outcome.IsQuiet (outcome : Outcome) : Prop :=
  ∀ failure, outcome = .error failure → failure = .cancelled

/-- A task as it waits: its frames and what it waits for. -/
structure Stance (Frame : Type) where
  task : Nat
  frames : List Frame
  waitingOn : Option Nat

namespace Loop

variable {Frame : Type}

/-- What the outcome of a promise tells. -/
def topic? (loop : Loop Frame) (promise : Nat) : Option Topic :=
  loop.promises[promise]?.map Promise.topic

/-- The unfinished tasks as they wait; which cancellations are due is left out. -/
def stances (loop : Loop Frame) : List (Stance Frame) :=
  loop.tasks.map fun entry => ⟨entry.1, entry.2.frames, entry.2.waitingOn⟩

/-- A task is not the one that is going on. -/
def IsAside (loop : Loop Frame) (task : Nat) : Prop :=
  ∀ outcome, loop.running ≠ some (task, outcome)

/-- A cancellation is what a task gets next. -/
def IsCancelled (loop : Loop Frame) (state : Task Frame) : Prop :=
  state.cancelDue = true ∨
    ∃ promise, state.waitingOn = some promise ∧ loop.outcome? promise = some .cancelled

/-- A cancellation reaches a task before anything else does. -/
inductive IsEnding (loop : Loop Frame) (task : Nat) : Prop where
  | going
      (running : loop.running = some (task, .cancelled))
  | waiting
      (aside : loop.IsAside task)
      (cancelled : ∀ state, (task, state) ∈ loop.tasks → loop.IsCancelled state)

/-- A task that drains a log has ended quietly, or is about to. -/
structure Doomed (loop : Loop Frame) (task : Nat) : Prop where
  draining : loop.topic? task = some .draining
  quiet : ∀ {outcome}, loop.outcome? task = some outcome → outcome.IsQuiet
  ending : loop.outcome? task = none → loop.IsEnding task

/-- A promise is settled by a timer or together with another promise. -/
inductive Releases (loop : Loop Frame) : Nat → Prop where
  | timer {timer : Timer}
      (started : timer ∈ loop.timers.places) :
      Releases loop timer.promise
  | turn {promise : Nat}
      (due : Turn.release promise ∈ loop.current ∨ Turn.release promise ∈ loop.ready) :
      Releases loop promise
  | waiter {promise other : Nat} {known : Promise}
      (found : loop.promises[other]? = some known)
      (waits : Waiter.release promise ∈ known.waiters) :
      Releases loop promise

/-- What is settled by a timer or together with another promise tells only that something has
happened. -/
def Ticking (loop : Loop Frame) : Prop :=
  ∀ promise, loop.Releases promise → loop.topic? promise = some .tick

/-- What stays as it is in a loop. -/
structure Lasts (before after : Loop Frame) : Prop where
  topics : ∀ {promise topic}, before.topic? promise = some topic →
    after.topic? promise = some topic
  outcomes : ∀ {promise outcome}, before.outcome? promise = some outcome →
    after.outcome? promise = some outcome
  doomed : ∀ {task}, before.Doomed task → after.Doomed task

/-- A loop grows while a task goes on. -/
structure Grows (before after : Loop Frame) : Prop extends before.Lasts after where
  stances : before.stances <+: after.stances
  running : after.running = before.running

theorem Lasts.refl (loop : Loop Frame) : loop.Lasts loop :=
  ⟨fun found => found, fun found => found, fun doomed => doomed⟩

theorem Lasts.trans
    {first second third : Loop Frame}
    (early : first.Lasts second)
    (late : second.Lasts third) :
    first.Lasts third :=
  ⟨fun found => late.topics (early.topics found),
    fun found => late.outcomes (early.outcomes found),
    fun doomed => late.doomed (early.doomed doomed)⟩

theorem Grows.refl (loop : Loop Frame) : loop.Grows loop :=
  ⟨.refl loop, List.prefix_rfl, rfl⟩

theorem Grows.trans
    {first second third : Loop Frame}
    (early : first.Grows second)
    (late : second.Grows third) :
    first.Grows third :=
  ⟨early.toLasts.trans late.toLasts, early.stances.trans late.stances,
    late.running.trans early.running⟩

/-! ## Promises and tasks -/

theorem topic?_eq_some
    {loop : Loop Frame}
    {promise : Nat}
    {topic : Topic} :
    loop.topic? promise = some topic ↔
      ∃ known, loop.promises[promise]? = some known ∧ known.topic = topic :=
  Option.map_eq_some_iff

/-- A promise that has a topic is one of those that there are. -/
theorem lt_of_topic?
    {loop : Loop Frame}
    {promise : Nat}
    {topic : Topic}
    (told : loop.topic? promise = some topic) :
    promise < loop.promises.length := by
  obtain ⟨known, found, _⟩ := topic?_eq_some.mp told
  exact (List.getElem?_eq_some_iff.mp found).1

theorem topic?_of_outcome?
    {loop : Loop Frame}
    {promise : Nat}
    {outcome : Outcome}
    (settled : loop.outcome? promise = some outcome) :
    ∃ topic, loop.topic? promise = some topic := by
  obtain ⟨known, found, _⟩ := Option.bind_eq_some_iff.mp settled
  exact ⟨known.topic, topic?_eq_some.mpr ⟨known, found, rfl⟩⟩

/-- A task that is found is one of the unfinished ones. -/
theorem mem_of_task?
    {loop : Loop Frame}
    {task : Nat}
    {state : Task Frame}
    (found : loop.task? task = some state) :
    (task, state) ∈ loop.tasks := by
  obtain ⟨⟨number, known⟩, isThere, rfl⟩ := Option.map_eq_some_iff.mp found
  have same : number = task := by
    simpa using List.find?_some isThere
  exact same ▸ List.mem_of_find?_eq_some isThere

/-- A task that is not found is none of the unfinished ones. -/
theorem not_mem_of_task?
    {loop : Loop Frame}
    {task : Nat}
    (missing : loop.task? task = none)
    (state : Task Frame) :
    (task, state) ∉ loop.tasks := by
  intro member
  have absent := List.find?_eq_none.mp (Option.map_eq_none_iff.mp missing) _ member
  simp at absent

/-- A task waits in some way if it is unfinished. -/
theorem mem_stances
    {loop : Loop Frame}
    {stance : Stance Frame} :
    stance ∈ loop.stances ↔
      ∃ state, (stance.task, state) ∈ loop.tasks ∧
        state.frames = stance.frames ∧ state.waitingOn = stance.waitingOn := by
  constructor
  · intro member
    obtain ⟨⟨task, state⟩, isThere, rfl⟩ := List.mem_map.mp member
    exact ⟨state, isThere, rfl, rfl⟩
  · rintro ⟨state, isThere, sameFrames, samePromise⟩
    refine List.mem_map.mpr ⟨(stance.task, state), isThere, ?_⟩
    cases stance
    simp only at sameFrames samePromise
    simp [sameFrames, samePromise]

/-! ## New promises and tasks -/

theorem topic?_newPromise
    (loop : Loop Frame)
    (topic : Topic)
    (promise : Nat) :
    (loop.newPromise topic).2.topic? promise =
      if promise = loop.promises.length then some topic else loop.topic? promise := by
  unfold topic? newPromise
  dsimp only
  split
  · rename_i isNew
    rw [isNew, List.getElem?_concat_length]
    rfl
  · rename_i isOld
    rcases Nat.lt_or_ge promise loop.promises.length with below | above
    · rw [List.getElem?_append_left below]
    · rw [List.getElem?_eq_none (by simp; omega), List.getElem?_eq_none above]

theorem outcome?_newPromise
    (loop : Loop Frame)
    (topic : Topic)
    (promise : Nat) :
    (loop.newPromise topic).2.outcome? promise = loop.outcome? promise := by
  unfold outcome? newPromise
  dsimp only
  rcases Nat.lt_trichotomy promise loop.promises.length with below | isNew | above
  · rw [List.getElem?_append_left below]
  · rw [isNew, List.getElem?_concat_length, List.getElem?_eq_none (Nat.le_refl _)]
    rfl
  · rw [List.getElem?_eq_none (by simp; omega), List.getElem?_eq_none (Nat.le_of_lt above)]

/-- A cancellation still reaches a task where outcomes stay and the task goes on as it did. -/
theorem IsEnding.congr
    {before after : Loop Frame}
    {task : Nat}
    (ending : before.IsEnding task)
    (outcomes : ∀ {promise outcome}, before.outcome? promise = some outcome →
      after.outcome? promise = some outcome)
    (sameRunning : after.running = before.running)
    (sameTask : ∀ state, (task, state) ∈ after.tasks → (task, state) ∈ before.tasks) :
    after.IsEnding task := by
  cases ending with
  | going running =>
      exact .going (sameRunning.trans running)
  | waiting aside cancelled =>
      refine .waiting (fun outcome running => ?_) fun state member => ?_
      · exact aside outcome (sameRunning.symm.trans running)
      · refine (cancelled state (sameTask state member)).imp_right ?_
        rintro ⟨promise, waits, settled⟩
        exact ⟨promise, waits, outcomes settled⟩

/-- Doom is a matter of the topics, the outcomes, the running task, and the task itself. -/
theorem Doomed.congr
    {before after : Loop Frame}
    {task : Nat}
    (doomed : before.Doomed task)
    (topics : ∀ {topic}, before.topic? task = some topic → after.topic? task = some topic)
    (outcomes : ∀ promise, after.outcome? promise = before.outcome? promise)
    (running : after.running = before.running)
    (tasks : ∀ state, (task, state) ∈ after.tasks → (task, state) ∈ before.tasks) :
    after.Doomed task where
  draining := topics doomed.draining
  quiet settled := doomed.quiet ((outcomes task).symm.trans settled)
  ending unsettled :=
    (doomed.ending ((outcomes task).symm.trans unsettled)).congr
      (fun settled => (outcomes _).trans settled) running tasks

theorem grows_newPromise
    (loop : Loop Frame)
    (topic : Topic) :
    loop.Grows (loop.newPromise topic).2 := by
  have topics : ∀ {promise told}, loop.topic? promise = some told →
      (loop.newPromise topic).2.topic? promise = some told := by
    intro promise told found
    have below := lt_of_topic? found
    rw [topic?_newPromise, if_neg (by omega), found]
  refine ⟨⟨topics, ?_, ?_⟩, List.prefix_rfl, rfl⟩
  · intro promise outcome settled
    rw [outcome?_newPromise, settled]
  · intro task doomed
    exact doomed.congr topics (outcome?_newPromise loop topic) rfl fun state member => member

theorem grows_spawn
    (loop : Loop Frame)
    (topic : Topic)
    (frames : List Frame) :
    loop.Grows (loop.spawn topic frames).2 := by
  have added := grows_newPromise loop topic
  refine ⟨⟨added.topics, added.outcomes, ?_⟩, ?_, rfl⟩
  · intro task doomed
    have below := lt_of_topic? doomed.draining
    refine doomed.congr added.topics (outcome?_newPromise loop topic) rfl fun state member => ?_
    rcases List.mem_append.mp member with old | new
    · exact old
    · cases List.mem_singleton.mp new
      exact absurd below (Nat.lt_irrefl _)
  · refine ⟨[⟨loop.promises.length, frames, none⟩], ?_⟩
    simp [stances, spawn, newPromise]

/-! ## Settling promises -/

theorem topic?_settle
    (loop : Loop Frame)
    (promise : Nat)
    (outcome : Outcome)
    (other : Nat) :
    (loop.settle promise outcome).topic? other = loop.topic? other := by
  unfold settle
  split
  · rename_i topic waiters found
    unfold topic?
    dsimp only
    by_cases same : promise = other
    · subst same
      obtain ⟨below, isThere⟩ := List.getElem?_eq_some_iff.mp found
      rw [List.getElem?_set_self below, found]
      rfl
    · rw [List.getElem?_set_ne same]
  · rfl

theorem outcome?_settle
    (loop : Loop Frame)
    (promise : Nat)
    (outcome : Outcome)
    (other : Nat) :
    (loop.settle promise outcome).outcome? other =
      if other = promise ∧ (loop.topic? promise).isSome ∧ loop.outcome? promise = none
      then some outcome else loop.outcome? other := by
  unfold settle
  split
  · rename_i topic waiters found
    obtain ⟨below, isThere⟩ := List.getElem?_eq_some_iff.mp found
    by_cases same : other = promise
    · subst same
      simp [outcome?, topic?, found, List.getElem?_set_self below]
    · simp [outcome?, same, List.getElem?_set_ne (Ne.symm same)]
  · rename_i settledOrMissing
    split
    · rename_i isOpen
      obtain ⟨rfl, isKnown, unsettled⟩ := isOpen
      obtain ⟨topic, told⟩ := Option.isSome_iff_exists.mp isKnown
      obtain ⟨⟨topic, outcome, waiters⟩, found, _⟩ := topic?_eq_some.mp told
      simp only [outcome?, found, Option.bind_some] at unsettled
      subst unsettled
      exact (settledOrMissing topic waiters found).elim
    · rfl

theorem outcome?_settle_of_outcome?
    {loop : Loop Frame}
    {promise other : Nat}
    {outcome given : Outcome}
    (settled : loop.outcome? other = some given) :
    (loop.settle promise outcome).outcome? other = some given := by
  rw [outcome?_settle, if_neg ?_, settled]
  rintro ⟨rfl, _, unsettled⟩
  rw [settled] at unsettled
  cases unsettled

/-- A promise that is there is settled when it was settled. -/
theorem isSettled_settle
    {loop : Loop Frame}
    {promise : Nat}
    {topic : Topic}
    (told : loop.topic? promise = some topic)
    (outcome : Outcome) :
    (loop.settle promise outcome).isSettled promise = true := by
  unfold isSettled
  rw [outcome?_settle]
  cases was : loop.outcome? promise with
  | none =>
      simp [told]
  | some given =>
      simp

theorem outcome?_settleAll
    {loop : Loop Frame}
    {promise : Nat}
    {topic : Topic}
    (told : loop.topic? promise = some topic)
    (promises : List Nat)
    (outcome : Outcome) :
    (loop.settleAll promises outcome).outcome? promise =
      if promise ∈ promises ∧ loop.outcome? promise = none then some outcome
      else loop.outcome? promise := by
  induction promises generalizing loop with
  | nil =>
      simp [settleAll]
  | cons other rest inductionHypothesis =>
      show ((loop.settle other outcome).settleAll rest outcome).outcome? promise = _
      rw [inductionHypothesis ((topic?_settle loop other outcome promise).trans told),
        outcome?_settle]
      by_cases isThis : promise = other
      · subst isThis
        cases was : loop.outcome? promise with
        | none =>
            simp [told]
        | some given =>
            simp
      · simp [isThis]

/-- A promise that is there is settled when it was settled among others. -/
theorem isSettled_settleAll
    {loop : Loop Frame}
    {promise : Nat}
    {topic : Topic}
    {promises : List Nat}
    (told : loop.topic? promise = some topic)
    (member : promise ∈ promises)
    (outcome : Outcome) :
    (loop.settleAll promises outcome).isSettled promise = true := by
  unfold isSettled
  rw [outcome?_settleAll told]
  cases was : loop.outcome? promise with
  | none =>
      simp [member]
  | some given =>
      simp

/-- Settling a promise leaves the tasks as they are. -/
theorem tasks_settle
    (loop : Loop Frame)
    (promise : Nat)
    (outcome : Outcome) :
    (loop.settle promise outcome).tasks = loop.tasks := by
  unfold settle
  split <;> rfl

/-- Settling a promise leaves the running task as it is. -/
theorem running_settle
    (loop : Loop Frame)
    (promise : Nat)
    (outcome : Outcome) :
    (loop.settle promise outcome).running = loop.running := by
  unfold settle
  split <;> rfl

theorem grows_settle
    {loop : Loop Frame}
    {promise : Nat}
    {outcome : Outcome}
    (loyal : loop.topic? promise = some .draining → outcome.IsQuiet) :
    loop.Grows (loop.settle promise outcome) := by
  refine ⟨⟨?_, outcome?_settle_of_outcome?, ?_⟩, ?_, running_settle _ _ _⟩
  · intro other topic told
    rw [topic?_settle, told]
  · intro task doomed
    refine ⟨(topic?_settle _ _ _ _).trans doomed.draining, ?_, ?_⟩
    · intro given settled
      rw [outcome?_settle] at settled
      split at settled
      · rename_i isOpen
        cases settled
        exact loyal (isOpen.1 ▸ doomed.draining)
      · exact doomed.quiet settled
    · intro unsettled
      rw [outcome?_settle] at unsettled
      split at unsettled
      · cases unsettled
      · refine (doomed.ending unsettled).congr outcome?_settle_of_outcome?
          (running_settle _ _ _) fun state member => ?_
        rwa [tasks_settle] at member
  · simp only [stances, tasks_settle, List.prefix_rfl]

/-! ## Waiting and cancelling -/

theorem topic?_whenSettled
    (loop : Loop Frame)
    (promise : Nat)
    (waiter : Waiter)
    (other : Nat) :
    (loop.whenSettled promise waiter).topic? other = loop.topic? other := by
  unfold whenSettled
  split
  · rename_i topic waiters found
    unfold topic?
    dsimp only
    by_cases same : promise = other
    · subst same
      obtain ⟨below, isThere⟩ := List.getElem?_eq_some_iff.mp found
      rw [List.getElem?_set_self below, found]
      rfl
    · rw [List.getElem?_set_ne same]
  · rfl

theorem outcome?_whenSettled
    (loop : Loop Frame)
    (promise : Nat)
    (waiter : Waiter)
    (other : Nat) :
    (loop.whenSettled promise waiter).outcome? other = loop.outcome? other := by
  unfold whenSettled
  split
  · rename_i topic waiters found
    unfold outcome?
    dsimp only
    by_cases same : promise = other
    · subst same
      obtain ⟨below, isThere⟩ := List.getElem?_eq_some_iff.mp found
      rw [List.getElem?_set_self below, found]
      rfl
    · rw [List.getElem?_set_ne same]
  · rfl

/-- Letting someone wait for a promise leaves the tasks as they are. -/
theorem tasks_whenSettled
    (loop : Loop Frame)
    (promise : Nat)
    (waiter : Waiter) :
    (loop.whenSettled promise waiter).tasks = loop.tasks := by
  unfold whenSettled
  split <;> rfl

/-- Letting someone wait for a promise leaves the running task as it is. -/
theorem running_whenSettled
    (loop : Loop Frame)
    (promise : Nat)
    (waiter : Waiter) :
    (loop.whenSettled promise waiter).running = loop.running := by
  unfold whenSettled
  split <;> rfl

theorem grows_of_same
    {before after : Loop Frame}
    (topics : ∀ promise, after.topic? promise = before.topic? promise)
    (outcomes : ∀ promise, after.outcome? promise = before.outcome? promise)
    (tasks : after.tasks = before.tasks)
    (running : after.running = before.running) :
    before.Grows after := by
  refine ⟨⟨?_, ?_, ?_⟩, ?_, running⟩
  · intro promise topic told
    rw [topics, told]
  · intro promise outcome settled
    rw [outcomes, settled]
  · intro task doomed
    exact doomed.congr (fun told => (topics task).trans told) outcomes running
      fun state member => tasks ▸ member
  · simp only [stances, tasks, List.prefix_rfl]

theorem grows_whenSettled
    (loop : Loop Frame)
    (promise : Nat)
    (waiter : Waiter) :
    loop.Grows (loop.whenSettled promise waiter) :=
  grows_of_same (topic?_whenSettled loop promise waiter) (outcome?_whenSettled loop promise waiter)
    (tasks_whenSettled loop promise waiter) (running_whenSettled loop promise waiter)

theorem grows_timers
    (loop : Loop Frame)
    (timers : TimerHeap) :
    loop.Grows { loop with timers } :=
  grows_of_same (fun _ => rfl) (fun _ => rfl) rfl rfl

/-- The tasks when a cancellation becomes due for one of them. -/
theorem mem_tasks_cancelDue
    {loop : Loop Frame}
    {task number : Nat}
    {state : Task Frame}
    (member : (number, state) ∈
      (loop.modifyTask task Task.doomed).tasks) :
    ∃ old, (number, old) ∈ loop.tasks ∧ old.frames = state.frames ∧
      old.waitingOn = state.waitingOn ∧ (number = task → state.cancelDue = true) ∧
      (old.cancelDue = true → state.cancelDue = true) := by
  obtain ⟨⟨known, old⟩, isThere, same⟩ := List.mem_map.mp member
  dsimp only at same
  split at same
  · cases same
    exact ⟨old, isThere, rfl, rfl, fun _ => rfl, fun _ => rfl⟩
  · rename_i different
    cases same
    exact ⟨state, isThere, rfl, rfl, fun isTask => (different isTask).elim, fun due => due⟩

/-- How tasks wait stays as it is when a cancellation becomes due for one of them. -/
theorem stances_cancelDue
    (loop : Loop Frame)
    (task : Nat) :
    (loop.modifyTask task Task.doomed).stances = loop.stances := by
  simp only [stances, modifyTask, List.map_map]
  refine List.map_congr_left fun entry _ => ?_
  simp only [Function.comp]
  split <;> rfl

theorem grows_cancelDue
    (loop : Loop Frame)
    (task : Nat) :
    loop.Grows (loop.modifyTask task Task.doomed) := by
  refine ⟨⟨fun told => told, fun settled => settled, ?_⟩, ?_, rfl⟩
  · intro other doomed
    refine ⟨doomed.draining, doomed.quiet, fun unsettled => ?_⟩
    cases doomed.ending unsettled with
    | going running =>
        exact .going running
    | waiting aside cancelled =>
        refine .waiting aside fun state member => ?_
        obtain ⟨old, isThere, _, sameWait, _, stillDue⟩ := mem_tasks_cancelDue member
        rcases cancelled old isThere with due | ⟨promise, waits, settled⟩
        · exact .inl (stillDue due)
        · exact .inr ⟨promise, sameWait ▸ waits, settled⟩
  · simp only [stances_cancelDue, List.prefix_rfl]

/-- How tasks wait, and what promises tell, stays as it is when something is cancelled. -/
theorem stances_topic?_cancelWithin
    (depth : Nat)
    (loop : Loop Frame)
    (promise : Nat) :
    (cancelWithin depth loop promise).stances = loop.stances ∧
      ∀ other, (cancelWithin depth loop promise).topic? other = loop.topic? other := by
  induction depth generalizing loop promise with
  | zero =>
      exact ⟨rfl, fun _ => rfl⟩
  | succ depth inductionHypothesis =>
      unfold cancelWithin
      split
      · exact ⟨rfl, fun _ => rfl⟩
      · split
        · exact ⟨by simp only [stances, tasks_settle], topic?_settle _ _ _⟩
        · split
          · split
            · exact ⟨stances_cancelDue loop promise, fun _ => rfl⟩
            · exact inductionHypothesis loop _
          · exact ⟨stances_cancelDue loop promise, fun _ => rfl⟩

theorem grows_cancelWithin
    (depth : Nat)
    (loop : Loop Frame)
    (promise : Nat) :
    loop.Grows (cancelWithin depth loop promise) := by
  have quiet : Outcome.IsQuiet .cancelled := by
    intro failure same
    cases same
    rfl
  induction depth generalizing loop promise with
  | zero =>
      exact .refl loop
  | succ depth inductionHypothesis =>
      unfold cancelWithin
      split
      · exact .refl loop
      · split
        · exact grows_settle fun _ => quiet
        · split
          · split
            · exact grows_cancelDue loop promise
            · exact inductionHypothesis loop _
          · exact grows_cancelDue loop promise

theorem grows_cancel
    (loop : Loop Frame)
    (promise : Nat) :
    loop.Grows (loop.cancel promise) :=
  grows_cancelWithin _ loop promise

end Loop

end AnalyzerSessions
