import AnalyzerSessions.Proofs.InformedStations
import AnalyzerSessions.Proofs.LoopTurns

namespace AnalyzerSessions

/-!
# Promises of a flag

Whoever waits for a quiet server does so with a promise that nothing but the flag of this
server brings to a value.  As long as that is so, the promise has a value only when the
server has said that it is quiet or its client was closed.  The same goes for a task that
does nothing but wait so, since its number is a promise too.
-/

/-!
## Spared promises

A change of a loop spares a promise when it neither fulfils it nor arranges for that: the
promise comes to a value only if it had one, and timers and other promises settle it only
if they did so before.  A promise that is spared may still be cancelled.
-/

namespace Loop

variable {Frame : Type}

/-- A promise is spared by a change of a loop. -/
structure Spares (promise : Nat) (before after : Loop Frame) : Prop where
  released : after.Releases promise → before.Releases promise
  fulfilled : ∀ value, after.outcome? promise = some (.ok value) →
    before.outcome? promise = some (.ok value)

theorem spares_refl
    (promise : Nat)
    (loop : Loop Frame) :
    Spares promise loop loop :=
  ⟨id, fun _ => id⟩

theorem Spares.trans
    {promise : Nat}
    {first second third : Loop Frame}
    (early : Spares promise first second)
    (late : Spares promise second third) :
    Spares promise first third :=
  ⟨fun released => early.released (late.released released),
    fun value fulfilled => early.fulfilled value (late.fulfilled value fulfilled)⟩

/-- Every promise is spared where promises, timers and turns stay what they are. -/
theorem spares_of_same
    {before after : Loop Frame}
    (promise : Nat)
    (promises : after.promises = before.promises)
    (timers : after.timers = before.timers)
    (current : after.current = before.current)
    (ready : after.ready = before.ready) :
    Spares promise before after where
  released released := releases_of_same released promises timers current ready
  fulfilled value fulfilled := by
    unfold outcome? at fulfilled ⊢
    rwa [promises] at fulfilled

section

variable {loop : Loop Frame} {promise : Nat}

/-! ## What a task does -/

theorem spares_newPromise (topic : Topic) : Spares promise loop (loop.newPromise topic).2 where
  released := releases_newPromise
  fulfilled _ fulfilled := (outcome?_newPromise loop topic promise).symm.trans fulfilled

theorem spares_spawn
    (topic : Topic)
    (frames : List Frame) :
    Spares promise loop (loop.spawn topic frames).2 where
  released := releases_spawn
  fulfilled _ fulfilled := (outcome?_newPromise loop topic promise).symm.trans fulfilled

/-- Settling a promise with a failure spares all promises. -/
theorem spares_settle_failure
    (other : Nat)
    (failure : Failure) :
    Spares promise loop (loop.settle other (.error failure)) where
  released := releases_settle
  fulfilled value fulfilled := by
    rw [outcome?_settle] at fulfilled
    split at fulfilled
    · cases fulfilled
    · exact fulfilled

/-- Settling another promise spares a promise. -/
theorem spares_settle
    {other : Nat}
    (apart : promise ≠ other)
    (outcome : Outcome) :
    Spares promise loop (loop.settle other outcome) where
  released := releases_settle
  fulfilled value fulfilled := by
    rwa [outcome?_settle, if_neg fun same => apart same.1] at fulfilled

theorem spares_settleAll
    {others : List Nat}
    (apart : promise ∉ others)
    (outcome : Outcome) :
    Spares promise loop (loop.settleAll others outcome) := by
  induction others generalizing loop with
  | nil =>
      exact spares_refl promise loop
  | cons other rest inductionHypothesis =>
      rw [List.mem_cons, not_or] at apart
      exact (spares_settle apart.1 outcome).trans (inductionHypothesis apart.2)

/-- Someone may wait for a promise, unless it is the promise itself that waits. -/
theorem spares_whenSettled
    {other : Nat}
    {waiter : Waiter}
    (apart : waiter ≠ .release promise) :
    Spares promise loop (loop.whenSettled other waiter) where
  released released := (releases_whenSettled released).resolve_right apart
  fulfilled _ fulfilled := (outcome?_whenSettled _ _ _ _).symm.trans fulfilled

/-- Timers may change as long as they are timers of other promises, or were there. -/
theorem spares_timers
    {timers : TimerHeap}
    (old : ∀ timer ∈ timers.places, timer.promise = promise →
      ∃ known ∈ loop.timers.places, known.promise = promise) :
    Spares promise loop { loop with timers } where
  released released := by
    cases released with
    | timer started =>
        obtain ⟨known, isThere, same⟩ := old _ started rfl
        exact same ▸ .timer isThere
    | turn due =>
        exact .turn due
    | waiter found waits =>
        exact .waiter found waits
  fulfilled _ := id

theorem spares_settleAfter
    {other : Nat}
    (apart : other ≠ promise)
    (seconds : Number.Binary64) :
    Spares promise loop (loop.settleAfter other seconds) := by
  refine spares_timers fun timer started same => ?_
  rcases TimerHeap.mem_insert started with isThere | isNew
  · exact ⟨timer, isThere, same⟩
  · rw [isNew] at same
    exact (apart same).elim

theorem spares_cancelTimer (other : Nat) : Spares promise loop (loop.cancelTimer other) := by
  refine spares_timers fun timer started same => ?_
  obtain ⟨old, isThere, isOld⟩ := TimerHeap.mem_cancel started
  exact ⟨old, isThere, isOld ▸ same⟩

theorem spares_tidyTimers : Spares promise loop loop.tidyTimers :=
  spares_timers fun timer started same => ⟨timer, TimerHeap.mem_tidy started, same⟩

/-- A cancellation spares all promises. -/
theorem spares_cancel (other : Nat) : Spares promise loop (loop.cancel other) := by
  have within : ∀ depth other, Spares promise loop (cancelWithin depth loop other) := by
    intro depth
    induction depth with
    | zero =>
        exact fun _ => spares_refl promise loop
    | succ depth inductionHypothesis =>
        intro other
        unfold cancelWithin
        split
        · exact spares_refl promise loop
        · split
          · exact spares_settle_failure other .cancelled
          · split
            · split
              · exact spares_of_same promise rfl rfl rfl rfl
              · exact inductionHypothesis _
            · exact spares_of_same promise rfl rfl rfl rfl
  exact within _ other

/-! ## Turns -/

theorem spares_beginRound : Spares promise loop loop.beginRound where
  released released := by
    cases released with
    | timer started =>
        exact .timer (TimerHeap.mem_tidy (TimerHeap.mem_takeDue (.inr started)))
    | turn due =>
        rcases due with current | ready
        · rcases List.mem_append.mp current with old | new
          · exact .turn (.inr old)
          · obtain ⟨timer, isDue, same⟩ := List.mem_map.mp new
            cases same
            have started := (List.mem_filter.mp isDue).1
            exact .timer (TimerHeap.mem_tidy (TimerHeap.mem_takeDue (.inl started)))
        · cases ready
    | waiter found waits =>
        exact .waiter found waits
  fulfilled _ := id

theorem spares_proceed
    (task : Nat)
    (awaited : Option Nat)
    (outcome : Outcome) :
    Spares promise loop (loop.proceed task awaited outcome) := by
  unfold proceed
  split
  · exact spares_refl promise loop
  · split
    · exact spares_of_same promise rfl rfl rfl rfl
    · exact spares_refl promise loop

/-- A turn spares a promise that nothing settles. -/
theorem spares_takeTurn (unreleased : ¬loop.Releases promise) :
    Spares promise loop loop.takeTurn := by
  unfold takeTurn
  split
  · exact spares_beginRound
  · rename_i turn rest isNext
    have taken : Spares promise loop { loop with current := rest } := by
      refine ⟨fun released => ?_, fun _ => id⟩
      cases released with
      | timer started =>
          exact .timer started
      | turn due =>
          exact .turn (due.imp_left fun later => isNext ▸ List.mem_cons_of_mem _ later)
      | waiter found waits =>
          exact .waiter found waits
    refine taken.trans ?_
    cases turn with
    | begin task =>
        exact spares_proceed task none .done
    | wake task awaited =>
        dsimp only [take]
        split
        · exact spares_proceed task _ _
        · exact spares_refl promise _
    | release other =>
        refine spares_settle ?_ .done
        rintro rfl
        exact unreleased (.turn (.inl (isNext ▸ List.mem_cons_self)))

/-! ## The end of a move -/

theorem spares_await
    (task other : Nat) :
    Spares promise loop (loop.await task other) := by
  unfold await
  split
  · exact spares_of_same promise rfl rfl rfl rfl
  · have entered : Spares promise loop (loop.whenSettled other (.wake task)) :=
      spares_whenSettled nofun
    have waits : Spares promise loop ((loop.whenSettled other (.wake task)).modifyTask task
        (Task.waitingFor other)).pause :=
      entered.trans (spares_of_same promise rfl rfl rfl rfl)
    split
    · split
      · exact waits.trans (spares_cancel other)
      · exact waits
    · exact waits

theorem spares_yieldTurn (task : Nat) : Spares promise loop (loop.yieldTurn task) where
  released released := by
    cases released with
    | timer started =>
        exact .timer started
    | turn due =>
        refine .turn (due.imp_right fun ready => ?_)
        rcases List.mem_append.mp ready with old | new
        · exact old
        · cases List.mem_singleton.mp new
    | waiter found waits =>
        exact .waiter found waits
  fulfilled _ := id

/-- The end of another task spares a promise. -/
theorem spares_finish
    {task : Nat}
    (apart : promise ≠ task)
    (outcome : Outcome) :
    Spares promise loop (loop.finish task outcome) :=
  (spares_settle apart _).trans (spares_of_same promise rfl rfl rfl rfl)

end

end Loop

/-! ## Promises of a flag -/

namespace Loop

variable {Frame : Type} {loop : Loop Frame} {promise : Nat}

theorem releases_settleAll
    {others : List Nat}
    {outcome : Outcome}
    (released : (loop.settleAll others outcome).Releases promise) :
    loop.Releases promise := by
  induction others generalizing loop with
  | nil =>
      exact released
  | cons other rest inductionHypothesis =>
      exact releases_settle (inductionHypothesis released)

/-- An edit spares the promises that were there, but for the answers to requests. -/
theorem EditBy.spares
    {gives : Job → Prop}
    {known : Nat}
    {before after : Loop AnalyzerSessions.Frame}
    {topic : Topic}
    (edit : before.EditBy gives known after)
    (below : promise < known)
    (told : before.topic? promise = some topic)
    (noAnswer : ∀ session number, topic ≠ .answer session number) :
    Spares promise before after := by
  cases edit with
  | promise topic =>
      exact spares_newPromise topic
  | spawn managed =>
      exact spares_spawn _ _
  | timer isNew seconds =>
      exact spares_settleAfter (Nat.ne_of_gt (Nat.lt_of_lt_of_le below isNew)) seconds
  | untimed other =>
      exact spares_cancelTimer other
  | release other isNew =>
      refine spares_whenSettled fun same => ?_
      cases same
      exact absurd isNew (Nat.not_le_of_lt below)
  | cancel other =>
      exact spares_cancel other
  | answer answers outcome =>
      refine spares_settle ?_ outcome
      rintro rfl
      cases told.symm.trans answers
      exact noAnswer _ _ rfl
  | clock time =>
      exact spares_of_same promise rfl rfl rfl rfl
  | tidied =>
      exact spares_tidyTimers

end Loop

namespace Station

/-- A promise is brought to a value by nothing but the flag of a quiet server. -/
structure Heralds (station : Station) (session promise : Nat) : Prop where
  told : ∃ topic, station.loop.topic? promise = some topic ∧
    ∀ session number, topic ≠ .answer session number
  unreleased : ¬station.loop.Releases promise
  ignored : ∀ entry ∈ station.processes, entry.2.Ignores promise
  own : ∀ signpost, promise ∈ (station.flag signpost).waiters → signpost = .quiescent session
  passes : ∀ value, station.loop.outcome? promise = some (.ok value) →
    MayPass station.chronicle session

variable {known session promise : Nat} {before after station : Station}

/-- A promise goes on waiting for a flag where the promise is spared, no process tells it, and it waits
for no other flag. -/
theorem Heralds.of_spares
    (heralds : before.Heralds session promise)
    (topics : ∀ {topic}, before.loop.topic? promise = some topic →
      after.loop.topic? promise = some topic)
    (spares : Loop.Spares promise before.loop after.loop)
    (ignored : ∀ entry ∈ after.processes, entry.2.Ignores promise)
    (waiters : ∀ signpost, promise ∈ (after.flag signpost).waiters →
      promise ∈ (before.flag signpost).waiters)
    (chronicle : before.chronicle ⊆ after.chronicle) :
    after.Heralds session promise where
  told := heralds.told.imp fun _ told => ⟨topics told.1, told.2⟩
  unreleased released := heralds.unreleased (spares.released released)
  ignored := ignored
  own signpost waits := heralds.own signpost (waiters signpost waits)
  passes value fulfilled := (heralds.passes value (spares.fulfilled value fulfilled)).mono chronicle

/-- Only the loop changes, and the promise is spared. -/
theorem Heralds.withLoop
    {loop : Loop Frame}
    (heralds : station.Heralds session promise)
    (topics : loop.topic? promise = station.loop.topic? promise)
    (spares : Loop.Spares promise station.loop loop) :
    ({ station with loop } : Station).Heralds session promise :=
  heralds.of_spares (fun told => topics.trans told) spares heralds.ignored
    (fun signpost waits => flag_congr rfl signpost ▸ waits) (List.Subset.refl _)

/-- A promise goes on waiting for a flag whatever processes do. -/
theorem withstands_heralds (session promise : Nat) :
    Withstands promise fun station => station.Heralds session promise where
  ignores heralds := heralds.ignored
  settle heralds apart outcome :=
    heralds.withLoop (Loop.topic?_settle _ _ _ _)
      (Loop.spares_settle (Ne.symm apart) outcome)
  modifyProcess heralds chosen ignores := by
    refine heralds.of_spares id (Loop.spares_refl _ _) (fun entry member => ?_)
      (fun signpost waits => flag_congr rfl signpost ▸ waits) (List.Subset.refl _)
    obtain ⟨old, isThere, rfl⟩ := List.mem_map.mp member
    have ignored := heralds.ignored old isThere
    split
    · exact ignores old.2 ignored
    · exact ignored

/-! ## Flags -/

/-- When a flag is set, a promise that waits for it comes to a value as it may. -/
theorem Heralds.raise
    {signpost : Signpost}
    (heralds : station.Heralds session promise)
    (passes : signpost = .quiescent session → MayPass station.chronicle session) :
    (station.raise signpost).Heralds session promise := by
  have waiters : ∀ other, promise ∈ ((station.raise signpost).flag other).waiters →
      promise ∈ (station.flag other).waiters := by
    have follow : FlagsFollow (promise + 1) (fun other => other = signpost) station
        (station.raise signpost) :=
      flagsFollow_raise rfl
    exact fun other waits => follow.waiters other promise (Nat.lt_succ_self promise) waits
  have ignored : ∀ entry ∈ (station.raise signpost).processes, entry.2.Ignores promise := by
    cases signpost <;> exact heralds.ignored
  have chronicle : (station.raise signpost).chronicle = station.chronicle := by
    cases signpost <;> rfl
  have topics := (sameTasks_raise station signpost).topics promise
  have sameLoop : (station.raise signpost).loop =
      station.loop.settleAll (station.flag signpost).waiters (.ok (.json (.bool true))) := by
    cases signpost <;> rfl
  by_cases waits : promise ∈ (station.flag signpost).waiters
  · refine ⟨topics ▸ heralds.told, fun released => ?_, ignored, fun other waits => ?_, fun _ _ => ?_⟩
    · rw [sameLoop] at released
      exact heralds.unreleased (Loop.releases_settleAll released)
    · exact heralds.own other (waiters other waits)
    · rw [chronicle]
      exact passes (heralds.own signpost waits)
  · refine heralds.of_spares (fun told => topics.trans told) ?_ ignored waiters
      (chronicle ▸ List.Subset.refl _)
    rw [sameLoop]
    exact Loop.spares_settleAll waits _

/-- Closing a client brings those who wait for its server to a value as well. -/
theorem Heralds.hangUp
    (heralds : station.Heralds session promise)
    (other : Nat) :
    (station.hangUp other).Heralds session promise := by
  -- The closing is on record only after the flag was set, so the record comes first here.
  have recorded : ({ station with chronicle := station.chronicle ++ [.hungUp other none] } :
      Station).Heralds session promise :=
    heralds.of_spares id (Loop.spares_refl _ _) heralds.ignored
      (fun signpost waits => flag_congr rfl signpost ▸ waits) (List.subset_append_left _ _)
  have raised := @Heralds.raise _ _ _ (.quiescent other) recorded fun same => by
    cases same
    exact .inr (List.mem_append_right _ (List.mem_singleton_self _))
  exact raised

/-- However a station is edited, a promise that was there goes on waiting for a flag. -/
theorem EditWithin.heralds
    {scope : Scope}
    (edit : before.EditWithin scope known after)
    (below : promise < known)
    (informed : before.Informed)
    (heralds : before.Heralds session promise) :
    after.Heralds session promise := by
  have topics : ∀ {topic}, before.loop.topic? promise = some topic →
      after.loop.topic? promise = some topic :=
    edit.enlarges.topics
  obtain ⟨topic, told, noAnswer⟩ := heralds.told
  have chronicle := edit.chronicle.subset
  have waiters := fun signpost => edit.flags.waiters signpost promise below
  have sameLoop : after.loop = before.loop → after.processes = before.processes →
      after.Heralds session promise := by
    intro loop processes
    refine heralds.of_spares topics ?_ (processes ▸ heralds.ignored) waiters chronicle
    rw [loop]
    exact Loop.spares_refl _ _
  have withstands := withstands_heralds session promise
  cases edit with
  | loop edit =>
      exact heralds.of_spares topics (edit.spares below told noAnswer) heralds.ignored waiters
        chronicle
  | process number ignores =>
      exact withstands.modifyProcess heralds number fun process => ignores process promise below
  | output number change =>
      exact withstands.changeOutput heralds number change
  | errors number change =>
      exact withstands.changeErrors heralds number change
  | exit number code =>
      exact withstands.exitProcess heralds number code
  | seat number starts ignores silent lowered =>
      refine heralds.of_spares topics (Loop.spares_refl _ _) (fun entry member => ?_) waiters
        chronicle
      rcases List.mem_append.mp member with old | isNew
      · exact heralds.ignored entry old
      · cases List.mem_singleton.mp isNew
        exact ignores promise
  | settled other =>
      exact heralds.raise nofun
  | calm quiet =>
      refine heralds.raise fun same => ?_
      cases same
      exact .inl (informed.heard session quiet)
  | await signpost isNew => cases signpost <;> exact sameLoop rfl rfl
  | _ => exact sameLoop rfl rfl

/-! ## New promises -/

/-- A promise that was not there at a sound station is brought to a value by nothing. -/
theorem Sound.heralds
    {hand : List Token}
    {topic : Topic}
    (sound : before.Sound hand)
    (isNew : before.loop.topic? promise = none)
    (told : after.loop.topic? promise = some topic)
    (noAnswer : ∀ session number, topic ≠ .answer session number)
    (unsettled : after.loop.outcome? promise = none)
    (releases : after.loop.Releases promise → before.loop.Releases promise)
    (processes : after.processes = before.processes)
    (runs : after.runs = before.runs)
    (session : Nat) :
    after.Heralds session promise := by
  have unknown : ∀ {topic}, before.loop.topic? promise ≠ some topic := by
    rw [isNew]
    exact nofun
  refine ⟨⟨topic, told, noAnswer⟩, fun released => ?_, fun entry member => ?_,
    fun signpost waits => ?_, fun value settled => ?_⟩
  · exact unknown (sound.loop.ticking promise (releases released))
  · rw [processes] at member
    have fits := sound.processes entry member
    exact ⟨fun reads => unknown (fits.output promise reads),
      fun channel logs reads => unknown (fits.errors channel promise logs reads),
      fun waits => unknown (fits.exit promise waits)⟩
  · rw [flag_congr runs] at waits
    cases signpost with
    | settled other =>
        rw [flag_settled] at waits
        cases isRun : before.run? other with
        | none =>
            rw [isRun] at waits
            cases waits
        | some run =>
            rw [isRun] at waits
            have member := List.mem_of_find?_eq_some isRun
            exact (unknown ((sound.runs.each run member).settled promise waits)).elim
    | quiescent other =>
        rw [flag_quiescent] at waits
        cases isClient : before.client? other with
        | none =>
            rw [isClient] at waits
            cases waits
        | some client =>
            rw [isClient] at waits
            exact (unknown ((sound.clientFits isClient).quiescent promise waits)).elim
  · cases unsettled.symm.trans settled

/-! ## Turns and the end of a move -/

theorem Heralds.laid
    (heralds : station.Heralds session promise)
    (task : Nat)
    (rest : List Frame) :
    (station.laid task rest).Heralds session promise :=
  heralds.withLoop rfl (Loop.spares_of_same promise rfl rfl rfl rfl)

theorem Heralds.takeTurn (heralds : station.Heralds session promise) :
    (station.modifyLoop Loop.takeTurn).Heralds session promise :=
  heralds.withLoop (Loop.topic?_takeTurn _ _) (Loop.spares_takeTurn heralds.unreleased)

theorem Heralds.follow
    (heralds : station.Heralds session promise)
    (task : Nat)
    (rest : List Frame)
    (next : Next) :
    (station.follow task rest next).Heralds session promise := by
  obtain ⟨frames, pause⟩ := next
  have framed : (station.laid task (frames ++ rest)).Heralds session promise :=
    heralds.laid task (frames ++ rest)
  cases pause with
  | give outcome =>
      exact framed.withLoop rfl (Loop.spares_of_same promise rfl rfl rfl rfl)
  | await other =>
      exact framed.withLoop (Loop.topic?_await _ _) (Loop.spares_await task other)
  | yield =>
      exact framed.withLoop rfl (Loop.spares_yieldTurn task)

theorem Heralds.finish
    {task : Nat}
    (heralds : station.Heralds session promise)
    (apart : promise ≠ task)
    (outcome : Outcome) :
    (station.modifyLoop fun loop => loop.finish task outcome).Heralds session promise :=
  heralds.withLoop (Loop.topic?_settle _ _ _ _) (Loop.spares_finish apart outcome)

/-- A task that ends with a value that may be has come to it as it may. -/
theorem Heralds.finishes
    {task : Nat}
    {outcome : Outcome}
    (heralds : station.Heralds session task)
    (passes : ∀ value, outcome = .ok value → MayPass station.chronicle session) :
    (station.modifyLoop fun loop => loop.finish task outcome).Heralds session task := by
  refine ⟨?_, fun released => ?_, heralds.ignored, fun signpost waits => ?_,
    fun value settled => ?_⟩
  · have topics : (station.loop.settle task (Loop.finalOutcome (station.loop.task? task)
        outcome)).topic? task = station.loop.topic? task :=
      Loop.topic?_settle _ _ _ _
    exact heralds.told.imp fun _ told => ⟨topics.trans told.1, told.2⟩
  · have settledBefore : (station.loop.settle task (Loop.finalOutcome (station.loop.task? task)
        outcome)).Releases task :=
      Loop.releases_of_same released rfl rfl rfl rfl
    exact heralds.unreleased (Loop.releases_settle settledBefore)
  · exact heralds.own signpost (flag_congr rfl signpost ▸ waits)
  · have isOutcome : (station.loop.settle task (Loop.finalOutcome (station.loop.task? task)
        outcome)).outcome? task = some (.ok value) :=
      settled
    rw [Loop.outcome?_settle] at isOutcome
    split at isOutcome
    · cases outcome with
      | ok given => exact passes given rfl
      | error failure => cases isOutcome
    · exact heralds.passes value isOutcome

end Station

end AnalyzerSessions
