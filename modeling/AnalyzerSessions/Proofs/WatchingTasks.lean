import AnalyzerSessions.Proofs.EditingRuns
import AnalyzerSessions.Proofs.FlagPromises
import AnalyzerSessions.Proofs.ReceivedMessages

namespace AnalyzerSessions

/-!
# Watching tasks

A task may do nothing but wait for the flag of a quiet server.  From its beginning to its
end nothing else brings it to a value, so that a value means that the server has said that
it is quiet, or that its client was closed.  Every step of the station keeps this, the
task's own steps and those of all others.
-/

/-!
## Wakened tasks

A turn wakes at most one task, which goes on with what it waited for or with a
cancellation.  Whatever the running task comes to, the other tasks wait as they did.
-/

namespace Loop

variable {Frame : Type} {loop : Loop Frame} {task : Nat} {stance : Stance Frame}

/-- What taking a turn comes to: nobody goes on, or a task does with what it waited for, or with a
cancellation. -/
inductive Wakens (before : Loop Frame) : Loop Frame → Prop where
  | nobody {after : Loop Frame}
      (stances : after.stances = before.stances)
      (nobody : after.running = none) :
      Wakens before after
  | somebody {after : Loop Frame} {stance : Stance Frame} {outcome : Outcome}
      (waited : stance ∈ before.stances)
      (running : after.running = some (stance.task, outcome))
      (stances : ∀ now ∈ after.stances, now ∈ before.stances ∧ now.task ≠ stance.task ∨
        now = { stance with waitingOn := none })
      (told : outcome = .cancelled ∨ stance.waitingOn = none ∨
        ∃ promise, stance.waitingOn = some promise ∧ before.outcome? promise = some outcome) :
      Wakens before after

theorem Fits.wakens_proceed
    {holds : Topic → Outcome → Prop}
    {rests : Stance Frame → Prop}
    {awaited : Option Nat}
    {outcome : Outcome}
    (fits : loop.Fits holds rests)
    (nobody : loop.running = none)
    (told : ∀ promise, awaited = some promise → loop.outcome? promise = some outcome) :
    loop.Wakens (loop.proceed task awaited outcome) := by
  unfold Loop.proceed
  split
  · exact .nobody rfl nobody
  · rename_i state found
    split
    · rename_i waits
      have isThere := mem_of_task? found
      have waited : ⟨task, state.frames, awaited⟩ ∈ loop.stances :=
        mem_stances.mpr ⟨state, isThere, rfl, waits⟩
      refine .somebody waited rfl (fun now member => ?_) ?_
      · rcases mem_stances_modifyTask member with
          ⟨isTask, old, wasThere, sameFrames, noWait⟩ | ⟨different, wasThere⟩
        · cases (fits.task?_of_mem wasThere).symm.trans found
          obtain ⟨number, frames, waitingOn⟩ := now
          cases isTask
          cases sameFrames
          cases noWait
          exact .inr rfl
        · exact .inl ⟨wasThere, different⟩
      · cases state.cancelDue with
        | true =>
            exact .inl rfl
        | false =>
            cases awaited with
            | none => exact .inr (.inl rfl)
            | some promise => exact .inr (.inr ⟨promise, rfl, told promise rfl⟩)
    · exact .nobody rfl nobody

theorem Fits.wakens_takeTurn
    {holds : Topic → Outcome → Prop}
    {rests : Stance Frame → Prop}
    (fits : loop.Fits holds rests)
    (nobody : loop.running = none) :
    loop.Wakens loop.takeTurn := by
  unfold Loop.takeTurn
  split
  · exact .nobody rfl nobody
  · rename_i turn rest isNext
    have taken : ({ loop with current := rest } : Loop Frame).Fits holds rests := by
      refine fits.turns (fun timer started => started) ?_
      rintro promise (later | ready)
      · exact .turn (.inl (isNext ▸ List.mem_cons_of_mem _ later))
      · exact .turn (.inr ready)
    have sameWakens : ∀ {after}, ({ loop with current := rest } : Loop Frame).Wakens after →
        loop.Wakens after := by
      intro after wakens
      cases wakens with
      | nobody stances nobody => exact .nobody stances nobody
      | somebody waited running stances told => exact .somebody waited running stances told
    refine sameWakens ?_
    cases turn with
    | begin task =>
        exact taken.wakens_proceed nobody nofun
    | wake task promise =>
        dsimp only [take]
        split
        · rename_i outcome settled
          refine taken.wakens_proceed nobody fun other same => ?_
          cases same
          exact settled
        · exact .nobody rfl nobody
    | release promise =>
        refine .nobody ?_ ((running_settle _ _ _).trans nobody)
        simp only [take, stances, tasks_settle]

/-! ## The end of a move -/

/-- A task that waits for a promise keeps its frames, and the other tasks wait as they did. -/
theorem stances_await
    {awaited : Nat}
    (unsettled : loop.outcome? awaited = none)
    (member : stance ∈ (loop.await task awaited).stances) :
    (stance.task ≠ task ∧ stance ∈ loop.stances) ∨
      stance.task = task ∧ stance.waitingOn = some awaited ∧
        ∃ old ∈ loop.stances, old.task = task ∧ stance.frames = old.frames := by
  have entered : stance ∈ (((loop.whenSettled awaited (.wake task)).modifyTask task
      (Task.waitingFor awaited)).pause).stances := by
    unfold await at member
    rw [unsettled] at member
    dsimp only at member
    split at member
    · split at member
      · exact (stances_topic?_cancelWithin _ _ awaited).1 ▸ member
      · exact member
    · exact member
  rcases mem_stances_modifyTask entered with
    ⟨isTask, old, wasThere, sameFrames, sameWait⟩ | ⟨different, wasThere⟩
  · rw [tasks_whenSettled] at wasThere
    exact .inr ⟨isTask, sameWait, ⟨task, old.frames, old.waitingOn⟩,
      mem_stances.mpr ⟨old, wasThere, rfl, rfl⟩, rfl, sameFrames⟩
  · refine .inl ⟨different, ?_⟩
    unfold stances at wasThere ⊢
    rwa [tasks_whenSettled] at wasThere

/-- When a task ends, the others wait as they did. -/
theorem stances_finish
    {outcome : Outcome}
    (member : stance ∈ (loop.finish task outcome).stances) :
    stance.task ≠ task ∧ stance ∈ loop.stances := by
  obtain ⟨state, isThere, sameFrames, sameWait⟩ := mem_stances.mp member
  obtain ⟨wasThere, different⟩ := List.mem_filter.mp isThere
  have known : (stance.task, state) ∈ loop.tasks := by
    rw [← tasks_settle loop task]
    exact wasThere
  refine ⟨by simpa using different, mem_stances.mpr ⟨state, known, sameFrames, sameWait⟩⟩

end Loop

namespace Station

variable {station : Station} {task : Nat} {rest : List Frame} {stance : Stance Frame}

/-- When a task goes on, the others wait as they did. -/
theorem stances_follow
    {next : Next}
    (member : stance ∈ (station.follow task rest next).loop.stances)
    (different : stance.task ≠ task) :
    stance ∈ station.loop.stances := by
  have framed : stance ∈ (station.loop.setFrames task (next.frames ++ rest)).stances →
      stance ∈ station.loop.stances := by
    intro isThere
    rcases Loop.mem_stances_modifyTask isThere with ⟨same, _⟩ | ⟨_, wasThere⟩
    · exact (different same).elim
    · exact wasThere
  obtain ⟨frames, pause⟩ := next
  cases pause with
  | give outcome =>
      exact framed member
  | yield =>
      exact framed member
  | await promise =>
      refine framed ?_
      have awaits : stance ∈
          ((station.loop.setFrames task (frames ++ rest)).await task promise).stances :=
        member
      cases settled : (station.loop.setFrames task (frames ++ rest)).outcome? promise with
      | none =>
          rcases Loop.stances_await settled awaits with ⟨_, isThere⟩ | ⟨same, _⟩
          · exact isThere
          · exact (different same).elim
      | some outcome =>
          unfold Loop.await at awaits
          rw [settled] at awaits
          exact awaits

end Station

/-! ## Watching tasks -/

namespace Loop

variable {Frame : Type}

/-! A new promise has the number that no promise had yet. -/

theorem topic?_length (loop : Loop Frame) : loop.topic? loop.promises.length = none := by
  cases told : loop.topic? loop.promises.length with
  | none => rfl
  | some topic => exact absurd (lt_of_topic? told) (Nat.lt_irrefl _)

theorem topic?_newPromise_length
    (loop : Loop Frame)
    (topic : Topic) :
    (loop.newPromise topic).2.topic? loop.promises.length = some topic := by
  rw [topic?_newPromise, if_pos rfl]

theorem outcome?_newPromise_length
    (loop : Loop Frame)
    (topic : Topic) :
    (loop.newPromise topic).2.outcome? loop.promises.length = none := by
  rw [outcome?_newPromise]
  cases settled : loop.outcome? loop.promises.length with
  | none => rfl
  | some outcome =>
      obtain ⟨known, told⟩ := topic?_of_outcome? settled
      cases loop.topic?_length.symm.trans told

end Loop

namespace Station

variable {base before after station : Station} {session task : Nat} {outcome : Outcome}

/-! ## What a task that goes on does to a station -/

/-- A station after a task went on: it was edited, and a client may have been closed last. -/
inductive EvolvesWithin (scope : Scope) (base : Station) : Station → Prop where
  | edited {after : Station}
      (reworked : base.ReworkedWithin scope base.loop.promises.length after) :
      EvolvesWithin scope base after
  | closed {mid : Station}
      (reworked : base.ReworkedWithin scope base.loop.promises.length mid)
      (session : Nat) :
      EvolvesWithin scope base (mid.hangUp session)

/-- A station after a task went on whose edits may concern all sessions. -/
abbrev Evolves (base after : Station) : Prop :=
  base.EvolvesWithin .all after

theorem ReworkedWithin.informed
    {scope : Scope}
    {known : Nat}
    (reworked : base.ReworkedWithin scope known station)
    (informed : base.Informed) :
    station.Informed := by
  have edits := reworked.edits
  clear reworked
  induction edits with
  | refl => exact informed
  | tail _ edit inductionHypothesis => exact edit.informed inductionHypothesis

theorem ReworkedWithin.heralds
    {scope : Scope}
    {known promise : Nat}
    (reworked : base.ReworkedWithin scope known station)
    (below : promise < known)
    (informed : base.Informed)
    (heralds : base.Heralds session promise) :
    station.Heralds session promise := by
  have edits := reworked.edits
  clear reworked
  have both : station.Informed ∧ station.Heralds session promise := by
    induction edits with
    | refl => exact ⟨informed, heralds⟩
    | tail _ edit inductionHypothesis =>
        exact ⟨edit.informed inductionHypothesis.1,
          edit.heralds below inductionHypothesis.1 inductionHypothesis.2⟩
  exact both.2

theorem ReworkedWithin.chronicle
    {scope : Scope}
    {known : Nat}
    (reworked : base.ReworkedWithin scope known station) :
    base.chronicle <+: station.chronicle := by
  have edits := reworked.edits
  clear reworked
  induction edits with
  | refl => exact List.prefix_rfl
  | tail _ edit inductionHypothesis => exact inductionHypothesis.trans edit.chronicle

theorem sameTasks_hangUp
    (station : Station)
    (session : Nat) :
    station.loop.SameTasks (station.hangUp session).loop :=
  sameTasks_raise station (.quiescent session)

namespace EvolvesWithin

variable {scope : Scope}

theorem informed
    (evolves : base.EvolvesWithin scope after)
    (informed : base.Informed) :
    after.Informed := by
  cases evolves with
  | edited reworked => exact reworked.informed informed
  | closed reworked session => exact (reworked.informed informed).hangUp session

theorem heralds
    {promise : Nat}
    (evolves : base.EvolvesWithin scope after)
    (informed : base.Informed)
    (heralds : base.Heralds session promise) :
    after.Heralds session promise := by
  obtain ⟨topic, told, _⟩ := heralds.told
  have below := Loop.lt_of_topic? told
  cases evolves with
  | edited reworked => exact reworked.heralds below informed heralds
  | closed reworked other => exact (reworked.heralds below informed heralds).hangUp other

/-- What a task does may come after edits. -/
theorem afterEdits
    {mid : Station}
    (evolves : mid.EvolvesWithin scope after)
    (reworked : base.ReworkedWithin scope base.loop.promises.length mid) :
    base.EvolvesWithin scope after := by
  have below := reworked.enlarges.length
  cases evolves with
  | edited later => exact .edited (reworked.trans later below)
  | closed later session => exact .closed (reworked.trans later below) session

theorem enlarges
    (evolves : base.EvolvesWithin scope after) :
    base.loop.EnlargesBy scope.gives after.loop := by
  cases evolves with
  | edited reworked => exact reworked.enlarges
  | closed reworked session =>
      exact reworked.enlarges.trans (sameTasks_hangUp _ session).enlarges

theorem chronicle (evolves : base.EvolvesWithin scope after) : base.chronicle ⊆ after.chronicle := by
  cases evolves with
  | edited reworked => exact reworked.chronicle.subset
  | closed reworked session =>
      exact List.Subset.trans reworked.chronicle.subset (List.subset_append_left _ _)

end EvolvesWithin

/-! ## Watching tasks -/

/-- How a task that waits for a quiet server may wait: for its first turn, for the flag, or not at all,
since it is about to end. -/
inductive IsWatching (station : Station) (session : Nat) : Stance Frame → Prop where
  | begins (task : Nat) :
      IsWatching station session ⟨task, [.begin (.awaitFlag (.quiescent session))], none⟩
  | waits (task : Nat) {promise : Nat}
      (told : station.loop.topic? promise = some .tick)
      (heralds : station.Heralds session promise) :
      IsWatching station session ⟨task, [], some promise⟩
  | ends {task : Nat} {outcome : Outcome}
      (running : station.loop.running = some (task, outcome))
      (passes : ∀ value, outcome = .ok value → MayPass station.chronicle session) :
      IsWatching station session ⟨task, [], none⟩

/-- A task does nothing but wait for a quiet server. -/
structure Watches (station : Station) (session task : Nat) : Prop where
  heralds : station.Heralds session task
  stances : ∀ stance ∈ station.loop.stances, stance.task = task →
    station.IsWatching session stance

/-- A task goes on watching where what it waits for is kept. -/
theorem IsWatching.mono
    {stance : Stance Frame}
    (watching : before.IsWatching session stance)
    (topics : ∀ {promise topic}, before.loop.topic? promise = some topic →
      after.loop.topic? promise = some topic)
    (heralds : ∀ {promise}, before.loop.topic? promise = some .tick →
      before.Heralds session promise → after.Heralds session promise)
    (running : ∀ outcome, before.loop.running = some (stance.task, outcome) →
      after.loop.running = some (stance.task, outcome))
    (chronicle : before.chronicle ⊆ after.chronicle) :
    after.IsWatching session stance := by
  cases watching with
  | begins task =>
      exact .begins task
  | waits task told heralded =>
      exact .waits task (topics told) (heralds told heralded)
  | ends runs passes =>
      exact .ends (running _ runs) fun value same => (passes value same).mono chronicle

/-- A task watches on however the station is edited by others, or closes a client. -/
theorem Watches.evolves
    (watches : before.Watches session task)
    (informed : before.Informed)
    (evolves : before.Evolves after) :
    after.Watches session task := by
  have enlarges := evolves.enlarges
  refine ⟨evolves.heralds informed watches.heralds, fun stance member isTask => ?_⟩
  rcases enlarges.added stance member with old | ⟨isNew, _⟩
  · refine (watches.stances stance old isTask).mono enlarges.topics
      (fun _ heralds => evolves.heralds informed heralds) (fun _ running => ?_) evolves.chronicle
    exact enlarges.running.trans running
  · obtain ⟨topic, told, _⟩ := watches.heralds.told
    have below := Loop.lt_of_topic? told
    omega

/-! ## Turns -/

theorem Watches.takeTurn
    {hand : List Token}
    (watches : station.Watches session task)
    (sound : station.Sound hand)
    (nobody : station.loop.running = none) :
    (station.modifyLoop Loop.takeTurn).Watches session task := by
  refine ⟨watches.heralds.takeTurn, fun stance member isTask => ?_⟩
  have stays : stance ∈ station.loop.stances →
      (station.modifyLoop Loop.takeTurn).IsWatching session stance := by
    intro wasThere
    refine (watches.stances stance wasThere isTask).mono
      (fun told => (Loop.topic?_takeTurn _ _).trans told) (fun _ heralds => heralds.takeTurn)
      (fun _ running => ?_) (List.Subset.refl _)
    cases nobody.symm.trans running
  have wakens := sound.loop.wakens_takeTurn nobody
  generalize isTurned : station.loop.takeTurn = turned at wakens
  have member : stance ∈ turned.stances := isTurned ▸ member
  cases wakens with
  | nobody sameStances _ =>
      exact stays (sameStances ▸ member)
  | @somebody woken given waited running stances told =>
      rcases stances stance member with ⟨wasThere, _⟩ | rfl
      · exact stays wasThere
      · rw [← isTurned] at running
        have runs : (station.modifyLoop Loop.takeTurn).loop.running = some (woken.task, given) :=
          running
        have watching := watches.stances woken waited isTask
        cases watching with
        | begins =>
            exact .begins _
        | waits _ _ heralds =>
            refine .ends runs fun value same => ?_
            rcases told with cancelled | none | ⟨promise, same, settled⟩
            · cases cancelled.symm.trans same
            · cases none
            · cases same
              exact heralds.passes value (same ▸ settled)
        | ends runsNow _ =>
            cases nobody.symm.trans runsNow

/-! ## The end of a task -/

/-- A promise that tells that something happened is not the running task. -/
theorem Poised.ne_of_tick
    {promise : Nat}
    (poised : station.Poised)
    (running : station.loop.running = some (task, outcome))
    (told : station.loop.topic? promise = some .tick) :
    promise ≠ task := by
  rintro rfl
  obtain ⟨goal, _, isGoal, errand, _⟩ := poised.goes running
  cases told.symm.trans isGoal
  exact errand

theorem Watches.finish
    {ended : Nat}
    (watches : station.Watches session task)
    (poised : station.Poised)
    (running : station.loop.running = some (ended, outcome))
    (bare : station.loop.frames ended = []) :
    (station.modifyLoop fun loop => loop.finish ended outcome).Watches session task := by
  have topics : ∀ {promise topic}, station.loop.topic? promise = some topic →
      (station.loop.finish ended outcome).topic? promise = some topic :=
    fun told => (Loop.topic?_settle _ _ _ _).trans told
  refine ⟨?_, fun stance member isTask => ?_⟩
  · by_cases isEnded : task = ended
    · subst isEnded
      refine watches.heralds.finishes fun value same => ?_
      obtain ⟨stance, member, isTask⟩ := poised.toSound.loop.running running
      have noFrames := (poised.toSound.loop.frames_of_mem member).symm.trans (isTask ▸ bare)
      have idle := poised.toSound.loop.idle stance member (isTask ▸ Loop.not_isAside running)
      cases watches.stances stance member isTask with
      | begins => cases noFrames
      | waits => cases idle
      | ends runs passes =>
          cases isTask
          cases running.symm.trans runs
          exact passes value same
    · exact watches.heralds.finish isEnded outcome
  · obtain ⟨different, wasThere⟩ := Loop.stances_finish member
    refine (watches.stances stance wasThere isTask).mono topics
      (fun told heralds => heralds.finish (poised.ne_of_tick running told) outcome)
      (fun _ runs => ?_) (List.Subset.refl _)
    cases running.symm.trans runs
    exact (different rfl).elim

/-! ## Moves -/

theorem topic?_follow
    {next : Next}
    (station : Station)
    (task : Nat)
    (rest : List Frame)
    (promise : Nat) :
    (station.follow task rest next).loop.topic? promise = station.loop.topic? promise := by
  obtain ⟨frames, pause⟩ := next
  cases pause with
  | await other => exact Loop.topic?_await _ _
  | _ => rfl

theorem Watches.laid
    {goes : Nat}
    (watches : station.Watches session task)
    (different : task ≠ goes)
    (rest : List Frame) :
    (station.laid goes rest).Watches session task := by
  refine ⟨watches.heralds.laid goes rest, fun stance member isTask => ?_⟩
  rcases Loop.mem_stances_modifyTask member with ⟨same, _⟩ | ⟨_, wasThere⟩
  · exact (different (isTask.symm.trans same)).elim
  · exact (watches.stances stance wasThere isTask).mono id
      (fun _ heralds => heralds.laid goes rest) (fun _ runs => runs) (List.Subset.refl _)

theorem Watches.follow
    {goes : Nat}
    (watches : station.Watches session task)
    (running : station.loop.running = some (goes, outcome))
    (different : task ≠ goes)
    (rest : List Frame)
    (next : Next) :
    (station.follow goes rest next).Watches session task := by
  refine ⟨watches.heralds.follow goes rest next, fun stance member isTask => ?_⟩
  have wasThere := stances_follow member (isTask ▸ different)
  refine (watches.stances stance wasThere isTask).mono
    (fun told => (topic?_follow station goes rest _).trans told)
    (fun _ heralds => heralds.follow goes rest next) (fun given runs => ?_) (List.Subset.refl _)
  cases running.symm.trans runs
  exact (different isTask.symm).elim

/-! ## The moves of a watching task -/

/-- A flag may be changed for which a promise waits. -/
theorem Heralds.setFlag
    {promise : Nat}
    (heralds : station.Heralds session promise)
    (flag : Flag) :
    (station.setFlag (.quiescent session) flag).Heralds session promise := by
  refine ⟨heralds.told, heralds.unreleased, heralds.ignored, fun signpost waits => ?_,
    heralds.passes⟩
  by_cases same : signpost = .quiescent session
  · exact same
  · exact heralds.own signpost (flag_setFlag_of_ne same flag ▸ waits)

/-- A promise that is new at a sound station waits for the flag that it is given to. -/
theorem Sound.heraldsNew
    {hand : List Token}
    (sound : station.Sound hand)
    (session : Nat)
    (flag : Flag) :
    ((station.modifyLoop fun loop => (loop.newPromise .tick).2).setFlag (.quiescent session)
      flag).Heralds session station.loop.promises.length := by
  have promised : (station.modifyLoop fun loop => (loop.newPromise .tick).2).Heralds session
      station.loop.promises.length := by
    apply sound.heralds (station.loop.topic?_length) (station.loop.topic?_newPromise_length .tick)
      (fun _ _ same => by cases same) (station.loop.outcome?_newPromise_length .tick)
    · exact Loop.releases_newPromise
    · rfl
    · rfl
  exact promised.setFlag flag

/-- Whoever begins to wait for a quiet server goes on at once, with a value only if he may, or waits for
a new promise. -/
theorem Informed.resume_awaitFlag
    (informed : station.Informed)
    (session : Nat)
    (outcome : Outcome) :
    (∃ given, (Move.resume (.begin (.awaitFlag (.quiescent session))) outcome).make station =
        (Next.give given, station) ∧
      ∀ value, given = .ok value → MayPass station.chronicle session) ∨
    ∃ flag, (Move.resume (.begin (.awaitFlag (.quiescent session))) outcome).make station =
      (Next.await station.loop.promises.length,
        (station.modifyLoop fun loop => (loop.newPromise .tick).2).setFlag (.quiescent session)
          flag) := by
  cases outcome with
  | error failure =>
      exact .inl ⟨.error failure, rfl, fun _ => nofun⟩
  | ok value =>
      have began : (Move.resume (.begin (.awaitFlag (.quiescent session))) (.ok value)).make station =
          (Move.awaitFlag (.quiescent session)).make station := rfl
      rw [began]
      unfold Move.awaitFlag
      rw [Move.make_get_bind]
      dsimp only
      split
      · rename_i isSet
        exact .inl ⟨_, rfl, fun _ _ => informed.quiescent session isSet⟩
      · exact .inr ⟨_, rfl⟩

/-- A task that goes on with an outcome and without frames may be about to end. -/
theorem Sound.stances_give
    {hand : List Token}
    {stance : Stance Frame}
    {given : Outcome}
    (sound : station.Sound hand)
    (running : station.loop.running = some (task, outcome))
    (member : stance ∈ (station.follow task [] (.give given)).loop.stances)
    (isTask : stance.task = task) :
    stance = ⟨task, [], none⟩ := by
  have framed : stance ∈ (station.loop.setFrames task []).stances := member
  rcases Loop.mem_stances_modifyTask framed with
    ⟨_, old, wasThere, sameFrames, sameWait⟩ | ⟨different, _⟩
  · have idle := sound.loop.idle ⟨task, old.frames, old.waitingOn⟩
      (Loop.mem_stances.mpr ⟨old, wasThere, rfl, rfl⟩) (Loop.not_isAside running)
    obtain ⟨number, frames, waitingOn⟩ := stance
    cases isTask
    cases sameFrames
    cases sameWait.trans idle
    rfl
  · exact (different isTask).elim

/-- A task that waits for a promise and has no frames. -/
theorem stances_followAwait
    {stance : Stance Frame}
    {promise : Nat}
    (unsettled : station.loop.outcome? promise = none)
    (member : stance ∈ (station.follow task [] (.await promise)).loop.stances)
    (isTask : stance.task = task) :
    stance = ⟨task, [], some promise⟩ := by
  have awaits : stance ∈ ((station.loop.setFrames task []).await task promise).stances := member
  have unsettled : (station.loop.setFrames task []).outcome? promise = none := unsettled
  rcases Loop.stances_await unsettled awaits with ⟨different, _⟩ | ⟨_, waitsFor, old, framed, same,
    sameFrames⟩
  · exact (different isTask).elim
  · have noFrames := Loop.mem_stances_setFrames framed same
    obtain ⟨number, frames, waitingOn⟩ := stance
    cases isTask
    cases waitsFor
    cases sameFrames.trans noFrames
    rfl

/-- A watching task goes on with its first turn: it waits for the flag, or it is about to end. -/
theorem Watches.awaits
    (watches : station.Watches session task)
    (poised : station.Poised)
    (running : station.loop.running = some (task, outcome))
    (isTop : station.loop.frames task = [.begin (.awaitFlag (.quiescent session))])
    (informed : (station.laid task []).Informed)
    (evolves : (station.laid task []).Evolves
      (station.moved task (.begin (.awaitFlag (.quiescent session))) [] outcome).2) :
    station.step.Watches session task := by
  obtain ⟨turns, _⟩ := poised.turns running isTop
  have heralds := ((evolves.heralds informed (watches.heralds.laid task []))).follow task []
    (station.moved task (.begin (.awaitFlag (.quiescent session))) [] outcome).1
  have laid := turns.laid
  rw [turns.step]
  refine ⟨heralds, fun stance member isTask => ?_⟩
  rcases informed.resume_awaitFlag session outcome with ⟨given, isMoved, passes⟩ | ⟨flag, isMoved⟩
  · have isMoved : station.moved task (.begin (.awaitFlag (.quiescent session))) [] outcome = _ :=
      isMoved
    rw [isMoved] at member ⊢
    cases laid.stances_give running member isTask
    exact .ends rfl passes
  · have isMoved : station.moved task (.begin (.awaitFlag (.quiescent session))) [] outcome = _ :=
      isMoved
    have heralded := (laid.heraldsNew session flag).follow task []
      (.await (station.laid task []).loop.promises.length)
    rw [isMoved] at member ⊢
    have unsettled := (station.laid task []).loop.outcome?_newPromise_length .tick
    have told := (station.laid task []).loop.topic?_newPromise_length .tick
    cases stances_followAwait unsettled member isTask
    exact .waits task ((topic?_follow _ _ _ _).trans told) heralded

/-! ## Steps -/

/-- A station keeps informed when its loop changes. -/
theorem Informed.withLoop
    (informed : station.Informed)
    (loop : Loop Frame) :
    ({ station with loop } : Station).Informed :=
  ⟨informed.orderly, informed.strayless, informed.heard, fun session isSet =>
    informed.quiescent session (flag_congr rfl _ ▸ isSet)⟩

/-- A watching task that has frames has not begun. -/
theorem Watches.frames_eq
    {frame : Frame}
    {rest : List Frame}
    (watches : station.Watches session task)
    (poised : station.Poised)
    (running : station.loop.running = some (task, outcome))
    (isTop : station.loop.frames task = frame :: rest) :
    frame :: rest = [.begin (.awaitFlag (.quiescent session))] := by
  obtain ⟨stance, member, isTask⟩ := poised.toSound.loop.running running
  have sameFrames := (poised.toSound.loop.frames_of_mem member).symm.trans (isTask ▸ isTop)
  cases watches.stances stance member isTask with
  | begins => exact sameFrames.symm
  | waits => cases sameFrames
  | ends => cases sameFrames

/-- A step is made of what a task does when it goes on. -/
def StepEvolves (station : Station) : Prop :=
  ∀ task frame rest outcome, station.loop.running = some (task, outcome) →
    station.loop.frames task = frame :: rest →
      (station.laid task rest).Evolves (station.moved task frame rest outcome).2

/-- A task watches on whatever goes on. -/
theorem Watches.step
    (watches : station.Watches session task)
    (poised : station.Poised)
    (informed : station.Informed)
    (evolves : station.StepEvolves) :
    station.step.Watches session task := by
  cases running : station.loop.running with
  | none =>
      have turned := watches.takeTurn poised.toSound running
      rwa [Station.step, running]
  | some known =>
      obtain ⟨goes, outcome⟩ := known
      cases isTop : station.loop.frames goes with
      | nil =>
          have finished := watches.finish poised running isTop
          rw [Station.step, running]
          dsimp only [Station.goOn]
          rwa [isTop]
      | cons frame rest =>
          have laid : (station.laid goes rest).Informed := informed.withLoop _
          have evolved := evolves goes frame rest outcome running isTop
          by_cases same : task = goes
          · subst same
            cases watches.frames_eq poised running isTop
            exact watches.awaits poised running isTop laid evolved
          · obtain ⟨turns, _⟩ := poised.turns running isTop
            rw [turns.step]
            exact ((watches.laid same rest).evolves laid evolved).follow turns.running same rest _

/-- A new task that waits for a quiet server watches. -/
theorem Sound.watchesNew
    {hand : List Token}
    (sound : station.Sound hand)
    (session : Nat) :
    (station.modifyLoop fun loop => (loop.spawn .work
      [.begin (.awaitFlag (.quiescent session))]).2).Watches session
        station.loop.promises.length := by
  refine ⟨?_, fun stance member isTask => ?_⟩
  · apply sound.heralds station.loop.topic?_length (station.loop.topic?_newPromise_length .work)
      (fun _ _ same => by cases same) (station.loop.outcome?_newPromise_length .work)
    · exact Loop.releases_spawn
    · rfl
    · rfl
  · have spawned : stance ∈ station.loop.stances ++
        [⟨station.loop.promises.length, [.begin (.awaitFlag (.quiescent session))], none⟩] := by
      have isThere : stance ∈ (station.loop.spawn .work
        [.begin (.awaitFlag (.quiescent session))]).2.stances := member
      simpa [Loop.stances, Loop.spawn, Loop.newPromise] using isThere
    rcases List.mem_append.mp spawned with old | isNew
    · obtain ⟨topic, told⟩ := sound.loop.known stance old
      cases (isTask ▸ told).symm.trans station.loop.topic?_length
    · cases List.mem_singleton.mp isNew
      exact .begins _

end Station

end AnalyzerSessions
