import AnalyzerSessions.Proofs.LoopTurns

namespace AnalyzerSessions.Loop

/-!
# Stacks of frames

Turns leave the frames of all tasks as they are, and the running task changes no
frames but its own.  So what the frames of all tasks hold together changes only by
what the running task lays down and takes up.
-/

variable {Frame α : Type}

/-- The frames of each unfinished task. -/
def frameStacks (loop : Loop Frame) : List (Nat × List Frame) :=
  loop.stances.map fun stance => (stance.task, stance.frames)

/-- What the frames of all tasks hold. -/
def gathered (loop : Loop Frame) (holds : Frame → List α) : List α :=
  loop.frameStacks.flatMap fun stack => stack.2.flatMap holds

/-- A stack belongs to a task that waits in some way. -/
theorem mem_frameStacks
    {loop : Loop Frame}
    {task : Nat}
    {frames : List Frame} :
    (task, frames) ∈ loop.frameStacks ↔
      ∃ stance ∈ loop.stances, stance.task = task ∧ stance.frames = frames := by
  simp [frameStacks]

theorem frameStacks_congr
    {before after : Loop Frame}
    (stances : after.stances = before.stances) :
    after.frameStacks = before.frameStacks := by
  rw [frameStacks, frameStacks, stances]

theorem frameStacks_modifyTask
    (loop : Loop Frame)
    (task : Nat)
    (change : Task Frame → Task Frame) :
    (loop.modifyTask task change).frameStacks = loop.tasks.map fun entry =>
      (entry.1, (if entry.1 = task then change entry.2 else entry.2).frames) := by
  simp only [frameStacks, stances, modifyTask, List.map_map]
  refine List.map_congr_left fun entry _ => ?_
  simp only [Function.comp]
  split <;> rfl

theorem frameStacks_modifyTask_of_same
    (loop : Loop Frame)
    (task : Nat)
    {change : Task Frame → Task Frame}
    (same : ∀ state, (change state).frames = state.frames) :
    (loop.modifyTask task change).frameStacks = loop.frameStacks := by
  rw [frameStacks_modifyTask]
  simp only [frameStacks, stances, List.map_map]
  refine List.map_congr_left fun entry _ => ?_
  simp only [Function.comp]
  split
  · rw [same]
  · rfl

theorem frameStacks_setFrames
    (loop : Loop Frame)
    (task : Nat)
    (frames : List Frame) :
    (loop.setFrames task frames).frameStacks = loop.frameStacks.map fun stack =>
      if stack.1 = task then (stack.1, frames) else stack := by
  rw [setFrames, frameStacks_modifyTask]
  simp only [frameStacks, stances, List.map_map]
  refine List.map_congr_left fun entry _ => ?_
  simp only [Function.comp]
  split <;> rfl

/-- The stacks of the others stay when the frames of a task change. -/
theorem mem_frameStacks_setFrames_of_ne
    {loop : Loop Frame}
    {task other : Nat}
    {frames changed : List Frame}
    (different : task ≠ other) :
    (task, frames) ∈ (loop.setFrames other changed).frameStacks ↔
      (task, frames) ∈ loop.frameStacks := by
  rw [frameStacks_setFrames, List.mem_map]
  constructor
  · rintro ⟨stack, isThere, same⟩
    split at same
    · rename_i isOther
      exact (different ((congrArg Prod.fst same).symm.trans isOther)).elim
    · exact same ▸ isThere
  · exact fun isThere => ⟨(task, frames), isThere, if_neg different⟩

/-! ## Turns -/

theorem frameStacks_proceed
    (loop : Loop Frame)
    (task : Nat)
    (awaited : Option Nat)
    (outcome : Outcome) :
    (loop.proceed task awaited outcome).frameStacks = loop.frameStacks := by
  unfold proceed
  split
  · rfl
  · split
    · exact frameStacks_modifyTask_of_same loop task fun _ => rfl
    · rfl

theorem frameStacks_settle
    (loop : Loop Frame)
    (promise : Nat)
    (outcome : Outcome) :
    (loop.settle promise outcome).frameStacks = loop.frameStacks := by
  refine frameStacks_congr ?_
  simp only [stances, tasks_settle]

theorem frameStacks_settleAll
    (loop : Loop Frame)
    (promises : List Nat)
    (outcome : Outcome) :
    (loop.settleAll promises outcome).frameStacks = loop.frameStacks := by
  induction promises generalizing loop with
  | nil =>
      rfl
  | cons promise rest inductionHypothesis =>
      exact (inductionHypothesis _).trans (frameStacks_settle loop promise outcome)

theorem frameStacks_whenSettled
    (loop : Loop Frame)
    (promise : Nat)
    (waiter : Waiter) :
    (loop.whenSettled promise waiter).frameStacks = loop.frameStacks := by
  refine frameStacks_congr ?_
  simp only [stances, tasks_whenSettled]

theorem frameStacks_cancel
    (loop : Loop Frame)
    (promise : Nat) :
    (loop.cancel promise).frameStacks = loop.frameStacks :=
  frameStacks_congr (stances_topic?_cancelWithin _ loop promise).1

theorem frameStacks_spawn
    (loop : Loop Frame)
    (topic : Topic)
    (frames : List Frame) :
    (loop.spawn topic frames).2.frameStacks =
      loop.frameStacks ++ [(loop.promises.length, frames)] := by
  simp [frameStacks, stances, spawn, newPromise]

theorem frameStacks_takeTurn (loop : Loop Frame) :
    loop.takeTurn.frameStacks = loop.frameStacks := by
  unfold takeTurn
  split
  · rfl
  · rename_i turn rest _
    cases turn with
    | begin task =>
        exact frameStacks_proceed { loop with current := rest } task none .done
    | wake task promise =>
        dsimp only [take]
        split
        · exact frameStacks_proceed { loop with current := rest } task _ _
        · rfl
    | release promise =>
        exact frameStacks_settle { loop with current := rest } promise .done

/-! ## The end of a move -/

theorem frameStacks_await
    (loop : Loop Frame)
    (task promise : Nat) :
    (loop.await task promise).frameStacks = loop.frameStacks := by
  unfold await
  split
  · rfl
  · have sameFrames : ∀ state : Task Frame, (state.waitingFor promise).frames = state.frames :=
      fun _ => rfl
    have waits : ((loop.whenSettled promise (.wake task)).modifyTask task
        (Task.waitingFor promise)).pause.frameStacks = loop.frameStacks := by
      exact (frameStacks_modifyTask_of_same _ task sameFrames).trans
        (frameStacks_whenSettled loop promise _)
    split
    · split
      · exact (frameStacks_cancel _ promise).trans waits
      · exact waits
    · exact waits

theorem frameStacks_split
    {loop : Loop Frame}
    {stance : Stance Frame}
    (distinct : (loop.stances.map Stance.task).Nodup)
    (member : stance ∈ loop.stances) :
    ∃ before after, loop.frameStacks = before ++ (stance.task, stance.frames) :: after ∧
      ∀ stack ∈ before ++ after, stack.1 ≠ stance.task := by
  obtain ⟨before, after, same⟩ := List.append_of_mem member
  refine ⟨before.map fun other => (other.task, other.frames),
    after.map fun other => (other.task, other.frames), by simp [frameStacks, same], ?_⟩
  rw [same] at distinct
  simp only [List.map_append, List.map_cons, List.nodup_append, List.nodup_cons,
    List.mem_map, List.mem_cons] at distinct
  obtain ⟨_, ⟨notAfter, _⟩, apart⟩ := distinct
  intro stack isOther sameTask
  rw [← List.map_append] at isOther
  obtain ⟨other, isThere, rfl⟩ := List.mem_map.mp isOther
  rcases List.mem_append.mp isThere with early | late
  · exact apart _ ⟨other, early, rfl⟩ _ (.inl rfl) sameTask
  · exact notAfter ⟨other, late, sameTask⟩

/-- What frames hold changes by what a task lays down and takes up. -/
theorem perm_gathered_setFrames
    [DecidableEq α]
    {loop : Loop Frame}
    {stance : Stance Frame}
    (distinct : (loop.stances.map Stance.task).Nodup)
    (member : stance ∈ loop.stances)
    (frames : List Frame)
    (holds : Frame → List α) :
    (frames.flatMap holds ++ loop.gathered holds).Perm
      (stance.frames.flatMap holds ++
        (loop.setFrames stance.task frames).gathered holds) := by
  obtain ⟨before, after, same, others⟩ := frameStacks_split distinct member
  have unchanged : ∀ part : List (Nat × List Frame), (∀ stack ∈ part, stack ∈ before ++ after) →
      (part.map fun stack => if stack.1 = stance.task then (stack.1, frames) else stack) =
        part := by
    intro part among
    refine (List.map_congr_left fun stack isThere => ?_).trans (List.map_id _)
    exact if_neg (others stack (among stack isThere))
  have changed : (loop.setFrames stance.task frames).frameStacks =
      before ++ (stance.task, frames) :: after := by
    rw [frameStacks_setFrames, same, List.map_append, List.map_cons, if_pos rfl,
      unchanged before fun _ => List.mem_append_left _,
      unchanged after fun _ => List.mem_append_right _]
  unfold gathered
  rw [changed, same]
  refine List.perm_iff_count.mpr fun token => ?_
  simp only [List.flatMap_append, List.flatMap_cons, List.count_append]
  omega

/-- What is held when a task lays its innermost frame down, apart from what that frame held. -/
theorem perm_gathered_layDown
    [DecidableEq α]
    {loop : Loop Frame}
    {stance : Stance Frame}
    {frame : Frame}
    {rest : List Frame}
    (distinct : (loop.stances.map Stance.task).Nodup)
    (member : stance ∈ loop.stances)
    (isTop : stance.frames = frame :: rest)
    (holds : Frame → List α) :
    (holds frame ++ (loop.setFrames stance.task rest).gathered holds).Perm
      (loop.gathered holds) := by
  have swapped := perm_gathered_setFrames distinct member rest holds
  rw [isTop, List.flatMap_cons] at swapped
  refine ((List.perm_append_left_iff (rest.flatMap holds)).mp (swapped.trans ?_)).symm
  rw [← List.append_assoc]
  exact List.perm_append_comm.append_right _

/-- What is held when a task takes frames up, which hold something themselves. -/
theorem perm_gathered_takeUp
    [DecidableEq α]
    {loop : Loop Frame}
    {stance : Stance Frame}
    (distinct : (loop.stances.map Stance.task).Nodup)
    (member : stance ∈ loop.stances)
    (frames : List Frame)
    (holds : Frame → List α) :
    ((loop.setFrames stance.task (frames ++ stance.frames)).gathered holds).Perm
      (frames.flatMap holds ++ loop.gathered holds) := by
  have swapped := perm_gathered_setFrames distinct member (frames ++ stance.frames) holds
  rw [List.flatMap_append] at swapped
  refine ((List.perm_append_left_iff (stance.frames.flatMap holds)).mp
    (List.Perm.trans ?_ swapped)).symm
  rw [← List.append_assoc]
  exact List.perm_append_comm.append_right _

/-- Items that come to nothing may be left out. -/
theorem flatMap_filter_of_nil
    {β : Type}
    {keep : β → Bool}
    {parts : β → List α}
    {items : List β}
    (nothing : ∀ item ∈ items, keep item = false → parts item = []) :
    (items.filter keep).flatMap parts = items.flatMap parts := by
  induction items with
  | nil =>
      rfl
  | cons item rest inductionHypothesis =>
      have restSame := inductionHypothesis fun other member =>
        nothing other (List.mem_cons_of_mem item member)
      cases kept : keep item with
      | true =>
          simp [kept, restSame]
      | false =>
          simp [kept, restSame, nothing item List.mem_cons_self kept]

/-- When a task ends, its stack goes. -/
theorem frameStacks_finish
    (loop : Loop Frame)
    (task : Nat)
    (outcome : Outcome) :
    (loop.finish task outcome).frameStacks =
      loop.frameStacks.filter fun stack => stack.1 != task := by
  simp only [frameStacks, stances, finish, pause, dropTask, tasks_settle, List.map_map,
    List.filter_map]
  rfl

/-- What frames hold does not change when a task without frames ends. -/
theorem gathered_finish
    {loop : Loop Frame}
    {task : Nat}
    (bare : ∀ stance ∈ loop.stances, stance.task = task → stance.frames = [])
    (outcome : Outcome)
    (holds : Frame → List α) :
    (loop.finish task outcome).gathered holds = loop.gathered holds := by
  have nothing : ∀ stack ∈ loop.frameStacks, (stack.1 != task) = false →
      stack.2.flatMap holds = [] := by
    rintro ⟨number, frames⟩ isThere isTask
    obtain ⟨stance, member, rfl, rfl⟩ := mem_frameStacks.mp isThere
    rw [bare stance member (by simpa using isTask)]
    rfl
  unfold gathered
  rw [frameStacks_finish, flatMap_filter_of_nil nothing]

/-! ## What lasts -/

theorem lasts_setFrames
    {loop : Loop Frame}
    {task : Nat}
    {outcome : Outcome}
    (running : loop.running = some (task, outcome))
    (frames : List Frame) :
    loop.Lasts (loop.setFrames task frames) := by
  refine lasts_of_running running (fun _ => rfl) (fun settled => settled) ?_ ?_
  · intro other different
    have asideNow : (loop.setFrames task frames).IsAside other := isAside_of_ne running different
    exact ⟨asideNow, rfl, fun state member => mem_tasks_of_ne different member⟩
  · intro doomed
    refine ⟨doomed.draining, doomed.quiet, fun unsettled => .going ?_⟩
    have isRunning : (loop.setFrames task frames).running = some (task, outcome) := running
    rw [isRunning, doomed.going running unsettled]

end AnalyzerSessions.Loop
