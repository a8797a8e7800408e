import AnalyzerSessions.Proofs.MoveRules

namespace AnalyzerSessions

/-!
# Changes of sound stations

Everything that is done at a station is put together from a few kinds of changes: of
the loop, of a process, of a run or its client, of what is on the desk, and of
the record.  Each of them keeps a station sound, and nothing that stays is lost.
-/

/-- Every job is something that a task may be about. -/
theorem Job.isErrand_topic (job : Job) : job.topic.IsErrand := by
  cases job <;> trivial

namespace Station

open Move (Comes)

variable {hand : List Token} {station : Station}

/-- The loop of a sound station fits what comes later. -/
theorem Sound.loopLater
    {after : Station}
    (sound : station.Sound hand)
    (lasts : station.Lasts after) :
    station.loop.Fits after.Holds after.Rests :=
  sound.loop.mono (fun _ _ => lasts.holds) fun _ => lasts.rests

/-! ## The loop -/

theorem lasts_modifyLoop
    {change : Loop Frame → Loop Frame}
    (lasts : station.loop.Lasts (change station.loop)) :
    station.Lasts (station.modifyLoop change) :=
  { Lasts.refl station with loop := lasts }

/-- A station goes on when its loop grows. -/
theorem onward_modifyLoop
    {change : Loop Frame → Loop Frame}
    (grows : station.loop.Grows (change station.loop)) :
    station.Onward (station.modifyLoop change) :=
  ⟨lasts_modifyLoop grows.toLasts, grows⟩

/-- The loop of a station may change as long as it fits and its frames do, and what they hold changes
only by what comes into the hand or out of it. -/
theorem Sound.reloop
    {change : Loop Frame → Loop Frame}
    {other : List Token}
    (sound : station.Sound hand)
    (lasts : station.loop.Lasts (change station.loop))
    (fits : (change station.loop).Fits (station.modifyLoop change).Holds
      (station.modifyLoop change).Rests)
    (topics : ∀ {task session}, (change station.loop).topic? task = some (.run session) →
      station.loop.topic? task = some (.run session))
    (balanced : (other ++ (station.modifyLoop change).held).Perm (hand ++ station.held))
    (frames : ∀ stance ∈ (change station.loop).stances, ∀ frame ∈ stance.frames,
      station.FrameFits frame) :
    (station.modifyLoop change).Sound other := by
  have lastsNow := lasts_modifyLoop lasts
  refine ⟨fits, ?_, ?_, ⟨sound.desk.numbered, sound.desk.silent⟩, ?_, ?_, ?_⟩
  · exact sound.processesFit lastsNow rfl
  · exact sound.runsFit lastsNow rfl (fun _ => id) topics
  · exact sound.taleFits lastsNow rfl (fun _ => id) (fun _ => rfl)
      fun _ _ _ pends => .waits (pends.of_runs_eq rfl)
  · have balancedBefore := sound.balanced
    unfold Balanced at balancedBefore ⊢
    rw [← List.append_assoc] at balancedBefore ⊢
    exact (balanced.append_right _).trans balancedBefore
  · exact fun stance member frame isFrame =>
      (frames stance member frame isFrame).later (fun _ => id) List.prefix_rfl

/-- The loop of a station may grow by tasks that hold no tokens. -/
theorem Sound.modifyLoop
    {change : Loop Frame → Loop Frame}
    {new : List (Stance Frame)}
    (sound : station.Sound hand)
    (grows : station.loop.Grows (change station.loop))
    (fits : (change station.loop).Fits (station.modifyLoop change).Holds
      (station.modifyLoop change).Rests)
    (topics : ∀ {task session}, (change station.loop).topic? task = some (.run session) →
      station.loop.topic? task = some (.run session))
    (stances : (change station.loop).stances = station.loop.stances ++ new)
    (free : ∀ stance ∈ new, ∀ frame ∈ stance.frames, frame.tokens = []) :
    Comes hand station (station.modifyLoop change) := by
  have noTokens : (new.flatMap fun stance => stance.frames.flatMap Frame.tokens) = [] := by
    refine List.flatMap_eq_nil_iff.mpr fun stance member => ?_
    exact List.flatMap_eq_nil_iff.mpr (free stance member)
  have held : (station.modifyLoop change).held = station.held := by
    show ((change station.loop).stances.flatMap _) = _
    rw [stances, List.flatMap_append, noTokens, List.append_nil]
    rfl
  refine ⟨sound.reloop grows.toLasts fits topics ?_ fun stance member frame isFrame => ?_,
    onward_modifyLoop grows⟩
  · rw [held]
  · have either : stance ∈ station.loop.stances ++ new := stances ▸ member
    rcases List.mem_append.mp either with old | isNew
    · exact sound.frames stance old frame isFrame
    · exact .of_free (free stance isNew frame isFrame)

/-- The loop of a station may grow while its tasks wait as they did. -/
theorem Sound.modifyLoop_of_same
    {change : Loop Frame → Loop Frame}
    (sound : station.Sound hand)
    (grows : station.loop.Grows (change station.loop))
    (fits : (change station.loop).Fits (station.modifyLoop change).Holds
      (station.modifyLoop change).Rests)
    (topics : ∀ promise, (change station.loop).topic? promise = station.loop.topic? promise)
    (stances : (change station.loop).stances = station.loop.stances) :
    Comes hand station (station.modifyLoop change) := by
  refine sound.modifyLoop grows fits (fun told => (topics _).symm.trans told)
    (stances.trans (List.append_nil _).symm) ?_
  intro stance member
  cases member

/-- There may be a new promise. -/
theorem Sound.newPromise
    {topic : Topic}
    (sound : station.Sound hand)
    (ordinary : ¬topic.IsSteady) :
    Comes hand station (station.modifyLoop fun loop => (loop.newPromise topic).2) := by
  have grows := station.loop.grows_newPromise topic
  refine sound.modifyLoop grows ?_ ?_ (List.append_nil _).symm ?_
  · exact (sound.loopLater (onward_modifyLoop grows).toLasts).newPromise (holds_cancelled ordinary)
  · intro task session told
    rw [Loop.topic?_newPromise] at told
    split at told
    · cases told
      exact (ordinary trivial).elim
    · exact told
  · intro stance member
    cases member

/-- A task may be given a job that is not the run of a server. -/
theorem Sound.spawn
    {job : Job}
    (sound : station.Sound hand)
    (admitted : station.Admits job)
    (ordinary : ¬job.topic.IsSteady) :
    Comes hand station
      (station.modifyLoop fun loop => (loop.spawn job.topic [.begin job]).2) := by
  have grows := station.loop.grows_spawn job.topic [.begin job]
  have onward : station.Onward
      (station.modifyLoop fun loop => (loop.spawn job.topic [.begin job]).2) :=
    onward_modifyLoop grows
  have told : (station.loop.spawn job.topic [.begin job]).2.topic? station.loop.promises.length =
      some job.topic := by
    show (station.loop.newPromise job.topic).2.topic? station.loop.promises.length = _
    rw [Loop.topic?_newPromise, if_pos rfl]
  have stances : (station.loop.spawn job.topic [.begin job]).2.stances =
      station.loop.stances ++ [⟨station.loop.promises.length, [.begin job], none⟩] := by
    simp [Loop.stances, Loop.spawn, Loop.newPromise]
  refine sound.modifyLoop grows ?_ ?_ stances ?_
  · refine (sound.loopLater onward.toLasts).spawn ?_
    refine ⟨job.topic, .tick, told, job.isErrand_topic, ?_, fun _ => rfl, ?_⟩
    · exact (Takes.begin (onward.admits admitted)).reaches
    · intro promise waits
      cases waits
  · intro task session isRun
    have isRunNow : (station.loop.newPromise job.topic).2.topic? task = some (.run session) := isRun
    rw [Loop.topic?_newPromise] at isRunNow
    split at isRunNow
    · rw [Option.some.inj isRunNow] at ordinary
      exact (ordinary trivial).elim
    · exact isRunNow
  · intro stance member frame isFrame
    cases List.mem_singleton.mp member
    cases List.mem_singleton.mp isFrame
    cases job with
    | runServer session =>
        exact (ordinary trivial).elim
    | _ =>
        rfl

/-- A promise that does not tell the end of a log may be settled with what its outcome tells. -/
theorem Sound.settle
    {promise : Nat}
    {topic : Topic}
    {outcome : Outcome}
    (sound : station.Sound hand)
    (told : station.loop.topic? promise = some topic)
    (other : topic ≠ .draining)
    (tells : station.Holds topic outcome) :
    Comes hand station (station.modifyLoop fun loop => loop.settle promise outcome) := by
  have grows : station.loop.Grows (station.loop.settle promise outcome) := by
    refine Loop.grows_settle fun draining => ?_
    cases told.symm.trans draining
    exact (other rfl).elim
  have onward : station.Onward (station.modifyLoop fun loop => loop.settle promise outcome) :=
    onward_modifyLoop grows
  refine sound.modifyLoop_of_same grows ?_ (Loop.topic?_settle _ _ _) ?_
  · refine (sound.loopLater onward.toLasts).settle fun known isKnown => ?_
    cases told.symm.trans isKnown
    exact onward.holds tells
  · simp only [Loop.stances, Loop.tasks_settle]

/-- Promises may be settled with what their outcome tells on the topic of each. -/
theorem Sound.settleAll
    {promises : List Nat}
    {outcome : Outcome}
    (sound : station.Sound hand)
    (tells : ∀ promise ∈ promises, ∃ topic, station.loop.topic? promise = some topic ∧
      topic ≠ .draining ∧ station.Holds topic outcome) :
    Comes hand station (station.modifyLoop fun loop => loop.settleAll promises outcome) := by
  induction promises generalizing station with
  | nil =>
      exact .refl sound
  | cons promise rest inductionHypothesis =>
      obtain ⟨topic, told, other, holds⟩ := tells promise List.mem_cons_self
      have first := sound.settle told other holds
      refine first.trans (inductionHypothesis first.sound fun later member => ?_)
      obtain ⟨topic, told, other, holds⟩ := tells later (List.mem_cons_of_mem promise member)
      exact ⟨topic, first.onward.loop.topics told, other, first.onward.holds holds⟩

/-- A promise that tells that something has happened may be settled together with another one. -/
theorem Sound.whenSettled
    {other : Nat}
    (sound : station.Sound hand)
    (promise : Nat)
    (isTick : station.loop.topic? other = some .tick) :
    Comes hand station
      (station.modifyLoop fun loop => loop.whenSettled promise (.release other)) := by
  have grows := station.loop.grows_whenSettled promise (.release other)
  refine sound.modifyLoop_of_same grows ?_ (Loop.topic?_whenSettled _ _ _) ?_
  · refine (sound.loopLater (onward_modifyLoop grows).toLasts).whenSettled fun promise same => ?_
    cases same
    exact isTick
  · simp only [Loop.stances, Loop.tasks_whenSettled]

/-- A promise that tells that something has happened may be settled by a timer. -/
theorem Sound.settleAfter
    {promise : Nat}
    (sound : station.Sound hand)
    (isTick : station.loop.topic? promise = some .tick)
    (seconds : Number.Binary64) :
    Comes hand station (station.modifyLoop fun loop => loop.settleAfter promise seconds) := by
  have grows : station.loop.Grows (station.loop.settleAfter promise seconds) :=
    Loop.grows_timers _ _
  refine sound.modifyLoop_of_same grows ?_ (fun _ => rfl) rfl
  exact (sound.loopLater (onward_modifyLoop grows).toLasts).settleAfter seconds isTick

/-- A timer may be cancelled. -/
theorem Sound.cancelTimer
    (sound : station.Sound hand)
    (promise : Nat) :
    Comes hand station (station.modifyLoop fun loop => loop.cancelTimer promise) := by
  have grows : station.loop.Grows (station.loop.cancelTimer promise) :=
    Loop.grows_timers _ _
  refine sound.modifyLoop_of_same grows ?_ (fun _ => rfl) rfl
  exact (sound.loopLater (onward_modifyLoop grows).toLasts).cancelTimer promise

/-- A promise or a task may be cancelled. -/
theorem Sound.cancel
    (sound : station.Sound hand)
    (promise : Nat) :
    Comes hand station (station.modifyLoop fun loop => loop.cancel promise) := by
  have grows := station.loop.grows_cancel promise
  obtain ⟨stances, topics⟩ :=
    Loop.stances_topic?_cancelWithin (station.loop.tasks.length + 1) station.loop promise
  refine sound.modifyLoop_of_same grows ?_ topics stances
  exact (sound.loopLater (onward_modifyLoop grows).toLasts).cancel promise

/-! ## The desk -/

/-- What is on the desk may change as long as the manager is at rest, and sessions stay what they
are. -/
theorem Sound.withDesk
    {desk : Desk}
    (sound : station.Sound hand)
    (numbered : desk.ledger.Numbered)
    (silent : desk.orders = [])
    (sessions : station.desk.ledger.Lasts desk.ledger)
    (launches : Nat) :
    Comes hand station { station with desk, launches } := by
  have onward : station.Onward { station with desk, launches } :=
    ⟨{ Lasts.refl station with sessions }, .refl station.loop⟩
  exact ⟨⟨sound.loopFits onward.toLasts rfl, sound.processesFit onward.toLasts rfl,
    sound.runsFit onward.toLasts rfl (fun _ => id) id, ⟨numbered, silent⟩,
    sound.taleFits onward.toLasts rfl (fun _ => id) (fun _ => rfl)
      (fun _ _ _ pends => .waits (pends.of_runs_eq rfl)), sound.balanced,
    sound.framesFit onward.toLasts (fun _ => id) fun stance member frame isFrame =>
      .inr ⟨stance, member, isFrame⟩⟩,
    onward⟩

/-- What the ledger does not notice may change on the desk. -/
theorem Sound.withPapers
    {desk : Desk}
    (sound : station.Sound hand)
    (same : desk.ledger = station.desk.ledger)
    (silent : desk.orders = [])
    (launches : Nat) :
    Comes hand station { station with desk, launches } := by
  refine sound.withDesk ?_ silent ?_ launches
  · exact same ▸ sound.desk.numbered
  · exact Ledger.lasts_of_entries_eq (by rw [same])

/-! ## Processes -/

/-- A station goes on when a process changes that stays gone when it was. -/
theorem onward_modifyProcess
    {number : Nat}
    {change : ServerProcess → ServerProcess}
    (exits : ∀ process code, station.process? number = some process →
      process.exitCode = some code → (change process).exitCode = some code)
    (received : ∀ process, process.received ⊆ (change process).received) :
    station.Onward (station.modifyProcess number change) := by
  refine ⟨{ Lasts.refl station with processes := ?_ }, .refl station.loop⟩
  intro other process found
  rw [process?_modifyProcess, found]
  by_cases same : other = number
  · subst same
    refine ⟨change process, by simp, fun code => exits process code found, received process⟩
  · exact ⟨process, by simp [same], fun _ => id, List.Subset.refl _⟩

/-- A process may change that stays gone when it was, and whoever waits for it is told. -/
theorem Sound.modifyProcess
    {number : Nat}
    {change : ServerProcess → ServerProcess}
    (sound : station.Sound hand)
    (exits : ∀ process code, station.process? number = some process →
      process.exitCode = some code → (change process).exitCode = some code)
    (received : ∀ process, process.received ⊆ (change process).received)
    (fits : ∀ process, station.ProcessFits number process →
      station.ProcessFits number (change process)) :
    Comes hand station (station.modifyProcess number change) := by
  have onward := onward_modifyProcess exits received
  refine ⟨⟨sound.loopFits onward.toLasts rfl, ?_,
    sound.runsFit onward.toLasts rfl (fun _ => id) id, ⟨sound.desk.numbered, sound.desk.silent⟩,
    sound.taleFits onward.toLasts rfl (fun _ => id) (fun _ => rfl)
      (fun _ _ _ pends => .waits (pends.of_runs_eq rfl)), sound.balanced,
    sound.framesFit onward.toLasts (fun _ => id) fun stance member frame isFrame =>
      .inr ⟨stance, member, isFrame⟩⟩,
    onward⟩
  intro entry member
  obtain ⟨old, isThere, rfl⟩ := List.mem_map.mp member
  have fitted := sound.processes old isThere
  split
  · rename_i same
    exact onward.processFits (same ▸ fits old.2 (same ▸ fitted))
  · exact onward.processFits fitted

/-- The process that is found fits. -/
theorem Sound.processFits
    {number : Nat}
    {process : ServerProcess}
    (sound : station.Sound hand)
    (found : station.process? number = some process) :
    station.ProcessFits number process :=
  sound.processes _ (mem_of_process? found)

/-- The reader of a channel may go on, and does not wait any more. -/
theorem Sound.wakeReader
    {channel : Channel}
    (sound : station.Sound hand)
    (told : ∀ promise, channel.reader = some promise →
      station.loop.topic? promise = some .tick) :
    Comes hand station (station.wakeReader channel).1 ∧
      (station.wakeReader channel).2.reader = none := by
  unfold Station.wakeReader
  split
  · rename_i nobody
    exact ⟨.refl sound, nobody⟩
  · rename_i promise reads
    exact ⟨sound.settle (told promise reads) (by simp) (isQuiet_ok _), rfl⟩

/-- The stream of what a process sends may change. -/
theorem Sound.changeOutput
    (sound : station.Sound hand)
    (number : Nat)
    (change : Wire.Stream → Wire.Stream) :
    Comes hand station (station.changeOutput number change) := by
  unfold Station.changeOutput
  split
  · exact .refl sound
  · rename_i process found
    obtain ⟨woken, nobody⟩ := sound.wakeReader (sound.processFits found).output
    refine woken.trans (woken.sound.modifyProcess (fun _ _ _ => id) (fun _ => List.Subset.refl _) ?_)
    refine fun known fits => ⟨fun promise reads => ?_, fits.errors, fits.exit⟩
    cases nobody.symm.trans reads

/-- The stream of what a process logs may change. -/
theorem Sound.changeErrors
    (sound : station.Sound hand)
    (number : Nat)
    (change : Wire.Stream → Wire.Stream) :
    Comes hand station (station.changeErrors number change) := by
  unfold Station.changeErrors
  split
  · exact .refl sound
  · rename_i errors found
    obtain ⟨process, isThere, logs⟩ := Option.bind_eq_some_iff.mp found
    obtain ⟨woken, nobody⟩ :=
      sound.wakeReader fun promise => (sound.processFits isThere).errors errors promise logs
    refine woken.trans (woken.sound.modifyProcess (fun _ _ _ => id) (fun _ => List.Subset.refl _) ?_)
    refine fun known fits => ⟨fits.output, fun channel promise logsNow reads => ?_, fits.exit⟩
    cases logsNow
    cases nobody.symm.trans reads

/-- A process may exit, and everyone who waits for that is told so. -/
theorem Sound.exitProcess
    (sound : station.Sound hand)
    (number : Nat)
    (code : Int) :
    Comes hand station (station.exitProcess number code) := by
  unfold Station.exitProcess
  split
  · exact .refl sound
  · rename_i process found
    split
    · exact .refl sound
    · rename_i here
      have running : process.exitCode = none := by
        simpa [ServerProcess.hasExited] using here
      have marked : Comes hand station (station.modifyProcess number fun process =>
          { process with exitCode := some code, exitWaiters := [] }) := by
        refine sound.modifyProcess ?_ (fun _ => List.Subset.refl _) ?_
        · intro known given isThere exited
          cases found.symm.trans isThere
          cases running.symm.trans exited
        · refine fun known fits => ⟨fits.output, fits.errors, fun promise member => ?_⟩
          cases member
      have exited : (station.modifyProcess number fun process =>
          { process with exitCode := some code, exitWaiters := [] }).HasExited number code := by
        refine ⟨{ process with exitCode := some code, exitWaiters := [] }, ?_, rfl⟩
        rw [process?_modifyProcess, found]
        simp
      have output := marked.sound.changeOutput number .finish
      have ended := (marked.trans output).trans (output.sound.changeErrors number .finish)
      have still := (output.trans (output.sound.changeErrors number .finish)).onward.hasExited exited
      refine ended.trans (ended.sound.settleAll fun promise member => ?_)
      have told := (sound.processFits found).exit promise member
      exact ⟨_, ended.onward.loop.topics told, nofun, code, rfl, still⟩

/-- A process may be sent a signal, and has been sent it then. -/
theorem Sound.signal
    (sound : station.Sound hand)
    (number : Nat)
    (sent : Signal) :
    Comes hand station (station.signal number sent) ∧
      ((∃ known, station.process? number = some known) →
        (station.signal number sent).WasSent number sent) := by
  unfold Station.signal
  split
  · rename_i missing
    refine ⟨.refl sound, fun known => ?_⟩
    obtain ⟨process, found⟩ := known
    cases missing.symm.trans found
  · rename_i process found
    have noted : Comes hand station (station.modifyProcess number fun process =>
        { process with received := process.received ++ [sent] }) := by
      refine sound.modifyProcess (fun _ _ _ => id) (fun known => List.subset_append_left _ _) ?_
      exact fun known fits => ⟨fits.output, fits.errors, fits.exit⟩
    have wasSent : (station.modifyProcess number fun process =>
        { process with received := process.received ++ [sent] }).WasSent number sent := by
      refine ⟨{ process with received := process.received ++ [sent] }, ?_, by simp⟩
      rw [process?_modifyProcess, found]
      simp
    split
    · exact ⟨noted, fun _ => wasSent⟩
    · have ended := noted.sound.exitProcess number sent.exitCode
      exact ⟨noted.trans ended, fun _ => ended.onward.wasSent wasSent⟩

/-- A process may do things one after the other. -/
theorem Sound.doReactions
    (sound : station.Sound hand)
    (number : Nat)
    (reactions : List Reaction) :
    Comes hand station
      (reactions.foldl (fun station reaction => station.doReaction number reaction) station) := by
  induction reactions generalizing station with
  | nil =>
      exact .refl sound
  | cons reaction rest inductionHypothesis =>
      have first : Comes hand station (station.doReaction number reaction) := by
        cases reaction with
        | send message =>
            exact sound.changeOutput number fun stream => stream.feed (Wire.frame message)
        | exit code =>
            exact sound.exitProcess number code
      exact first.trans (inductionHypothesis first.sound)

/-- A process may react to a message. -/
theorem Sound.react
    (sound : station.Sound hand)
    (number : Nat)
    (message : Json) :
    Comes hand station (station.react number message) := by
  unfold Station.react
  split
  · exact .refl sound
  · exact sound.doReactions number _

end Station

end AnalyzerSessions
