import AnalyzerSessions.Proofs.CorrelatedCalls

namespace AnalyzerSessions

/-!
# Released calls

A client expects nothing more of its server when it was closed, and when its reading
has ended by itself.  Both put that on record, after they have settled every call that
waits among the unanswered ones.  A call that was issued before then has nothing to
wait for, unless it had been taken from the unanswered ones without being settled: an
answer with an error member that is no object does that.
-/

namespace Station

/-- The client of a session was closed in this moment: nobody waits for an answer, nor for the server
to have nothing left to do. -/
structure IsDismissed (station : Station) (session : Nat) : Prop where
  recorded : ∃ before, station.chronicle = before ++ [.hungUp session none]
  client : ∃ client, station.client? session = some client ∧ client.pending = [] ∧
    client.quiescent.isSet = true

end Station

namespace Move

variable {station : Station} {session : Nat}

/-! ## Closing -/

/-- What a move of the closing of a client comes to: it waits for a task that it has cancelled, or it
has dismissed everyone. -/
inductive Closes (session : Nat) : Next × Station → Prop where
  | goesOn {task : Nat} {others : List Nat} {after : Station} :
      Closes session ((Next.await task).into (.closing session others), after)
  | ends {after : Station} (dismissed : after.IsDismissed session) :
      Closes session (.done, after)

theorem closes_dismiss (present : station.HasClient session) :
    Closes session (make (dismiss session) station) := by
  obtain ⟨client, found⟩ := present
  unfold dismiss
  rw [make_bind (perform_failPending found .serverExited)]
  exact .ends ⟨⟨_, rfl⟩, _, client?_dismissed found, rfl, rfl⟩

theorem closes_closeTasks
    (present : station.HasClient session)
    (tasks : List Nat) :
    Closes session (make (closeTasks session tasks) station) := by
  induction tasks with
  | nil =>
      exact closes_dismiss present
  | cons task rest inductionHypothesis =>
      show Closes session (make
        (if station.loop.isSettled task then closeTasks session rest
        else do
          modifyLoop fun loop => loop.cancel task
          return (Next.await task).into (.closing session rest)) station)
      split
      · exact inductionHypothesis
      · exact .goesOn

/-- However a client comes to be closed, by its user or at the end of a run, the closing goes on or
ends well. -/
theorem closes_closeClient (present : station.HasClient session) :
    Closes session (make (closeClient session) station) := by
  obtain ⟨client, found⟩ := present
  unfold closeClient
  rw [make_bind (perform_client found)]
  exact closes_closeTasks ⟨client, found⟩ _

/-! ## Reading -/

/-- What a move of the reading comes to: it goes on in a frame that reads, it was cancelled, or it has
ended and put that on record. -/
inductive Reads (session : Nat) : Next × Station → Prop where
  | goesOn {next : Next} {frame : Frame} {phase : Wire.ReadPhase} {after : Station}
      (reads : frame.phase? session = some phase) :
      Reads session (next.into frame, after)
  | cancelled {after : Station} :
      Reads session (.fail .cancelled, after)
  | ends {failure : Failure} {after : Station}
      (recorded : ∃ before, after.chronicle = before ++ [.hungUp session (some failure)]) :
      Reads session (.done, after)

theorem reads_endReading
    (present : station.HasClient session)
    (failure : Failure) :
    Reads session (make (endReading session failure) station) := by
  obtain ⟨client, found⟩ := present
  by_cases isCancelled : failure = .cancelled
  · subst isCancelled
    exact .cancelled
  · obtain ⟨log, made⟩ := make_endReading found isCancelled
    rw [made]
    exact .ends ⟨_, rfl⟩

/-- Reading waits for bytes, handles a message, or ends. -/
theorem reads_readOn
    {client : Client}
    {process : ServerProcess}
    (found : station.client? session = some client)
    (talks : station.process? client.process = some process)
    (phase : Wire.ReadPhase) :
    Reads session (make (readOn session phase) station) := by
  have isProcess : station.clientProcess? session = some process := by
    unfold Station.clientProcess?
    rw [found]
    exact talks
  have present : ∀ change, (station.modifyProcess client.process change).HasClient session :=
    fun _ => ⟨client, found⟩
  unfold readOn
  rw [make_get_bind, isProcess]
  dsimp only
  split
  · rename_i next stream _
    rw [make_bind (perform_modifyOutput found _)]
    split
    · exact reads_endReading (present _) _
    · generalize isMid : station.modifyProcess client.process _ = mid
      have foundNow : mid.client? session = some client := isMid ▸ found
      obtain ⟨promise, loop, promised⟩ : ∃ promise loop,
          perform (newPromise .tick) mid = (.ok promise, { mid with loop }) := ⟨_, _, rfl⟩
      have foundLate : ({ mid with loop } : Station).client? session = some client := foundNow
      rw [make_bind promised, make_bind (perform_modifyOutput foundLate _)]
      exact .goesOn (if_pos rfl)
  · rw [make_bind (perform_modifyOutput found _)]
    exact reads_endReading (present _) _
  · rw [make_bind (perform_modifyOutput found _), make_into]
    exact .goesOn (if_pos rfl)

/-- Each frame that reads goes on reading, whatever the message came to that it handled. -/
theorem reads_resume
    {frame : Frame}
    {phase : Wire.ReadPhase}
    {wanted given : Topic}
    {outcome : Outcome}
    {client : Client}
    {process : ServerProcess}
    (reads : frame.phase? session = some phase)
    (taken : station.Takes frame wanted given)
    (told : station.Holds wanted outcome)
    (found : station.client? session = some client)
    (talks : station.process? client.process = some process) :
    Reads session (make (resume frame outcome) station) := by
  rcases Frame.phase?_eq_some reads with ⟨rfl, rfl⟩ | rfl | ⟨rfl, rfl⟩
  · cases taken with
    | begin _ =>
        cases outcome with
        | ok value =>
            exact reads_readOn found talks .initial
        | error failure =>
            -- A reader that never began was cancelled.
            cases told failure rfl
            exact .cancelled
    | plain isPlain =>
        exact isPlain.elim
  · show Reads session (make (afterBytes session phase outcome) station)
    unfold afterBytes
    rw [make_bind (perform_modifyOutput found _)]
    have talksNow := (station.process?_modifyProcess client.process client.process
      fun process => { process with output := { process.output with reader := none } }).trans
        (congrArg (Option.map _) talks)
    generalize isMid : station.modifyProcess client.process _ = mid at talksNow ⊢
    have foundNow : mid.client? session = some client := isMid ▸ found
    cases outcome with
    | ok value =>
        exact reads_readOn foundNow talksNow phase
    | error failure =>
        exact reads_endReading ⟨client, foundNow⟩ failure
  · show Reads session (make (afterMessage session outcome) station)
    cases outcome with
    | ok value =>
        exact reads_readOn found talks .initial
    | error failure =>
        exact reads_endReading ⟨client, found⟩ failure

end Move

namespace Station

theorem Takes.hasClient
    {station : Station}
    {session : Nat}
    {frame : Frame}
    {phase : Wire.ReadPhase}
    {wanted given : Topic}
    (taken : station.Takes frame wanted given)
    (reads : frame.phase? session = some phase) :
    station.HasClient session := by
  rcases Frame.phase?_eq_some reads with ⟨rfl, rfl⟩ | rfl | ⟨rfl, rfl⟩
  · cases taken with
    | begin admitted => exact admitted
    | plain isPlain => exact isPlain.elim
  · cases taken with
    | reading present => exact present
    | plain isPlain => exact isPlain.elim
  · cases taken with
    | handled present => exact present
    | plain isPlain => exact isPlain.elim

/-- A frame goes on with the closing of the client of a session. -/
inductive IsClosing (station : Station) (session : Nat) : Frame → Outcome → Prop where
  | begin (present : station.HasClient session) (value : Value) :
      IsClosing station session (.begin (.closeClient session)) (.ok value)
  | closing (others : List Nat) (outcome : Outcome) :
      IsClosing station session (.closing session others) outcome

/-- Where a task has come to that closes the client of a session in front of other frames: it closes
on, or it is through, and everyone was dismissed in this moment. -/
inductive InClosing (station : Station) (task session : Nat) (rest : List Frame) : Prop where
  | goesOn {others : List Nat}
      (isTop : station.loop.frames task = .closing session others :: rest)
  | isOver
      (told : station.loop.running = some (task, .done))
      (behind : station.loop.frames task = rest)
      (dismissed : station.IsDismissed session)

/-- Where a task has come to that reads for a session in front of other frames: it reads on, it was
cancelled, or the reading has ended by itself in this moment. -/
inductive InReading (station : Station) (task session : Nat) (rest : List Frame) : Prop where
  | goesOn {more : List Frame} {frame : Frame} {phase : Wire.ReadPhase}
      (isBehind : station.loop.frames task = more ++ frame :: rest)
      (reads : frame.phase? session = some phase)
  | cancelled (told : station.loop.running = some (task, .cancelled))
  | isOver {failure : Failure}
      (told : station.loop.running = some (task, .done))
      (behind : station.loop.frames task = rest)
      (recorded : ∃ before, station.chronicle = before ++ [.hungUp session (some failure)])

/-- Nobody waits in vain when nothing more is expected from a server. -/
structure ReleasesCalls (station : Station) : Prop where
  /-- A call that was issued before then is over, or its promise is settled, unless an answer arrived
  for it of which the error member is no object. -/
  released : ∀ before session cause after,
    station.chronicle = before ++ .hungUp session cause :: after →
      ∀ number, .issued session number ∈ before →
        station.IsResolved session number ∨ station.IsLost session number
  /-- The closing of a client begins well, now and later, and whoever closes it. -/
  closes : ∀ later session, station.Lasts later → later.HasClient session →
    Move.Closes session (Move.make (Move.closeClient session) later)
  /-- Each step of the closing of a client goes on with it, or ends it with everyone dismissed. -/
  closing : ∀ task frame rest session outcome, station.loop.running = some (task, outcome) →
    station.loop.frames task = frame :: rest → station.IsClosing session frame outcome →
      station.step.InClosing task session rest
  /-- Each step of the reading goes on with it, or ends it and puts that on record. -/
  reading : ∀ task frame rest session phase outcome, station.loop.running = some (task, outcome) →
    station.loop.frames task = frame :: rest → frame.phase? session = some phase →
      station.step.InReading task session rest

variable {station : Station} {task session : Nat} {frame : Frame} {rest : List Frame}
  {outcome : Outcome}

theorem Poised.inClosing
    (poised : station.Poised)
    (running : station.loop.running = some (task, outcome))
    (isTop : station.loop.frames task = frame :: rest)
    (isClosing : station.IsClosing session frame outcome) :
    station.step.InClosing task session rest := by
  obtain ⟨⟨_, step, sound, _, runs⟩, given, goal, resumes⟩ := poised.turns running isTop
  obtain ⟨wanted, taken, told⟩ := resumes.taken
  have closes : Move.Closes session (station.moved task frame rest outcome) := by
    cases isClosing with
    | begin present value =>
        exact Move.closes_closeClient present
    | closing others outcome =>
        cases taken with
        | closing present _ =>
            show Move.Closes session (Move.make (Move.afterClosing session others outcome) _)
            cases outcome with
            | ok value =>
                exact Move.closes_closeTasks present others
            | error failure =>
                cases told failure rfl
                exact Move.closes_closeTasks present others
        | plain isPlain =>
            exact isPlain.elim
  generalize station.moved task frame rest outcome = moved at closes step sound runs
  have framed : (moved.2.follow task rest moved.1).loop.frames task = moved.1.frames ++ rest :=
    sound.frames_follow runs rest
  rw [← step] at framed
  cases closes with
  | goesOn =>
      exact .goesOn framed
  | ends dismissed =>
      rw [step]
      rw [step] at framed
      exact .isOver rfl framed ⟨dismissed.recorded, dismissed.client⟩

theorem Poised.inReading
    {phase : Wire.ReadPhase}
    (poised : station.Poised)
    (running : station.loop.running = some (task, outcome))
    (isTop : station.loop.frames task = frame :: rest)
    (isPhase : frame.phase? session = some phase) :
    station.step.InReading task session rest := by
  obtain ⟨⟨laid, step, sound, _, runs⟩, given, goal, resumes⟩ := poised.turns running isTop
  obtain ⟨wanted, taken, told⟩ := resumes.taken
  have reads : Move.Reads session (station.moved task frame rest outcome) := by
    obtain ⟨client, found⟩ := taken.hasClient isPhase
    obtain ⟨process, talks⟩ := (laid.clientFits found).process
    exact Move.reads_resume isPhase taken told found talks
  generalize station.moved task frame rest outcome = moved at reads step sound runs
  have framed : (moved.2.follow task rest moved.1).loop.frames task = moved.1.frames ++ rest :=
    sound.frames_follow runs rest
  rw [← step] at framed
  cases reads with
  | goesOn isNext =>
      exact .goesOn (framed.trans (List.append_assoc _ _ _)) isNext
  | cancelled =>
      exact .cancelled (step ▸ rfl)
  | ends recorded =>
      rw [step]
      rw [step] at framed
      exact .isOver rfl framed recorded

/-- A poised station releases calls. -/
theorem Poised.releasesCalls (poised : station.Poised) : station.ReleasesCalls where
  released := poised.toSound.tale.hangUps
  closes _ _ _ present := Move.closes_closeClient present
  closing _ _ _ _ _ running isTop isClosing := poised.inClosing running isTop isClosing
  reading _ _ _ _ _ _ running isTop isPhase := poised.inReading running isTop isPhase

/-! ## A client that is closed -/

/-- A crowded station where the client was closed. -/
def closed : Station :=
  (crowded.complete (.closeClient 1)).2

/-- Closing a client is part of a run. -/
theorem closed_run : StationRun attended closed :=
  crowded_run.complete trivial id

/-- An answer to the second request whose error member is no object. -/
def garbledAnswer : Json :=
  .obj [("id", .int 2), ("error", .int 5)]

/-- A crowded station where the client was closed after it received a garbled answer. -/
def bereft : Station :=
  ((crowded.doServerAct 1 (.send (Wire.frame garbledAnswer))).settle.complete (.closeClient 1)).2

/-- A garbled answer, and closing the client after it, is part of a run. -/
theorem bereft_run : StationRun attended bereft :=
  (crowded_run.next (.server 1 (.send (Wire.frame garbledAnswer)))).settle.complete trivial id

end Station

namespace StationRun

variable {initial station : Station}

/-- When a client was closed, and when its reading has ended by itself, every call that was issued
before is over or its promise is settled, unless an answer arrived for it of which the error member is
no object; and by then nothing is unanswered in a client that was closed, and its server has nothing
left to do. -/
theorem releases_calls
    (isNew : initial.IsNew)
    (reached : StationRun initial station) :
    station.ReleasesCalls :=
  (reached.poised isNew).1.releasesCalls

/-- Two calls that are open when their client is closed. -/
theorem closed_client_releases_its_calls :
    Station.attended.IsNew ∧ StationRun Station.attended Station.closed ∧
      (.issued 1 2 ∈ Station.closed.chronicle ∧ .hungUp 1 none ∈ Station.closed.chronicle) ∧
      Station.closed.ReleasesCalls :=
  ⟨Station.isNew_attended, Station.closed_run, by decide +kernel,
    releases_calls Station.isNew_attended Station.closed_run⟩

/-- Not every call is released: one that has received a garbled answer waits on when its client was
closed. -/
theorem garbled_answer_leaves_its_call :
    ¬∀ station, StationRun Station.attended station →
      ∀ before session cause after,
        station.chronicle = before ++ .hungUp session cause :: after →
          ∀ number, .issued session number ∈ before → station.IsResolved session number := by
  intro released
  have facts : ∃ length, Station.bereft.chronicle =
        Station.bereft.chronicle.take length ++ [.hungUp 1 none] ∧
      .issued 1 2 ∈ Station.bereft.chronicle.take length ∧
      Station.bereft.chronicle.filterMap (Occurrence.outcomeFor? 1 2) = [] ∧
      ∀ promise < Station.bereft.loop.promises.length,
        Station.bereft.loop.topic? promise = some (.answer 1 2) →
          Station.bereft.loop.isSettled promise = false := by
    refine ⟨9, ?_⟩
    decide +kernel
  obtain ⟨length, split, issued, unended, unsettled⟩ := facts
  cases released _ Station.bereft_run _ _ _ [] split 2 issued with
  | closed isClosed =>
      obtain ⟨outcome, member⟩ := isClosed
      have found : outcome ∈ Station.bereft.chronicle.filterMap (Occurrence.outcomeFor? 1 2) :=
        List.mem_filterMap.mpr ⟨_, member, rfl⟩
      rw [unended] at found
      cases found
  | settled told isSettled =>
      rw [unsettled _ (Loop.lt_of_topic? told) told] at isSettled
      cases isSettled

end StationRun

end AnalyzerSessions
