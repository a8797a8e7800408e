import AnalyzerSessions.Proofs.HandlingMoves
import AnalyzerSessions.Proofs.StationSteps

namespace AnalyzerSessions

/-!
# Received messages

A session receives a message when its reader goes on and finds the whole of it.  In
that step the message is handled, at a station that differs from the one before in
what is left to read.  How a step of a poised station looks in general comes first:
the innermost frame goes on, and the task goes on as the frame said.
-/

namespace Loop

variable {Frame : Type}

/-- The frames of a task are found on its stack. -/
theorem frames_eq_find_stacks
    (loop : Loop Frame)
    (task : Nat) :
    loop.frames task =
      ((loop.frameStacks.find? fun stack => stack.1 == task).map Prod.snd).getD [] := by
  unfold frames task? frameStacks stances
  rw [List.map_map, List.find?_map, Option.map_map, Option.map_map]
  rfl

end Loop

namespace Station

variable {station : Station} {session task : Nat} {frame : Frame} {rest : List Frame}
  {outcome : Outcome}

/-- A station while the innermost frame of a task goes on: that frame is laid aside. -/
def laid (station : Station) (task : Nat) (rest : List Frame) : Station :=
  station.modifyLoop fun loop => loop.setFrames task rest

/-- What the innermost frame of a task comes to. -/
def moved (station : Station) (task : Nat) (frame : Frame) (rest : List Frame)
    (outcome : Outcome) : Next × Station :=
  (Move.resume frame outcome).make (station.laid task rest)

/-- A task goes on with a frame in front of others, at a station that stays sound until it goes on as
the frame said. -/
structure Turns
    (station : Station)
    (task : Nat)
    (frame : Frame)
    (rest : List Frame)
    (outcome : Outcome) : Prop where
  laid : (station.laid task rest).Sound frame.tokens
  step : station.step =
    (station.moved task frame rest outcome).2.follow task rest
      (station.moved task frame rest outcome).1
  sound : (station.moved task frame rest outcome).2.Sound
    (station.moved task frame rest outcome).1.tokens
  onward : (station.laid task rest).Onward (station.moved task frame rest outcome).2
  running : (station.moved task frame rest outcome).2.loop.running = some (task, outcome)

/-- The running task of a poised station goes on with its innermost frame. -/
theorem Poised.turns
    (poised : station.Poised)
    (running : station.loop.running = some (task, outcome))
    (isTop : station.loop.frames task = frame :: rest) :
    station.Turns task frame rest outcome ∧
      ∃ given goal, (station.laid task rest).Resumes task frame rest outcome given goal := by
  obtain ⟨stance, member, rfl⟩ := poised.toSound.loop.running running
  have sameFrames := (poised.toSound.loop.frames_of_mem member).symm.trans isTop
  obtain ⟨_, given, goal, resumes⟩ := poised.resumes running member sameFrames
  obtain ⟨wanted, taken, holds⟩ := resumes.taken
  obtain ⟨comes, _⟩ := Move.leads_resume resumes.sound resumes.fits taken holds resumes.mayClose
  rw [List.append_nil] at comes
  refine ⟨⟨resumes.sound, ?_, comes.sound, comes.onward, ?_⟩, given, goal, resumes⟩
  · unfold Station.step
    rw [running]
    dsimp only [goOn]
    rw [isTop]
    rfl
  · exact comes.onward.grows.running.trans running

/-- The frames of the task that runs are what they were set to. -/
theorem Sound.frames_setFrames
    {hand : List Token}
    (sound : station.Sound hand)
    (running : station.loop.running = some (task, outcome))
    (frames : List Frame) :
    (station.loop.setFrames task frames).frames task = frames := by
  obtain ⟨stance, member, rfl⟩ := sound.loop.running running
  obtain ⟨state, isTask, _, _⟩ := Loop.mem_stances.mp member
  unfold Loop.frames Loop.setFrames
  rw [Loop.task?_modifyTask, sound.loop.task?_of_mem isTask]
  simp

theorem frameStacks_follow
    (station : Station)
    (task : Nat)
    (rest : List Frame)
    (next : Next) :
    (station.follow task rest next).loop.frameStacks =
      (station.loop.setFrames task (next.frames ++ rest)).frameStacks := by
  obtain ⟨frames, pause⟩ := next
  cases pause with
  | await promise => exact Loop.frameStacks_await _ task promise
  | _ => rfl

/-- A task goes on with what its innermost frame said in front of the others. -/
theorem Sound.frames_follow
    {hand : List Token}
    {next : Next}
    (sound : station.Sound hand)
    (running : station.loop.running = some (task, outcome))
    (rest : List Frame) :
    (station.follow task rest next).loop.frames task = next.frames ++ rest := by
  rw [Loop.frames_eq_find_stacks, frameStacks_follow, ← Loop.frames_eq_find_stacks]
  exact sound.frames_setFrames running (next.frames ++ rest)

/-! ## What a step spares -/

theorem Sound.outcome?_follow
    {hand : List Token}
    {next : Next}
    {promise : Nat}
    (sound : station.Sound hand)
    (mayClose : station.MayClose)
    (awaits : ∀ other, next.pause = .await other →
      station.loop.topic? other = some .tick ∧ other ≠ promise) :
    (station.follow task rest next).loop.outcome? promise = station.loop.outcome? promise := by
  obtain ⟨frames, pause⟩ := next
  cases pause with
  | give given =>
      rfl
  | await other =>
      obtain ⟨isTick, apart⟩ := awaits other rfl
      have noTask : (station.loop.setFrames task (frames ++ rest)).task? other = none := by
        unfold Loop.setFrames
        rw [Loop.task?_modifyTask, sound.task?_of_tick mayClose isTick]
        rfl
      exact Loop.outcome?_await noTask (Ne.symm apart)
  | yield =>
      rfl

/-- A call that waits after a frame went on is open when the task has gone on, which waits at most for
something to happen. -/
theorem Sound.isOpen_follow
    {hand : List Token}
    {next : Next}
    {number promise : Nat}
    (sound : station.Sound hand)
    (mayClose : station.MayClose)
    (waits : station.Waits session number promise)
    (awaits : ∀ other, next.pause = .await other → station.loop.topic? other = some .tick) :
    (station.follow task rest next).IsOpen session number promise := by
  obtain ⟨client, found, isPending⟩ := waits.pending
  have told := ((sound.clientFits found).pending _ isPending).1
  refine ⟨⟨client, found, isPending⟩, ?_⟩
  rw [sound.outcome?_follow mayClose, waits.isOpen]
  intro other isAwaited
  refine ⟨awaits other isAwaited, ?_⟩
  rintro rfl
  cases (awaits other isAwaited).symm.trans told

end Station

/-! ## Reading -/

/-- The phase in which a frame reads messages for a session. -/
def Frame.phase? (session : Nat) : Frame → Option Wire.ReadPhase
  | begin (.readMessages other) => if other = session then some .initial else none
  | reading other phase => if other = session then some phase else none
  | handled other => if other = session then some .initial else none
  | _ => none

theorem Frame.phase?_eq_some
    {session : Nat}
    {frame : Frame}
    {phase : Wire.ReadPhase}
    (reads : frame.phase? session = some phase) :
    (frame = .begin (.readMessages session) ∧ phase = .initial) ∨
      frame = .reading session phase ∨ (frame = .handled session ∧ phase = .initial) := by
  unfold Frame.phase? at reads
  split at reads
  · obtain ⟨rfl, rfl⟩ : _ = session ∧ _ = phase := by simpa using reads
    exact .inl ⟨rfl, rfl⟩
  · obtain ⟨rfl, rfl⟩ : _ = session ∧ _ = phase := by simpa using reads
    exact .inr (.inl rfl)
  · obtain ⟨rfl, rfl⟩ : _ = session ∧ _ = phase := by simpa using reads
    exact .inr (.inr ⟨rfl, rfl⟩)
  · cases reads

namespace Station

/-- The phase in which the reader of a session is about to read on. -/
def reads? (station : Station) (session : Nat) : Option Wire.ReadPhase :=
  match station.loop.running with
  | some (task, .ok _) => (station.loop.frames task).head?.bind (Frame.phase? session)
  | _ => none

/-- The message that the reader of a session is about to find. -/
def received? (station : Station) (session : Nat) : Option Json :=
  match station.reads? session, station.clientProcess? session with
  | some phase, some process =>
    match Wire.read phase process.output.stream with
    | .finished (.ok message) _ => some message
    | _ => none
  | _, _ => none

variable {station : Station} {session : Nat} {phase : Wire.ReadPhase} {message : Json}

theorem eq_of_reads?
    (reads : station.reads? session = some phase) :
    ∃ task value frame rest, station.loop.running = some (task, .ok value) ∧
      station.loop.frames task = frame :: rest ∧ frame.phase? session = some phase := by
  unfold reads? at reads
  split at reads
  · rename_i task value running
    obtain ⟨frame, isHead, isPhase⟩ := Option.bind_eq_some_iff.mp reads
    obtain ⟨rest, isTop⟩ := List.head?_eq_some_iff.mp isHead
    exact ⟨task, value, frame, rest, running, isTop, isPhase⟩
  · cases reads

theorem eq_of_received?
    (received : station.received? session = some message) :
    ∃ phase client process stream, station.reads? session = some phase ∧
      station.client? session = some client ∧
      station.process? client.process = some process ∧
      Wire.read phase process.output.stream = .finished (.ok message) stream := by
  unfold received? at received
  split at received
  · rename_i phase process isPhase isProcess
    obtain ⟨client, isClient, found⟩ := Option.bind_eq_some_iff.mp isProcess
    split at received
    · rename_i stream whole
      cases received
      exact ⟨phase, client, process, _, isPhase, isClient, found, whole⟩
    · cases received
  · cases received

/-- A station after something was read from what a process sends: the channel is another one, on which
nobody waits who did not wait before. -/
def ReadsFrom (before : Station) (number : Nat) (after : Station) : Prop :=
  ∃ change : Channel → Channel,
    (∀ channel, (change channel).reader = none ∨ (change channel).reader = channel.reader) ∧
    after = before.modifyProcess number fun process =>
      { process with output := change process.output }

theorem ReadsFrom.same
    {before after : Station}
    {number : Nat}
    (reads : before.ReadsFrom number after) :
    after.desk = before.desk ∧ after.loop = before.loop ∧ after.runs = before.runs ∧
      after.chronicle = before.chronicle := by
  obtain ⟨_, _, rfl⟩ := reads
  exact ⟨rfl, rfl, rfl, rfl⟩

theorem client?_congr
    {before after : Station}
    (sameRuns : after.runs = before.runs)
    (session : Nat) :
    after.client? session = before.client? session := by
  unfold client? run?
  rw [sameRuns]

theorem modifyProcess_modifyProcess
    (station : Station)
    (number : Nat)
    (first second : ServerProcess → ServerProcess) :
    (station.modifyProcess number first).modifyProcess number second =
      station.modifyProcess number fun process => second (first process) := by
  unfold modifyProcess
  simp only [List.map_map, Station.mk.injEq, true_and, and_true]
  refine List.map_congr_left fun entry _ => ?_
  by_cases isChosen : entry.1 = number
  · simp [isChosen]
  · simp [isChosen]

/-- A call that waits does so when something was read from a process. -/
theorem Waits.readsFrom
    {number promise process : Nat}
    {after : Station}
    (waits : station.Waits session number promise)
    (reads : station.ReadsFrom process after) :
    after.Waits session number promise := by
  obtain ⟨change, readers, rfl⟩ := reads
  refine waits.modifyProcess process fun known ignores => ⟨?_, ignores.errors, ignores.exit⟩
  rcases readers known.output with nobody | same
  · rw [nobody]
    nofun
  · rw [same]
    exact ignores.output

end Station

namespace Move

variable {α : Type} {station : Station} {session : Nat} {phase : Wire.ReadPhase} {message : Json}

/-- What is next after a move that gives a value is what the move after it says. -/
theorem make_bind
    {move : Move α}
    {value : α}
    {mid : Station}
    (performed : perform move station = (.ok value, mid))
    (next : α → Move Next) :
    make (move >>= next) station = make (next value) mid := by
  rw [make_eq, perform_bind, performed]
  rfl

theorem perform_client
    {client : Client}
    (found : station.client? session = some client) :
    perform (Move.client session) station = (.ok client, station) := by
  unfold Move.client
  rw [perform_get_bind, found]
  rfl

theorem perform_modifyOutput
    {client : Client}
    (found : station.client? session = some client)
    (change : Channel → Channel) :
    perform (modifyOutput session change) station =
      (.ok (), station.modifyProcess client.process fun process =>
        { process with output := change process.output }) := by
  unfold modifyOutput
  rw [perform_bind, perform_client found]
  rfl

/-- Where a whole message is there it is handled. -/
theorem make_readOn
    {client : Client}
    {process : ServerProcess}
    {stream : Wire.Stream}
    (found : station.client? session = some client)
    (talks : station.process? client.process = some process)
    (whole : Wire.read phase process.output.stream = .finished (.ok message) stream) :
    make (readOn session phase) station =
      make (into (handleMessage session message) (.handled session))
        (station.modifyProcess client.process fun process =>
          { process with output := { process.output with stream } }) := by
  have isProcess : station.clientProcess? session = some process := by
    unfold Station.clientProcess?
    rw [found]
    exact talks
  unfold readOn
  rw [make_get_bind, isProcess]
  dsimp only
  rw [whole]
  exact make_bind (perform_modifyOutput found _) _

/-- A frame that reads handles the message that it finds. -/
theorem make_resume_of_phase
    {frame : Frame}
    {client : Client}
    {process : ServerProcess}
    {stream : Wire.Stream}
    (value : Value)
    (reads : frame.phase? session = some phase)
    (found : station.client? session = some client)
    (talks : station.process? client.process = some process)
    (whole : Wire.read phase process.output.stream = .finished (.ok message) stream) :
    ∃ read, station.ReadsFrom client.process read ∧
      make (resume frame (.ok value)) station =
        make (into (handleMessage session message) (.handled session)) read := by
  have readOn : make (readOn session phase) station = _ := make_readOn found talks whole
  have taken : station.ReadsFrom client.process (station.modifyProcess client.process
      fun process => { process with output := { process.output with stream } }) :=
    ⟨fun channel => { channel with stream }, fun _ => .inr rfl, rfl⟩
  rcases Frame.phase?_eq_some reads with ⟨rfl, rfl⟩ | rfl | ⟨rfl, rfl⟩
  · exact ⟨_, taken, readOn⟩
  · -- The reader is taken from the channel before the message is.
    have idle := make_bind (perform_modifyOutput found fun channel => { channel with reader := none })
      fun _ => Move.readOn session phase
    have talksNow : (station.modifyProcess client.process fun process =>
        { process with output := { process.output with reader := none } }).process?
          client.process = some { process with output := { process.output with reader := none } } := by
      rw [Station.process?_modifyProcess, talks]
      simp
    refine ⟨_, ?_, idle.trans (make_readOn found talksNow whole)⟩
    rw [Station.modifyProcess_modifyProcess]
    exact ⟨fun channel => { channel with reader := none, stream }, fun _ => .inl rfl, rfl⟩
  · exact ⟨_, taken, readOn⟩

end Move

namespace Station

variable {station : Station} {session : Nat} {message : Json}

/-- A station from which a reader has taken a message, and at which it handles it now. -/
structure Receives
    (station : Station)
    (session : Nat)
    (message : Json)
    (task : Nat)
    (rest : List Frame)
    (client : Client)
    (read : Station) : Prop where
  found : station.client? session = some client
  process : ∃ process, station.process? client.process = some process
  laid : (station.laid task rest).Sound []
  readsFrom : (station.laid task rest).ReadsFrom client.process read
  step : station.step =
    (Move.make (Move.handleMessage session message) read).2.follow task rest
      ((Move.make (Move.handleMessage session message) read).1.into (.handled session))
  sound : ∃ hand, (Move.make (Move.handleMessage session message) read).2.Sound hand
  mayClose : (Move.make (Move.handleMessage session message) read).2.MayClose
  running : ∃ outcome, (Move.make (Move.handleMessage session message) read).2.loop.running =
    some (task, outcome)

/-- A frame that reads holds no tokens, and the end of reading is what it gives. -/
theorem Takes.of_phase
    {frame : Frame}
    {phase : Wire.ReadPhase}
    {wanted given : Topic}
    (taken : station.Takes frame wanted given)
    (reads : frame.phase? session = some phase) :
    frame.tokens = [] ∧ given = .reading := by
  rcases Frame.phase?_eq_some reads with ⟨rfl, rfl⟩ | rfl | ⟨rfl, rfl⟩
  · cases taken with
    | begin _ => exact ⟨rfl, rfl⟩
    | plain isPlain => exact isPlain.elim
  · cases taken with
    | reading _ => exact ⟨rfl, rfl⟩
    | plain isPlain => exact isPlain.elim
  · cases taken with
    | handled _ => exact ⟨rfl, rfl⟩
    | plain isPlain => exact isPlain.elim

/-- The step in which a message is received is the handling of the message. -/
theorem Poised.receives
    (poised : station.Poised)
    (received : station.received? session = some message) :
    ∃ task rest client read, station.Receives session message task rest client read := by
  obtain ⟨phase, client, process, stream, reads, found, talks, whole⟩ := eq_of_received? received
  obtain ⟨task, value, frame, rest, running, isTop, isPhase⟩ := eq_of_reads? reads
  obtain ⟨turns, given, goal, resumes⟩ := poised.turns running isTop
  obtain ⟨wanted, taken, _⟩ := resumes.taken
  obtain ⟨free, rfl⟩ := taken.of_phase isPhase
  have foundNow : (station.laid task rest).client? session = some client := found
  have talksNow : (station.laid task rest).process? client.process = some process := talks
  obtain ⟨read, readsFrom, same⟩ :=
    Move.make_resume_of_phase value isPhase foundNow talksNow whole
  have isMoved : station.moved task frame rest (.ok value) =
      ((Move.make (Move.handleMessage session message) read).1.into (.handled session),
        (Move.make (Move.handleMessage session message) read).2) :=
    same.trans (Move.make_into _ _ _)
  obtain ⟨laid, step, sound, onward, runs⟩ := turns
  rw [isMoved] at step sound onward runs
  rw [free] at laid
  exact ⟨task, rest, client, read, found, ⟨process, talks⟩, laid, readsFrom, step, ⟨_, sound⟩,
    onward.mayClose (resumes.mayClose nofun), ⟨_, runs⟩⟩

/-- A task reads on that goes on with a value behind the handling of a message. -/
theorem Sound.reads?_follow
    {hand : List Token}
    {task : Nat}
    {outcome : Outcome}
    {frames rest last : List Frame}
    (sound : station.Sound hand)
    (running : station.loop.running = some (task, outcome))
    (isTop : frames ++ rest = .handled session :: last)
    (value : Value) :
    (station.follow task rest ⟨frames, .give (.ok value)⟩).reads? session = some .initial := by
  have isThere := sound.frames_setFrames running (frames ++ rest)
  show (((station.loop.setFrames task (frames ++ rest)).frames task).head?.bind
    (Frame.phase? session)) = some .initial
  rw [isThere, isTop]
  exact if_pos rfl

/-- The process of a client can be written to. -/
def IsWhole (station : Station) (client : Client) : Prop :=
  ∃ process, station.process? client.process = some process ∧ process.isBroken = false

theorem ReadsFrom.isWhole
    {before after : Station}
    {client : Client}
    {number : Nat}
    (reads : before.ReadsFrom number after)
    (whole : before.IsWhole client) :
    after.IsWhole client := by
  obtain ⟨change, _, rfl⟩ := reads
  obtain ⟨process, talks, isWhole⟩ := whole
  refine ⟨_, (before.process?_modifyProcess number _ _).trans (congrArg (Option.map _) talks), ?_⟩
  split <;> exact isWhole

end Station

end AnalyzerSessions
