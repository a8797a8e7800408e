import AnalyzerSessions.Proofs.DeskDeeds
import AnalyzerSessions.Proofs.OpenCalls
import AnalyzerSessions.Proofs.RunChanges
import AnalyzerSessions.Proofs.CalmStations

namespace AnalyzerSessions

/-!
# What moves are made of

Whatever a task does when it goes on is a number of small edits of the station, one after
the other.  An edit says under which circumstances it is made: a promise that somebody is
told by later is a new one, a promise that is settled at once is that of a request, and
the flag of a quiet server is raised when its status says so or when its client is closed.
What holds of a station however it is edited is shown edit by edit.
-/

/-- A job that a manager may be given: handlers are called and clients are closed by those who have to
do with them. -/
def Job.IsManaged : Job → Prop
  | closeClient _ => False
  | handler _ _ _ => False
  | _ => True

/-- A job that other jobs lead to: messages are handled by whoever reads them. -/
def Job.IsInner : Job → Prop
  | closeClient _ => False
  | handler _ _ _ => False
  | handleMessage _ _ => False
  | _ => True

theorem Job.IsInner.isManaged
    {job : Job}
    (inner : job.IsInner) :
    job.IsManaged := by
  cases job <;> first | exact inner | trivial

/-- What edits may concern: the sessions whose statuses are noted, those whose servers are started, and
the jobs that tasks are given. -/
structure Scope where
  hears : Nat → Prop
  starts : Nat → Prop
  gives : Job → Prop
  inner : ∀ {job : Job}, job.IsInner → gives job

/-- All sessions, and all jobs that a manager may be given. -/
def Scope.all : Scope where
  hears _ := True
  starts _ := True
  gives := Job.IsManaged
  inner := Job.IsInner.isManaged

/-- A frame in which one of some jobs is begun at most, which has no part in the closing of a client, and
in which no session is found to be ready. -/
def Frame.IsGiven (gives : Job → Prop) : Frame → Prop
  | begin job => gives job
  | closing _ _ => False
  | readyQuiescent _ => False
  | _ => True

/-- A frame that has no part in the closing of a client, and in which no session is found to be ready. -/
abbrev Frame.IsManaged (frame : Frame) : Prop :=
  frame.IsGiven Job.IsManaged

/-- A small change of a loop, by a task that goes on or from outside; promises from `known` on are
new. -/
inductive Loop.EditBy (gives : Job → Prop) (known : Nat) (before : Loop Frame) :
    Loop Frame → Prop where
  | promise (topic : Topic) :
      EditBy gives known before (before.newPromise topic).2
  | spawn {job : Job}
      (given : gives job) :
      EditBy gives known before (before.spawn job.topic [.begin job]).2
  | timer {promise : Nat}
      (isNew : known ≤ promise)
      (seconds : Number.Binary64) :
      EditBy gives known before (before.settleAfter promise seconds)
  | untimed (promise : Nat) :
      EditBy gives known before (before.cancelTimer promise)
  | release (promise : Nat) {waiter : Nat}
      (isNew : known ≤ waiter) :
      EditBy gives known before (before.whenSettled promise (.release waiter))
  | cancel (promise : Nat) :
      EditBy gives known before (before.cancel promise)
  | answer {promise session number : Nat}
      (told : before.topic? promise = some (.answer session number))
      (outcome : Outcome) :
      EditBy gives known before (before.settle promise outcome)
  | clock (time : Number.Binary64) :
      EditBy gives known before (before.moveClock time)
  | tidied :
      EditBy gives known before before.tidyTimers

/-- A small change of a loop, in which tasks are given jobs that a manager may be given. -/
abbrev Loop.Edit (known : Nat) (before after : Loop Frame) : Prop :=
  before.EditBy Job.IsManaged known after

namespace Station

/-- A small change of a station, by a task that goes on or from outside; promises from `known` on are
new. -/
inductive EditWithin (scope : Scope) (known : Nat) (before : Station) : Station → Prop where
  | desk {desk : Desk}
      (deed : before.desk.Deed desk) :
      EditWithin scope known before { before with desk }
  /-- A session whose server is initialized is connected with its client, and the manager is told. -/
  | welcome {session : Nat}
      (present : before.HasClient session) :
      EditWithin scope known before { before with
        desk := Act.after (Act.onInit session) (Act.after (Act.modifySession session fun current =>
          { current with client := some .client }) before.desk) }
  /-- The status that a server has reported is noted. -/
  | heard {session : Nat} {owner : Session} {message method : Json}
      (hears : scope.hears session)
      (arrived : .arrived session message ∈ before.chronicle)
      (owns : before.session? session = some owner)
      (named : message.get? "method" = some method)
      (handled : owner.handler? method = some .status) :
      EditWithin scope known before { before with
        desk := Act.after (Act.noteStatus owner (message.getD "params")) before.desk }
  | loop {loop : Loop Frame}
      (edit : before.loop.EditBy scope.gives known loop) :
      EditWithin scope known before { before with loop }
  | record {occurrence : Occurrence}
      (ordinary : ∀ session, occurrence ≠ .hungUp session none) :
      EditWithin scope known before { before with chronicle := before.chronicle ++ [occurrence] }
  | launches (launches : Nat) :
      EditWithin scope known before { before with launches }
  | process (number : Nat) {change : ServerProcess → ServerProcess}
      (ignores : ∀ process promise, promise < known → process.Ignores promise →
        (change process).Ignores promise) :
      EditWithin scope known before (before.modifyProcess number change)
  | output (number : Nat) (change : Wire.Stream → Wire.Stream) :
      EditWithin scope known before (before.changeOutput number change)
  | errors (number : Nat) (change : Wire.Stream → Wire.Stream) :
      EditWithin scope known before (before.changeErrors number change)
  | exit (number : Nat) (code : Int) :
      EditWithin scope known before (before.exitProcess number code)
  /-- A new server and its client take their places. -/
  | seat {session : Nat} (number : Nat) {process : ServerProcess} {client : Client}
      (starts : scope.starts session)
      (ignores : ∀ promise, process.Ignores promise)
      (silent : client.pending = [])
      (lowered : client.quiescent = .lowered) :
      EditWithin scope known before (before.seat session number process client)
  | enlist (session task : Nat) :
      EditWithin scope known before
        { before with runs := before.runs ++ [⟨session, some task, .lowered, none, false⟩] }
  | run (session : Nat) {change : Run → Run}
      (sameSession : ∀ run, (change run).session = run.session)
      (sameFlag : ∀ run, (change run).settled = run.settled)
      (sameClient : ∀ run, (change run).client = run.client) :
      EditWithin scope known before (before.modifyRun session change)
  | client (session : Nat) {change : Client → Client}
      (pending : ∀ client, (change client).pending ⊆ client.pending)
      (sameFlag : ∀ client, (change client).quiescent = client.quiescent) :
      EditWithin scope known before (before.modifyClient session change)
  | issue {session promise : Nat} (number : Nat)
      (told : ∀ client, before.client? session = some client →
        before.loop.topic? promise = some (.answer session client.nextRequest)) :
      EditWithin scope known before
        { before.modifyClient session fun client => client.enter promise with
          chronicle := before.chronicle ++ [.issued session number] }
  /-- The start of a session is settled. -/
  | settled (session : Nat) :
      EditWithin scope known before (before.raise (.settled session))
  /-- A server has nothing left to do. -/
  | calm {session : Nat}
      (quiet : Move.isSettledStatus ((before.session? session).bind Session.status) = true) :
      EditWithin scope known before (before.raise (.quiescent session))
  | stir {session : Nat}
      (restless : Move.isSettledStatus ((before.session? session).bind Session.status) = false) :
      EditWithin scope known before (before.lower (.quiescent session))
  | await (signpost : Signpost) {promise : Nat}
      (isNew : known ≤ promise) :
      EditWithin scope known before (before.setFlag signpost
        { before.flag signpost with waiters := (before.flag signpost).waiters ++ [promise] })

/-- A small change of a station that may concern all sessions. -/
abbrev Edit (known : Nat) (before after : Station) : Prop :=
  before.EditWithin .all known after

/-- A client is closed: whoever waits for a quiet server goes on, and that is put on record. -/
def hangUp (station : Station) (session : Nat) : Station :=
  { station.raise (.quiescent session) with
    chronicle := station.chronicle ++ [.hungUp session none] }

end Station

/-! ## What edits leave alone -/

namespace Loop

variable {known : Nat} {gives : Job → Prop} {before after : Loop Frame}

/-- Promises tell what they told, and all tasks wait as they did. -/
structure SameTasks (before after : Loop Frame) : Prop where
  topics : ∀ promise, after.topic? promise = before.topic? promise
  tasks : after.tasks = before.tasks
  running : after.running = before.running

theorem sameTasks_refl (loop : Loop Frame) : loop.SameTasks loop :=
  ⟨fun _ => rfl, rfl, rfl⟩

theorem SameTasks.trans
    {first second third : Loop Frame}
    (early : first.SameTasks second)
    (late : second.SameTasks third) :
    first.SameTasks third :=
  ⟨fun promise => (late.topics promise).trans (early.topics promise), late.tasks.trans early.tasks,
    late.running.trans early.running⟩

theorem sameTasks_settle
    (loop : Loop Frame)
    (promise : Nat)
    (outcome : Outcome) :
    loop.SameTasks (loop.settle promise outcome) :=
  ⟨topic?_settle _ _ _, tasks_settle _ _ _, running_settle _ _ _⟩

theorem sameTasks_settleAll
    (loop : Loop Frame)
    (promises : List Nat)
    (outcome : Outcome) :
    loop.SameTasks (loop.settleAll promises outcome) := by
  induction promises generalizing loop with
  | nil =>
      exact sameTasks_refl loop
  | cons promise rest inductionHypothesis =>
      exact (sameTasks_settle loop promise outcome).trans (inductionHypothesis _)

/-- A loop after edits: promises tell what they told, tasks wait as they did, and those that were added
have new numbers and begin with jobs that they may be given. -/
structure EnlargesBy (gives : Job → Prop) (before after : Loop AnalyzerSessions.Frame) : Prop where
  topics : ∀ {promise topic}, before.topic? promise = some topic →
    after.topic? promise = some topic
  kept : ∀ stance ∈ before.stances, stance ∈ after.stances
  added : ∀ stance ∈ after.stances, stance ∈ before.stances ∨
    before.promises.length ≤ stance.task ∧ ∃ job, gives job ∧ stance.frames = [.begin job]
  running : after.running = before.running

/-- A loop after edits, in which tasks are given jobs that a manager may be given. -/
abbrev Enlarges (before after : Loop AnalyzerSessions.Frame) : Prop :=
  before.EnlargesBy Job.IsManaged after

theorem enlarges_of_same
    {before after : Loop AnalyzerSessions.Frame}
    (topics : ∀ promise, after.topic? promise = before.topic? promise)
    (stances : after.stances = before.stances)
    (running : after.running = before.running) :
    before.EnlargesBy gives after where
  topics told := (topics _).trans told
  kept _ member := stances ▸ member
  added _ member := .inl (stances ▸ member)
  running := running

theorem SameTasks.enlarges
    {before after : Loop AnalyzerSessions.Frame}
    (same : before.SameTasks after) :
    before.EnlargesBy gives after :=
  enlarges_of_same same.topics (by rw [stances, same.tasks, stances]) same.running

/-- No promise goes away. -/
theorem EnlargesBy.length
    {before after : Loop AnalyzerSessions.Frame}
    (enlarges : before.EnlargesBy gives after) :
    before.promises.length ≤ after.promises.length := by
  rcases Nat.eq_zero_or_pos before.promises.length with isEmpty | notEmpty
  · exact isEmpty ▸ Nat.zero_le _
  · have below : before.promises.length - 1 < before.promises.length :=
      Nat.sub_one_lt_of_lt notEmpty
    have told : before.topic? (before.promises.length - 1) =
        some before.promises[before.promises.length - 1].topic := by
      unfold topic?
      rw [List.getElem?_eq_getElem below]
      rfl
    have isThere := lt_of_topic? (enlarges.topics told)
    omega

theorem EnlargesBy.trans
    {first second third : Loop AnalyzerSessions.Frame}
    (early : first.EnlargesBy gives second)
    (late : second.EnlargesBy gives third) :
    first.EnlargesBy gives third where
  topics told := late.topics (early.topics told)
  kept stance member := late.kept stance (early.kept stance member)
  added stance member := by
    rcases late.added stance member with old | ⟨isNew, begins⟩
    · exact early.added stance old
    · exact .inr ⟨Nat.le_trans early.length isNew, begins⟩
  running := late.running.trans early.running

/-- What is new where many promises are old is new where few are. -/
theorem EditBy.anti
    {before after : Loop AnalyzerSessions.Frame}
    {fewer : Nat}
    (edit : before.EditBy gives known after)
    (below : fewer ≤ known) :
    before.EditBy gives fewer after := by
  cases edit with
  | promise topic => exact .promise topic
  | spawn given => exact .spawn given
  | timer isNew seconds => exact .timer (Nat.le_trans below isNew) seconds
  | untimed promise => exact .untimed promise
  | release promise isNew => exact .release promise (Nat.le_trans below isNew)
  | cancel promise => exact .cancel promise
  | answer told outcome => exact .answer told outcome
  | clock time => exact .clock time
  | tidied => exact .tidied

theorem EditBy.enlarges
    {before after : Loop AnalyzerSessions.Frame}
    (edit : before.EditBy gives known after) :
    before.EnlargesBy gives after := by
  have timers : ∀ timers, before.EnlargesBy gives { before with timers } :=
    fun _ => enlarges_of_same (fun _ => rfl) rfl rfl
  cases edit with
  | promise topic =>
      refine ⟨(grows_newPromise before topic).topics, fun _ => id, fun _ => .inl, rfl⟩
  | @spawn job given =>
      have stances : (before.spawn job.topic [.begin job]).2.stances =
          before.stances ++ [⟨before.promises.length, [.begin job], none⟩] := by
        simp [Loop.stances, Loop.spawn, Loop.newPromise]
      refine ⟨(grows_spawn before _ _).topics, fun stance member => ?_, fun stance member => ?_, rfl⟩
      · exact stances ▸ List.mem_append_left _ member
      · rw [stances] at member
        rcases List.mem_append.mp member with old | isNew
        · exact .inl old
        · cases List.mem_singleton.mp isNew
          exact .inr ⟨Nat.le_refl _, job, given, rfl⟩
  | timer isNew seconds =>
      exact timers _
  | untimed promise =>
      exact timers _
  | release other isNew =>
      refine enlarges_of_same (topic?_whenSettled _ _ _) ?_ (running_whenSettled _ _ _)
      simp only [stances, tasks_whenSettled]
  | cancel other =>
      obtain ⟨stances, topics⟩ := stances_topic?_cancelWithin (before.tasks.length + 1) before other
      exact enlarges_of_same topics stances (grows_cancel before other).running
  | answer answers outcome =>
      exact (sameTasks_settle before _ outcome).enlarges
  | clock time =>
      exact enlarges_of_same (fun _ => rfl) rfl rfl
  | tidied =>
      exact timers _

end Loop

namespace Station

variable {scope : Scope} {known : Nat} {before after station : Station}

/-! What a process does wakes those who wait for it. -/

theorem sameTasks_wakeReader
    (station : Station)
    (channel : Channel) :
    station.loop.SameTasks (station.wakeReader channel).1.loop := by
  unfold wakeReader
  split
  · exact Loop.sameTasks_refl _
  · exact Loop.sameTasks_settle _ _ _

theorem sameTasks_changeOutput
    (station : Station)
    (number : Nat)
    (change : Wire.Stream → Wire.Stream) :
    station.loop.SameTasks (station.changeOutput number change).loop := by
  unfold changeOutput
  split
  · exact Loop.sameTasks_refl _
  · exact sameTasks_wakeReader station _

theorem sameTasks_changeErrors
    (station : Station)
    (number : Nat)
    (change : Wire.Stream → Wire.Stream) :
    station.loop.SameTasks (station.changeErrors number change).loop := by
  unfold changeErrors
  split
  · exact Loop.sameTasks_refl _
  · exact sameTasks_wakeReader station _

theorem sameTasks_exitProcess
    (station : Station)
    (number : Nat)
    (code : Int) :
    station.loop.SameTasks (station.exitProcess number code).loop := by
  unfold exitProcess
  split
  · exact Loop.sameTasks_refl _
  · split
    · exact Loop.sameTasks_refl _
    · dsimp only
      generalize isMarked : station.modifyProcess number _ = marked
      have sameLoop : station.loop = marked.loop := isMarked ▸ rfl
      rw [sameLoop]
      exact ((sameTasks_changeOutput marked number .finish).trans
        (sameTasks_changeErrors _ number .finish)).trans (Loop.sameTasks_settleAll _ _ _)

theorem sameTasks_raise
    (station : Station)
    (signpost : Signpost) :
    station.loop.SameTasks (station.raise signpost).loop := by
  cases signpost <;> exact Loop.sameTasks_settleAll _ _ _

/-- Every promise that is there keeps its topic, and every task waits as it did. -/
theorem EditWithin.enlarges (edit : before.EditWithin scope known after) :
    before.loop.EnlargesBy scope.gives after.loop := by
  have same : after.loop = before.loop → before.loop.EnlargesBy scope.gives after.loop :=
    fun same => same ▸ (Loop.sameTasks_refl _).enlarges
  cases edit with
  | loop edit => exact edit.enlarges
  | output number change => exact (sameTasks_changeOutput _ _ _).enlarges
  | errors number change => exact (sameTasks_changeErrors _ _ _).enlarges
  | exit number code => exact (sameTasks_exitProcess _ _ _).enlarges
  | settled session => exact (sameTasks_raise _ _).enlarges
  | calm quiet => exact (sameTasks_raise _ _).enlarges
  | stir restless => exact same rfl
  | await signpost isNew => cases signpost <;> exact same rfl
  | _ => exact same rfl

/-! ## Clients -/

/-- A client that is there after a change was there before, and what else holds of it. -/
def EachClient (before after : Station) (holds : Nat → Client → Client → Prop) : Prop :=
  ∀ session now, after.client? session = some now →
    ∃ old, before.client? session = some old ∧ holds session old now

theorem eachClient_of_runs_eq
    {holds : Nat → Client → Client → Prop}
    (runs : after.runs = before.runs)
    (same : ∀ session client, holds session client client) :
    before.EachClient after holds := by
  intro session now found
  rw [client?_congr runs] at found
  exact ⟨now, found, same session now⟩

theorem eachClient_modifyRun
    {holds : Nat → Client → Client → Prop}
    (station : Station)
    (session : Nat)
    {change : Run → Run}
    (sameSession : ∀ run, (change run).session = run.session)
    (sameClient : ∀ run, (change run).client = run.client)
    (same : ∀ session client, holds session client client) :
    station.EachClient (station.modifyRun session change) holds := by
  intro other now found
  rw [client?_modifyRun _ _ _ sameSession] at found
  obtain ⟨run, isRun, isClient⟩ := Option.bind_eq_some_iff.mp found
  refine ⟨now, Option.bind_eq_some_iff.mpr ⟨run, isRun, ?_⟩, same other now⟩
  split at isClient
  · exact (sameClient run).symm.trans isClient
  · exact isClient

theorem eachClient_modifyClient
    {holds : Nat → Client → Client → Prop}
    (station : Station)
    (session : Nat)
    {change : Client → Client}
    (changed : ∀ client, station.client? session = some client →
      holds session client (change client))
    (same : ∀ other client, other ≠ session → holds other client client) :
    station.EachClient (station.modifyClient session change) holds := by
  intro other now found
  rw [client?_modifyClient] at found
  obtain ⟨old, isOld, rfl⟩ := Option.map_eq_some_iff.mp found
  refine ⟨old, isOld, ?_⟩
  split
  · rename_i isSame
    subst isSame
    exact changed old isOld
  · rename_i different
    exact same other old different

/-- The unanswered requests of every client have promises on their answers. -/
def AnswersFit (station : Station) : Prop :=
  ∀ session client, station.client? session = some client → ∀ entry ∈ client.pending,
    station.loop.topic? entry.2 = some (.answer session entry.1)

theorem Sound.answersFit
    {hand : List Token}
    (sound : station.Sound hand) :
    station.AnswersFit :=
  fun _ _ found entry isPending => ((sound.clientFits found).pending entry isPending).1

/-- Clients make no requests. -/
def AsksNoMore (before after : Station) : Prop :=
  before.EachClient after fun _ old now => now.pending ⊆ old.pending

theorem AnswersFit.of_asksNoMore
    (answers : before.AnswersFit)
    (asksNoMore : before.AsksNoMore after)
    (topics : ∀ {promise topic}, before.loop.topic? promise = some topic →
      after.loop.topic? promise = some topic) :
    after.AnswersFit := by
  intro session client found entry isPending
  obtain ⟨old, wasThere, within⟩ := asksNoMore session client found
  exact topics (answers session old wasThere entry (within isPending))

theorem asksNoMore_setFlag
    (station : Station)
    (signpost : Signpost)
    (flag : Flag) :
    station.AsksNoMore (station.setFlag signpost flag) := by
  cases signpost with
  | settled session =>
      exact eachClient_modifyRun station session (fun _ => rfl) (fun _ => rfl)
        fun _ _ => List.Subset.refl _
  | quiescent session =>
      exact eachClient_modifyClient station session (fun _ _ => List.Subset.refl _)
        fun _ _ _ => List.Subset.refl _

theorem asksNoMore_raise
    (station : Station)
    (signpost : Signpost) :
    station.AsksNoMore (station.raise signpost) :=
  asksNoMore_setFlag station signpost ⟨true, []⟩

theorem EditWithin.answersFit
    (edit : before.EditWithin scope known after)
    (answers : before.AnswersFit) :
    after.AnswersFit := by
  have kept : before.AsksNoMore after → after.AnswersFit :=
    fun asksNoMore => answers.of_asksNoMore asksNoMore edit.enlarges.topics
  have sameRuns : after.runs = before.runs → after.AnswersFit :=
    fun runs => kept (eachClient_of_runs_eq runs fun _ _ => List.Subset.refl _)
  cases edit with
  | output number change => exact sameRuns (agrees_changeOutput _ _ _).runs
  | errors number change => exact sameRuns (agrees_changeErrors _ _ _).runs
  | exit number code => exact sameRuns (agrees_exitProcess _ _ _).runs
  | @seat session number _ _ starts ignores silent lowered =>
      intro other client found entry isPending
      rw [client?_seat] at found
      obtain ⟨run, isRun, isClient⟩ := Option.bind_eq_some_iff.mp found
      split at isClient
      · cases isClient
        rw [silent] at isPending
        cases isPending
      · exact answers other client (Option.bind_eq_some_iff.mpr ⟨run, isRun, isClient⟩) entry
          isPending
  | enlist session task =>
      intro other client found
      rw [client?_enterRun _ rfl] at found
      exact answers other client found
  | run session sameSession sameFlag sameClient =>
      exact kept (eachClient_modifyRun before session sameSession sameClient
        fun _ _ => List.Subset.refl _)
  | client session pending sameFlag =>
      exact kept (eachClient_modifyClient before session (fun client _ => pending client)
        fun _ _ _ => List.Subset.refl _)
  | @issue session promise number told =>
      intro other client found entry isPending
      have found : (before.modifyClient session fun client => client.enter promise).client? other =
          some client := found
      rw [client?_modifyClient] at found
      obtain ⟨old, isOld, rfl⟩ := Option.map_eq_some_iff.mp found
      split at isPending
      · rename_i same
        subst same
        rcases List.mem_append.mp isPending with earlier | isLast
        · exact answers other old isOld entry earlier
        · cases List.mem_singleton.mp isLast
          exact told old isOld
      · exact answers other old isOld entry isPending
  | settled session => exact kept (asksNoMore_raise before _)
  | calm quiet => exact kept (asksNoMore_raise before _)
  | stir restless => exact kept (asksNoMore_setFlag before _ _)
  | await signpost isNew => exact kept (asksNoMore_setFlag before _ _)
  | _ => exact sameRuns rfl

/-- What is new where many promises are old is new where few are. -/
theorem EditWithin.anti
    {fewer : Nat}
    (edit : before.EditWithin scope known after)
    (below : fewer ≤ known) :
    before.EditWithin scope fewer after := by
  cases edit with
  | loop edit => exact .loop (edit.anti below)
  | desk deed => exact .desk deed
  | welcome present => exact .welcome present
  | heard hears arrived owns named handled => exact .heard hears arrived owns named handled
  | record ordinary => exact .record ordinary
  | launches number => exact .launches number
  | process number ignores =>
      exact .process number fun process promise old =>
        ignores process promise (Nat.lt_of_lt_of_le old below)
  | output number change => exact .output number change
  | errors number change => exact .errors number change
  | exit number code => exact .exit number code
  | seat number starts ignores silent lowered => exact .seat number starts ignores silent lowered
  | enlist session task => exact .enlist session task
  | run session sameSession sameFlag sameClient =>
      exact .run session sameSession sameFlag sameClient
  | client session pending sameFlag => exact .client session pending sameFlag
  | issue number told => exact .issue number told
  | settled session => exact .settled session
  | calm quiet => exact .calm quiet
  | stir restless => exact .stir restless
  | await signpost isNew => exact .await signpost (Nat.le_trans below isNew)

/-! ## Rewriting a station -/

/-- A station that has come from another one by edits. -/
structure ReworkedWithin (scope : Scope) (known : Nat) (base station : Station) : Prop where
  edits : Relation.ReflTransGen (EditWithin scope known) base station
  /-- All promises that were there are still there. -/
  below : known ≤ station.loop.promises.length
  answers : station.AnswersFit

/-- A station that has come from another one by edits that may concern all sessions. -/
abbrev Reworked (known : Nat) (base station : Station) : Prop :=
  base.ReworkedWithin .all known station

theorem reworked_refl
    (below : known ≤ station.loop.promises.length)
    (answers : station.AnswersFit) :
    station.ReworkedWithin scope known station :=
  ⟨.refl, below, answers⟩

theorem ReworkedWithin.edit
    {base : Station}
    (reworked : base.ReworkedWithin scope known before)
    (edit : before.EditWithin scope known after) :
    base.ReworkedWithin scope known after := by
  exact ⟨reworked.edits.tail edit, Nat.le_trans reworked.below edit.enlarges.length,
    edit.answersFit reworked.answers⟩

theorem ReworkedWithin.trans
    {base mid : Station}
    {later : Nat}
    (early : base.ReworkedWithin scope known mid)
    (late : mid.ReworkedWithin scope later station)
    (below : known ≤ later) :
    base.ReworkedWithin scope known station := by
  refine ⟨?_, Nat.le_trans below late.below, late.answers⟩
  have edits := late.edits
  clear late
  induction edits with
  | refl => exact early.edits
  | tail _ edit inductionHypothesis => exact inductionHypothesis.tail (edit.anti below)

theorem ReworkedWithin.enlarges
    {base : Station}
    (reworked : base.ReworkedWithin scope known station) :
    base.loop.EnlargesBy scope.gives station.loop := by
  have edits := reworked.edits
  clear reworked
  induction edits with
  | refl => exact (Loop.sameTasks_refl _).enlarges
  | tail _ edit inductionHypothesis => exact inductionHypothesis.trans edit.enlarges

end Station

end AnalyzerSessions
