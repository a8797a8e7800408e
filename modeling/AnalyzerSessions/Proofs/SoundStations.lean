import AnalyzerSessions.Proofs.FrameTopics
import AnalyzerSessions.Station.Stimulus
import Mathlib.Data.List.Nodup

namespace AnalyzerSessions

/-!
# Sound stations

What holds of a station at every moment: its loop fits what outcomes have to tell,
everyone who waits for a server is told what he waits for, and the record bears out
what calls, runs and stops came to.  Each call and each run has a token that is
made once, is held by one frame as long as the call or the run goes on, and is
spent at its end.  A task that is in the middle of a move has tokens in hand.
-/

/-!
## Looking things up at a station

What is found at a station after a process, a run or a client was changed.
-/

namespace Station

/-- The first entry for a key in a list whose entries for a key are changed. -/
theorem find?_map_of_key
    {α : Type}
    (key : α → Nat)
    (change : α → α)
    (sameKey : ∀ item, key (change item) = key item)
    (items : List α)
    (chosen number : Nat) :
    (items.map fun item => if key item = chosen then change item else item).find?
        (fun item => key item == number) =
      (items.find? fun item => key item == number).map fun item =>
        if number = chosen then change item else item := by
  induction items with
  | nil =>
      rfl
  | cons item rest inductionHypothesis =>
      have keyNow : key (if key item = chosen then change item else item) = key item := by
        split
        · exact sameKey item
        · rfl
      rw [List.map_cons, List.find?_cons, List.find?_cons, keyNow]
      by_cases found : key item = number
      · subst found
        simp
      · have notFound : (key item == number) = false := by
          simpa using found
        rw [notFound]
        exact inductionHypothesis

/-- The processes after one of them was changed. -/
theorem process?_modifyProcess
    (station : Station)
    (chosen number : Nat)
    (change : ServerProcess → ServerProcess) :
    (station.modifyProcess chosen change).process? number =
      (station.process? number).map fun process =>
        if number = chosen then change process else process := by
  unfold process? modifyProcess
  dsimp only
  have found := find?_map_of_key Prod.fst
    (fun entry : Nat × ServerProcess => (entry.1, change entry.2))
    (fun _ => rfl) station.processes chosen number
  rw [found]
  cases station.processes.find? fun entry => entry.1 == number with
  | none =>
      rfl
  | some entry =>
      by_cases same : number = chosen
      · simp [same]
      · simp [same]

/-- The runs after one of them was changed. -/
theorem run?_modifyRun
    (station : Station)
    (chosen session : Nat)
    {change : Run → Run}
    (sameSession : ∀ run, (change run).session = run.session) :
    (station.modifyRun chosen change).run? session =
      (station.run? session).map fun run => if session = chosen then change run else run :=
  find?_map_of_key Run.session change sameSession station.runs chosen session

/-- The run that is found is one of those that there are. -/
theorem mem_of_run?
    {station : Station}
    {session : Nat}
    {run : Run}
    (found : station.run? session = some run) :
    run ∈ station.runs ∧ run.session = session := by
  refine ⟨List.mem_of_find?_eq_some found, ?_⟩
  simpa using List.find?_some found

/-- A run is found by its session where no two runs are for one session. -/
theorem run?_of_mem
    {station : Station}
    (distinct : (station.runs.map Run.session).Nodup)
    {run : Run}
    (member : run ∈ station.runs) :
    station.run? run.session = some run := by
  cases found : station.run? run.session with
  | none =>
      have absent := List.find?_eq_none.mp found run member
      simp at absent
  | some other =>
      obtain ⟨isThere, same⟩ := mem_of_run? found
      rw [List.inj_on_of_nodup_map distinct isThere member same]

/-- The process that is found is one of those that there are. -/
theorem mem_of_process?
    {station : Station}
    {number : Nat}
    {process : ServerProcess}
    (found : station.process? number = some process) :
    (number, process) ∈ station.processes := by
  obtain ⟨⟨known, isProcess⟩, isThere, rfl⟩ := Option.map_eq_some_iff.mp found
  have same : known = number := by
    simpa using List.find?_some isThere
  exact same ▸ List.mem_of_find?_eq_some isThere

/-- The client that is found is that of a run. -/
theorem run?_of_client?
    {station : Station}
    {session : Nat}
    {client : Client}
    (found : station.client? session = some client) :
    ∃ run, station.run? session = some run ∧ run.client = some client :=
  Option.bind_eq_some_iff.mp found

theorem client?_modifyRun
    (station : Station)
    (chosen session : Nat)
    {change : Run → Run}
    (sameSession : ∀ run, (change run).session = run.session) :
    (station.modifyRun chosen change).client? session =
      (station.run? session).bind fun run =>
        if session = chosen then (change run).client else run.client := by
  unfold client?
  rw [run?_modifyRun station chosen session sameSession]
  cases station.run? session with
  | none =>
      rfl
  | some run =>
      by_cases same : session = chosen
      · simp [same]
      · simp [same]

theorem client?_modifyClient
    (station : Station)
    (chosen session : Nat)
    (change : Client → Client) :
    (station.modifyClient chosen change).client? session =
      (station.client? session).map fun client =>
        if session = chosen then change client else client := by
  unfold modifyClient
  rw [client?_modifyRun]
  · unfold client?
    cases station.run? session with
    | none =>
        rfl
    | some run =>
        by_cases same : session = chosen
        · simp [same]
        · simp [same]
  · exact fun _ => rfl

end Station

/-! ## Sound stations -/

/-- The right to end a call or a run. -/
inductive Token where
  | call (session number : Nat)
  | run (session : Nat)
  deriving DecidableEq

/-- The tokens that a frame holds. -/
def Frame.tokens : Frame → List Token
  | requested session number _ _ => [.call session number]
  | begin (.runServer session) => [.run session]
  | spawned session _ _ _ => [.run session]
  | greeted session => [.run session]
  | gaveUp session => [.run session]
  | exited session => [.run session]
  | killed session => [.run session]
  | parted session _ _ => [.run session]
  | _ => []

/-- A frame that comes before the server of a session is started. -/
inductive Frame.Starts : Frame → Nat → Prop where
  | begin (session : Nat) : Starts (.begin (.runServer session)) session
  | spawned (session number : Nat) (plan : SpawnPlan) (time : Nat) :
      Starts (.spawned session number plan time) session

/-- A frame that comes before the start of a server holds the token of the run. -/
theorem Frame.Starts.tokens
    {frame : Frame}
    {session : Nat}
    (starts : frame.Starts session) :
    frame.tokens = [.run session] := by
  cases starts <;> rfl

namespace Occurrence

/-- The tokens that are made. -/
def makes : Occurrence → List Token
  | issued session number => [.call session number]
  | _ => []

/-- The tokens that are spent. -/
def spends : Occurrence → List Token
  | settled session number _ => [.call session number]
  | parted session _ _ => [.run session]
  | forsaken session _ => [.run session]
  | _ => []

/-- The number that a request of a session is given. -/
def numberFor? (session : Nat) : Occurrence → Option Nat
  | issued other number => if other = session then some number else none
  | _ => none

end Occurrence

/-- The token of a run that has a task. -/
def Run.tokens (run : Run) : List Token :=
  if run.task.isSome then [.run run.session] else []

/-- The numbers that the requests of a session were given, in order. -/
def requestNumbers (chronicle : List Occurrence) (session : Nat) : List Nat :=
  chronicle.filterMap (Occurrence.numberFor? session)

/-- A call ends with the result of an answer, with the error of an answer, with the end of its
time, or with a failure that no server told. -/
def CallEnds
    (before : List Occurrence)
    (session number : Nat)
    (outcome : Outcome) : Prop :=
  outcome.IsServers → WasAnswered before session number outcome ∨
    ∃ method limit, outcome = .error (Move.requestTimedOut method limit)

namespace Station

/-- The tokens that frames hold. -/
def held (station : Station) : List Token :=
  station.loop.stances.flatMap fun stance => stance.frames.flatMap Frame.tokens

/-- The tokens that were spent. -/
def spent (station : Station) : List Token :=
  station.chronicle.flatMap Occurrence.spends

/-- The tokens that were made. -/
def made (station : Station) : List Token :=
  station.chronicle.flatMap Occurrence.makes ++ station.runs.flatMap Run.tokens

/-- The number of the last request of a session. -/
def lastRequest (station : Station) (session : Nat) : Nat :=
  ((station.client? session).map Client.lastRequest).getD 0

/-- A call is among the unanswered ones of its client, with a promise. -/
def Pends (station : Station) (session number promise : Nat) : Prop :=
  ∃ client, station.client? session = some client ∧ (number, promise) ∈ client.pending

/-- An answer to a call arrived of which the error member is no object, so that it cannot be read. -/
def IsLost (station : Station) (session number : Nat) : Prop :=
  ∃ fields error misuse, .arrived session (.obj fields) ∈ station.chronicle ∧
    IsAnswerTo (.obj fields) number ∧ Json.lookup? "error" fields = some error ∧
    Move.answeredError error = .error misuse

/-- A call has nothing to wait for: it is over, or its promise is settled. -/
inductive IsResolved (station : Station) (session number : Nat) : Prop where
  | closed (isClosed : station.IsClosed session number)
  | settled {promise : Nat}
      (told : station.loop.topic? promise = some (.answer session number))
      (isSettled : station.loop.isSettled promise = true)

/-- What has become of a call that was issued: it has nothing to wait for, or it waits among the
unanswered ones, unless it was lost to an answer that cannot be read. -/
inductive IsAccounted (station : Station) (session number : Nat) : Prop where
  | resolved (isResolved : station.IsResolved session number)
  | waits {promise : Nat} (pends : station.Pends session number promise)
  | lost (isLost : station.IsLost session number)

/-- The start of a session is settled. -/
def IsSettled (station : Station) (session : Nat) : Prop :=
  ∃ run, station.run? session = some run ∧ run.settled.isSet = true

/-- A session is stopped. -/
def IsStopped (station : Station) (session : Nat) : Prop :=
  ∃ entry ∈ station.desk.ledger.entries, entry.id = session ∧ entry.state = .stopped

/-- The run of a session has parted well. -/
structure HasParted (station : Station) (session : Nat) (code : Json) (outcome : Outcome) :
    Prop where
  settled : station.IsSettled session
  stopped : station.IsStopped session
  parts : ∀ process, station.TalksTo session process → station.PartsWith process code outcome

/-- A stop that ended with an outcome has brought the server down, or failed in an impolite way. -/
def HasStopped (station : Station) (session : Nat) (outcome : Outcome) : Prop :=
  ∃ process, station.TalksTo session process ∧
    ((∃ code, station.HasExited process code) ∨ station.WasSignalled process ∨
      ∃ failure, outcome = .error failure ∧ Move.endsPolitely failure = false)

/-- Whoever waits for a process is told about it. -/
structure ProcessFits (station : Station) (number : Nat) (process : ServerProcess) : Prop where
  output : ∀ promise, process.output.reader = some promise →
    station.loop.topic? promise = some .tick
  errors : ∀ channel promise, process.errors = some channel → channel.reader = some promise →
    station.loop.topic? promise = some .tick
  exit : ∀ promise ∈ process.exitWaiters, station.loop.topic? promise = some (.exit number)

/-- Whoever waits for a client is told about it. -/
structure ClientFits (station : Station) (session : Nat) (client : Client) : Prop where
  process : ∃ known, station.process? client.process = some known
  pending : ∀ entry ∈ client.pending,
    station.loop.topic? entry.2 = some (.answer session entry.1) ∧
      .call session entry.1 ∈ station.made
  reader : ∀ task, client.reader = some task → station.loop.topic? task = some .reading
  drain : ∀ task, client.drain = some task → station.loop.topic? task = some .draining
  quiescent : ∀ promise ∈ client.quiescent.waiters, station.loop.topic? promise = some .tick

/-- A run belongs to a session, to its task, and to its client. -/
structure RunFits (station : Station) (run : Run) : Prop where
  known : run.session ∈ station.desk.ledger.ids
  task : ∀ task, run.task = some task → station.loop.topic? task = some (.run run.session)
  settled : ∀ promise ∈ run.settled.waiters, station.loop.topic? promise = some .tick
  client : ∀ client, run.client = some client → station.ClientFits run.session client

/-- The runs of a station belong to different sessions. -/
structure RunsFit (station : Station) : Prop where
  distinct : (station.runs.map Run.session).Nodup
  each : ∀ run ∈ station.runs, station.RunFits run
  tasks : ∀ {task session}, station.loop.topic? task = some (.run session) →
    ∃ run ∈ station.runs, run.session = session ∧ run.task = some task

/-- The manager is at rest. -/
structure DeskFits (station : Station) : Prop where
  numbered : station.desk.ledger.Numbered
  silent : station.desk.orders = []

/-- The record bears out what calls, runs and stops came to. -/
structure TaleFits (station : Station) : Prop where
  numbers : ∀ session, requestNumbers station.chronicle session =
    List.range' 1 (station.lastRequest session)
  calls : ∀ before session number outcome after,
    station.chronicle = before ++ .settled session number outcome :: after →
      CallEnds before session number outcome
  partings : ∀ session code outcome, .parted session code outcome ∈ station.chronicle →
    station.HasParted session code outcome
  stops : ∀ session outcome, .stopped session outcome ∈ station.chronicle →
    station.HasStopped session outcome
  starts : ∀ session process, .spawned session process ∈ station.chronicle →
    station.TalksTo session process
  forsaken : ∀ session failure, .forsaken session failure ∈ station.chronicle →
    failure = .cancelled ∨
      failure = .load .noHome ∧ searchPath? station.environment = none
  accounted : ∀ session number, .issued session number ∈ station.chronicle →
    station.IsAccounted session number
  hangUps : ∀ before session cause after,
    station.chronicle = before ++ .hungUp session cause :: after →
      ∀ number, .issued session number ∈ before →
        station.IsResolved session number ∨ station.IsLost session number

/-- Each token is in hand, held, or spent. -/
def Balanced (station : Station) (hand : List Token) : Prop :=
  (hand ++ (station.held ++ station.spent)).Perm station.made

/-- A session whose server is still to be started has no client, and a call that goes on was
written. -/
structure FrameFits (station : Station) (frame : Frame) : Prop where
  early : ∀ session, frame.Starts session → station.client? session = none
  written : ∀ session number, .call session number ∈ frame.tokens →
    .written session number ∈ station.chronicle

/-- What holds of a station at every moment, with some tokens in hand. -/
structure Sound (hand : List Token) (station : Station) : Prop where
  loop : station.loop.Fits station.Holds station.Rests
  processes : ∀ entry ∈ station.processes, station.ProcessFits entry.1 entry.2
  runs : station.RunsFit
  desk : station.DeskFits
  tale : station.TaleFits
  balanced : station.Balanced hand
  frames : ∀ stance ∈ station.loop.stances, ∀ frame ∈ stance.frames, station.FrameFits frame

/-- What stays as it is while a task goes on. -/
structure Onward (before after : Station) : Prop extends before.Lasts after where
  grows : before.loop.Grows after.loop

theorem Onward.refl (station : Station) : station.Onward station :=
  ⟨.refl station, .refl station.loop⟩

theorem Onward.trans
    {first second third : Station}
    (early : first.Onward second)
    (late : second.Onward third) :
    first.Onward third :=
  ⟨early.toLasts.trans late.toLasts, early.grows.trans late.grows⟩

/-- No client appears. -/
def NoNewClient (before after : Station) : Prop :=
  ∀ session, before.client? session = none → after.client? session = none

/-- No client appears where runs stay as they are. -/
theorem noNewClient_of_runs_eq
    {before after : Station}
    (same : after.runs = before.runs) :
    before.NoNewClient after := by
  intro session missing
  unfold client? run? at missing ⊢
  rwa [same]

/-- Calls that wait go on waiting where runs stay as they are. -/
theorem Pends.of_runs_eq
    {before after : Station}
    {session number promise : Nat}
    (pends : before.Pends session number promise)
    (same : after.runs = before.runs) :
    after.Pends session number promise := by
  unfold Pends client? run? at pends ⊢
  rwa [same]

theorem NoNewClient.trans
    {first second third : Station}
    (early : first.NoNewClient second)
    (late : second.NoNewClient third) :
    first.NoNewClient third :=
  fun session missing => late session (early session missing)

/-- A frame that holds no tokens fits. -/
theorem FrameFits.of_free
    {station : Station}
    {frame : Frame}
    (free : frame.tokens = []) :
    station.FrameFits frame := by
  refine ⟨fun session starts => ?_, fun session number holds => ?_⟩
  · cases starts.tokens.symm.trans free
  · rw [free] at holds
    cases holds

/-- A frame that takes something fits, unless a server is still to be started after it. -/
theorem Takes.frameFits
    {station : Station}
    {frame : Frame}
    {wanted given : Topic}
    (taken : station.Takes frame wanted given)
    (late : ∀ session, ¬frame.Starts session) :
    station.FrameFits frame := by
  refine ⟨fun session starts => (late session starts).elim, fun session number holds => ?_⟩
  cases taken with
  | requested written =>
      cases List.mem_singleton.mp holds
      exact written
  | @begin job _ =>
      cases job with
      | runServer other =>
          cases List.mem_singleton.mp holds
      | _ =>
          cases holds
  | plain isPlain =>
      cases frame with
      | requested _ _ _ _ =>
          cases isPlain
      | begin _ =>
          cases isPlain
      | _ =>
          simp [Frame.tokens] at holds
  | _ =>
      simp [Frame.tokens] at holds

/-- A frame still fits where no client appears. -/
theorem FrameFits.later
    {before after : Station}
    {frame : Frame}
    (fits : before.FrameFits frame)
    (noNew : before.NoNewClient after)
    (grows : before.chronicle <+: after.chronicle) :
    after.FrameFits frame where
  early session starts := noNew session (fits.early session starts)
  written session number holds := grows.subset (fits.written session number holds)

/-! ## What is left alone -/

section

variable {before after : Station} {hand : List Token} (sound : before.Sound hand)
  (lasts : before.Lasts after)

include lasts

/-- A client that was there already talks to the same process. -/
theorem Lasts.talked
    (noNew : before.NoNewClient after)
    {session process : Nat}
    (talks : after.TalksTo session process) :
    before.TalksTo session process := by
  obtain ⟨client, found, rfl⟩ := talks
  cases was : before.client? session with
  | none =>
      rw [noNew session was] at found
      cases found
  | some old =>
      obtain ⟨now, isNow, same⟩ := lasts.talksTo ⟨old, was, rfl⟩
      cases found.symm.trans isNow
      exact ⟨old, was, same.symm⟩

/-- What a run has come to stays so. -/
theorem Lasts.hasParted
    {session : Nat}
    {code : Json}
    {outcome : Outcome}
    (parted : before.HasParted session code outcome)
    (talked : ∀ process, after.TalksTo session process → before.TalksTo session process) :
    after.HasParted session code outcome := by
  obtain ⟨⟨run, found, isSet⟩, ⟨entry, member, isEntry, isStopped⟩, parts⟩ := parted
  refine ⟨?_, ?_, fun process talks => lasts.partsWith (parts process (talked process talks))⟩
  · obtain ⟨now, isNow, staysSet, _⟩ := lasts.runs found
    exact ⟨now, isNow, staysSet isSet⟩
  · obtain ⟨now, isNow, sameId, _, staysStopped⟩ := lasts.sessions entry member
    exact ⟨now, isNow, sameId.trans isEntry, staysStopped isStopped⟩

/-- What a stop has come to stays so. -/
theorem Lasts.hasStopped
    {session : Nat}
    {outcome : Outcome}
    (stopped : before.HasStopped session outcome) :
    after.HasStopped session outcome := by
  obtain ⟨process, talks, ⟨code, exited⟩ | signalled | failed⟩ := stopped
  · exact ⟨process, lasts.talksTo talks, .inl ⟨code, lasts.hasExited exited⟩⟩
  · exact ⟨process, lasts.talksTo talks, .inr (.inl (lasts.wasSignalled signalled))⟩
  · exact ⟨process, lasts.talksTo talks, .inr (.inr failed)⟩

/-- A call that has nothing to wait for stays so. -/
theorem Lasts.isResolved
    {session number : Nat}
    (isResolved : before.IsResolved session number) :
    after.IsResolved session number := by
  cases isResolved with
  | closed isClosed =>
      exact .closed (lasts.isClosed isClosed)
  | settled told isSettled =>
      refine .settled (lasts.loop.topics told) ?_
      obtain ⟨outcome, same⟩ := Option.isSome_iff_exists.mp isSettled
      exact Option.isSome_iff_exists.mpr ⟨outcome, lasts.loop.outcomes same⟩

/-- A call that was lost stays so. -/
theorem Lasts.isLost
    {session number : Nat}
    (isLost : before.IsLost session number) :
    after.IsLost session number := by
  obtain ⟨fields, error, misuse, arrived, rest⟩ := isLost
  exact ⟨fields, error, misuse, lasts.mem arrived, rest⟩

/-- What has become of a call stays so, as long as the calls that wait do not get lost. -/
theorem Lasts.isAccounted
    {session number : Nat}
    (accounted : before.IsAccounted session number)
    (waits : ∀ promise, before.Pends session number promise →
      after.IsAccounted session number) :
    after.IsAccounted session number := by
  cases accounted with
  | resolved isResolved =>
      exact .resolved (lasts.isResolved isResolved)
  | waits pends =>
      exact waits _ pends
  | lost isLost =>
      exact .lost (lasts.isLost isLost)

/-- A process that was left alone fits. -/
theorem Lasts.processFits
    {number : Nat}
    {process : ServerProcess}
    (fits : before.ProcessFits number process) :
    after.ProcessFits number process where
  output promise reads := lasts.loop.topics (fits.output promise reads)
  errors channel promise logs reads := lasts.loop.topics (fits.errors channel promise logs reads)
  exit promise waits := lasts.loop.topics (fits.exit promise waits)

/-- A client that was left alone fits. -/
theorem Lasts.clientFits
    {session : Nat}
    {client : Client}
    (fits : before.ClientFits session client)
    (made : ∀ token ∈ before.made, token ∈ after.made) :
    after.ClientFits session client where
  process := by
    obtain ⟨known, found⟩ := fits.process
    obtain ⟨now, isNow, _⟩ := lasts.processes found
    exact ⟨now, isNow⟩
  pending entry waits := by
    obtain ⟨told, isMade⟩ := fits.pending entry waits
    exact ⟨lasts.loop.topics told, made _ isMade⟩
  reader task reads := lasts.loop.topics (fits.reader task reads)
  drain task drains := lasts.loop.topics (fits.drain task drains)
  quiescent promise waits := lasts.loop.topics (fits.quiescent promise waits)

/-- The session of a run stays known. -/
theorem Lasts.ids
    {id : Nat}
    (known : id ∈ before.desk.ledger.ids) :
    id ∈ after.desk.ledger.ids := by
  obtain ⟨entry, member, rfl⟩ := List.mem_map.mp known
  obtain ⟨now, isNow, sameId, _⟩ := lasts.sessions entry member
  exact List.mem_map.mpr ⟨now, isNow, sameId⟩

/-- A run that was left alone fits. -/
theorem Lasts.runFits
    {run : Run}
    (fits : before.RunFits run)
    (made : ∀ token ∈ before.made, token ∈ after.made) :
    after.RunFits run where
  known := lasts.ids fits.known
  task task isTask := lasts.loop.topics (fits.task task isTask)
  settled promise waits := lasts.loop.topics (fits.settled promise waits)
  client client isClient := lasts.clientFits (fits.client client isClient) made

include sound

/-- The loop that was left alone fits. -/
theorem Sound.loopFits
    (same : after.loop = before.loop) :
    after.loop.Fits after.Holds after.Rests := by
  rw [same]
  exact sound.loop.mono (fun _ _ => lasts.holds) fun _ => lasts.rests

/-- Processes that were left alone fit. -/
theorem Sound.processesFit
    (same : after.processes = before.processes) :
    ∀ entry ∈ after.processes, after.ProcessFits entry.1 entry.2 := by
  intro entry member
  exact lasts.processFits (sound.processes entry (same ▸ member))

/-- Runs that were left alone fit. -/
theorem Sound.runsFit
    (same : after.runs = before.runs)
    (made : ∀ token ∈ before.made, token ∈ after.made)
    (tasks : ∀ {task session}, after.loop.topic? task = some (.run session) →
      before.loop.topic? task = some (.run session)) :
    after.RunsFit where
  distinct := by
    rw [same]
    exact sound.runs.distinct
  each run member := lasts.runFits (sound.runs.each run (same ▸ member)) made
  tasks isRun := by
    rw [same]
    exact sound.runs.tasks (tasks isRun)

/-- A record that was left alone bears out what it did. -/
theorem Sound.taleFits
    (same : after.chronicle = before.chronicle)
    (noNew : before.NoNewClient after)
    (numbers : ∀ session, after.lastRequest session = before.lastRequest session)
    (waits : ∀ session number promise, before.Pends session number promise →
      after.IsAccounted session number) :
    after.TaleFits where
  numbers session := by
    rw [same, numbers]
    exact sound.tale.numbers session
  calls := same ▸ sound.tale.calls
  partings session code outcome parted :=
    lasts.hasParted (sound.tale.partings session code outcome (same ▸ parted))
      fun _ => lasts.talked noNew
  stops session outcome stopped := lasts.hasStopped (sound.tale.stops session outcome (same ▸ stopped))
  starts session process spawned := lasts.talksTo (sound.tale.starts session process (same ▸ spawned))
  forsaken session failure isForsaken := by
    rw [lasts.environment]
    exact sound.tale.forsaken session failure (same ▸ isForsaken)
  accounted session number issued :=
    lasts.isAccounted (sound.tale.accounted session number (same ▸ issued)) (waits session number)
  hangUps early session cause late split number issued :=
    (sound.tale.hangUps early session cause late (same ▸ split) number issued).imp
      lasts.isResolved lasts.isLost

/-- Frames fit where no client appears, if all that hold tokens were there before. -/
theorem Sound.framesFit
    (noNew : before.NoNewClient after)
    (stances : ∀ stance ∈ after.loop.stances, ∀ frame ∈ stance.frames,
      frame.tokens = [] ∨ ∃ old ∈ before.loop.stances, frame ∈ old.frames) :
    ∀ stance ∈ after.loop.stances, ∀ frame ∈ stance.frames, after.FrameFits frame := by
  intro stance member frame isFrame
  rcases stances stance member frame isFrame with free | ⟨old, wasThere, wasFrame⟩
  · exact .of_free free
  · exact (sound.frames old wasThere frame wasFrame).later noNew lasts.chronicle

end

end Station

end AnalyzerSessions
