import AnalyzerSessions.Proofs.ManagerRuns
import AnalyzerSessions.Proofs.StationSteps
import AnalyzerSessions.Station.Stimulus

namespace AnalyzerSessions

/-!
# Runs of stations

A run of a station is whatever can happen at it, in any order: tasks and turns go
on, jobs are given, the manager does something safe, servers do something, tasks are
cancelled from outside, and time passes.  A new station is poised, so that every station of a run of it is.
-/

namespace Station

/-- A process that nobody waits for. -/
structure HasNoReaders (process : ServerProcess) : Prop where
  output : process.output.reader = none
  errors : ∀ channel, process.errors = some channel → channel.reader = none
  exit : process.exitWaiters = []

/-- A run that has not begun: it has no task, and its client has said nothing. -/
structure IsIdle (station : Station) (run : Run) : Prop where
  known : run.session ∈ station.desk.ledger.ids
  task : run.task = none
  settled : run.settled.waiters = []
  client : ∀ client, run.client = some client → ∃ number logFile timeout process,
    client = .fresh number logFile timeout ∧ station.process? number = some process

/-- A station where nothing has happened. -/
structure IsNew (station : Station) : Prop where
  loop : station.loop = .empty
  chronicle : station.chronicle = []
  numbered : station.desk.ledger.Numbered
  silent : station.desk.orders = []
  processes : ∀ entry ∈ station.processes, HasNoReaders entry.2
  distinct : (station.runs.map Run.session).Nodup
  runs : ∀ run ∈ station.runs, station.IsIdle run

/-- A station with nothing but a desk is new. -/
theorem isNew_fresh
    {desk : Desk}
    (numbered : desk.ledger.Numbered)
    (silent : desk.orders = [])
    (environment : Environment)
    (processId : Int)
    (transport : Transport)
    (requestTimeout : Json)
    (plans : List SpawnPlan) :
    (Station.fresh desk environment processId transport requestTimeout plans).IsNew := by
  refine ⟨rfl, rfl, numbered, silent, fun entry member => ?_, .nil, fun run member => ?_⟩
  · cases member
  · cases member

variable {station : Station}

theorem IsIdle.mono
    {after : Station}
    {run : Run}
    (idle : station.IsIdle run)
    (ids : ∀ id ∈ station.desk.ledger.ids, id ∈ after.desk.ledger.ids)
    (processes : ∀ number process, station.process? number = some process →
      after.process? number = some process) :
    after.IsIdle run := by
  refine ⟨ids _ idle.known, idle.task, idle.settled, fun client isClient => ?_⟩
  obtain ⟨number, logFile, timeout, process, same, found⟩ := idle.client client isClient
  exact ⟨number, logFile, timeout, process, same, processes number process found⟩

/-- A new station stays new when a session that it does not know is put in place there. -/
theorem IsNew.withClient
    {session : Session}
    {process : ServerProcess}
    (isNew : station.IsNew)
    (unknown : session.id ∉ station.desk.ledger.ids)
    (noReaders : HasNoReaders process)
    (logFile : Option Path) :
    (station.withClient session logFile process).IsNew := by
  have ids : (station.withClient session logFile process).desk.ledger.ids =
      station.desk.ledger.ids ++ [session.id] := by
    simp [Ledger.ids, Desk.ledger, Station.withClient, Registry.add]
  have known : ∀ id ∈ station.desk.ledger.ids,
      id ∈ (station.withClient session logFile process).desk.ledger.ids :=
    fun id member => ids ▸ List.mem_append_left _ member
  have processes : ∀ number known, station.process? number = some known →
      (station.withClient session logFile process).process? number = some known := by
    intro number known found
    unfold process? at found ⊢
    obtain ⟨entry, isThere, same⟩ := Option.map_eq_some_iff.mp found
    exact Option.map_eq_some_iff.mpr ⟨entry, by
      rw [Station.withClient, List.find?_append, isThere, Option.some_or], same⟩
  refine ⟨isNew.loop, isNew.chronicle, ⟨?_, fun id member => ?_, isNew.numbered.listedDistinct,
    fun id listed => known id (isNew.numbered.listedKnown id listed),
    fun id launched => known id (isNew.numbered.launchedKnown id launched)⟩,
    isNew.silent, fun entry member => ?_, ?_, fun run member => ?_⟩
  · rw [ids]
    exact isNew.numbered.distinct.append (List.nodup_singleton _) (by simpa using unknown)
  · rw [ids] at member
    -- The number that is given out next is above that of the session and above the old ones.
    show id < max station.desk.nextSession (session.id + 1)
    rcases List.mem_append.mp member with old | isLast
    · exact Nat.lt_of_lt_of_le (isNew.numbered.below id old) (Nat.le_max_left _ _)
    · cases List.mem_singleton.mp isLast
      exact Nat.lt_of_lt_of_le (Nat.lt_succ_self _) (Nat.le_max_right _ _)
  · rcases List.mem_append.mp member with old | isLast
    · exact isNew.processes entry old
    · cases List.mem_singleton.mp isLast
      exact noReaders
  · show (List.map Run.session (station.runs ++ [_])).Nodup
    rw [List.map_append]
    refine isNew.distinct.append (List.nodup_singleton _) fun id old isLast => ?_
    cases List.mem_singleton.mp isLast
    obtain ⟨run, isRun, same⟩ := List.mem_map.mp old
    have sameId : run.session = session.id := same
    exact unknown (sameId ▸ (isNew.runs run isRun).known)
  · rcases List.mem_append.mp member with old | isLast
    · exact (isNew.runs run old).mono known processes
    · cases List.mem_singleton.mp isLast
      refine ⟨by simp [ids], rfl, rfl, fun client isClient => ?_⟩
      cases isClient
      have seated : ((station.processes ++ [(station.launches + 1, process)]).find?
          fun entry => entry.1 == station.launches + 1).isSome := by
        simp
      obtain ⟨entry, found⟩ := Option.isSome_iff_exists.mp seated
      exact ⟨_, _, _, entry.2, rfl, Option.map_eq_some_iff.mpr ⟨entry, found, rfl⟩⟩

/-- The loop of a new station fits. -/
theorem IsNew.loopFits (isNew : station.IsNew) :
    station.loop.Fits station.Holds station.Rests := by
  have noTopic : ∀ promise topic, (Loop.empty : Loop Frame).topic? promise ≠ some topic := by
    intro promise topic told
    cases told
  have noStance : ∀ stance, stance ∉ (Loop.empty : Loop Frame).stances := by
    intro stance member
    cases member
  rw [isNew.loop]
  refine ⟨fun told _ => (noTopic _ _ told).elim, fun stance member => (noStance stance member).elim,
    .nil, fun stance member => (noStance stance member).elim,
    fun stance member => (noStance stance member).elim, fun running => ?_, ?_,
    fun told _ => (noTopic _ _ told).elim⟩
  · cases running
  · intro promise released
    cases released with
    | timer started =>
        cases started
    | turn due =>
        rcases due with current | ready
        · cases current
        · cases ready
    | waiter found _ =>
        cases found

/-- The client of a run that has not begun has made no requests. -/
theorem IsNew.lastRequest
    (isNew : station.IsNew)
    (session : Nat) :
    station.lastRequest session = 0 := by
  unfold Station.lastRequest
  cases found : station.client? session with
  | none =>
      rfl
  | some client =>
      obtain ⟨run, isRun, isClient⟩ := run?_of_client? found
      obtain ⟨_, _, _, _, rfl, _⟩ := (isNew.runs run (mem_of_run? isRun).1).client client isClient
      rfl

/-- A new station is poised. -/
theorem IsNew.poised (isNew : station.IsNew) : station.Poised := by
  have noTopic : ∀ promise, station.loop.topic? promise = none := by
    intro promise
    rw [isNew.loop]
    rfl
  have noStances : station.loop.stances = [] := by
    rw [isNew.loop]
    rfl
  have noOccurrence : ∀ occurrence, occurrence ∉ station.chronicle := by
    intro occurrence member
    rw [isNew.chronicle] at member
    cases member
  refine ⟨⟨isNew.loopFits, fun entry member => ?_, ⟨isNew.distinct, fun run member => ?_, ?_⟩,
    ⟨isNew.numbered, isNew.silent⟩, ⟨fun session => ?_, ?_, ?_, ?_, ?_, ?_, ?_, ?_⟩, ?_, ?_⟩, ?_⟩
  · obtain ⟨output, errors, exit⟩ := isNew.processes entry member
    refine ⟨fun promise reads => ?_, fun channel promise logs reads => ?_, fun promise waits => ?_⟩
    · cases output.symm.trans reads
    · cases (errors channel logs).symm.trans reads
    · rw [exit] at waits
      cases waits
  · obtain ⟨known, task, settled, clients⟩ := isNew.runs run member
    refine ⟨known, fun number isTask => ?_, fun promise waits => ?_, fun client isClient => ?_⟩
    · cases task.symm.trans isTask
    · rw [settled] at waits
      cases waits
    · obtain ⟨number, logFile, timeout, process, rfl, isThere⟩ := clients client isClient
      exact ⟨⟨process, isThere⟩, nofun, nofun, nofun, nofun⟩
  · intro task session isRun
    cases (noTopic task).symm.trans isRun
  · rw [isNew.chronicle, isNew.lastRequest]
    rfl
  · intro before session number outcome after same
    rw [isNew.chronicle] at same
    cases before <;> cases same
  · exact fun session code outcome member => (noOccurrence _ member).elim
  · exact fun session outcome member => (noOccurrence _ member).elim
  · exact fun session process member => (noOccurrence _ member).elim
  · exact fun session failure member => (noOccurrence _ member).elim
  · exact fun session number member => (noOccurrence _ member).elim
  · intro before session cause after same
    rw [isNew.chronicle] at same
    cases before <;> cases same
  · have nothingMade : station.runs.flatMap Run.tokens = [] := by
      refine List.flatMap_eq_nil_iff.mpr fun run member => ?_
      simp [Run.tokens, (isNew.runs run member).task]
    simp [Balanced, held, spent, made, noStances, isNew.chronicle, nothingMade]
  · rw [noStances]
    intro stance member
    cases member
  · intro task outcome running
    rw [isNew.loop] at running
    cases running

/-! ## What can happen -/

/-- Something that happens at a station. -/
inductive Happens (before : Station) : Station → Prop where
  /-- The running task goes on, or the next turn is taken. -/
  | step :
      Happens before before.step
  /-- A task is given a job, which is not the run of a server. -/
  | job {job : Job}
      (admitted : before.Admits job)
      (ordinary : ¬job.topic.IsSteady) :
      Happens before (before.modifyLoop fun loop => (loop.spawn job.topic [.begin job]).2)
  /-- The manager does something, and the transport what it is told then. -/
  | act {α : Type} {act : Act α}
      (safe : act.IsSafeAt before.desk) :
      Happens before (Move.perform (Move.atDesk act) before).2
  /-- Something on the desk changes that does not concern sessions. -/
  | outside {desk : Desk}
      (same : desk.ledger = before.desk.ledger) :
      Happens before { before with desk }
  /-- A server does something by itself. -/
  | server (number : Nat) (act : ServerAct) :
      Happens before (before.doServerAct number act)
  /-- Something that is waited for is cancelled from outside, a task or the run of a server too. -/
  | cancel (promise : Nat) :
      Happens before (before.modifyLoop fun loop => loop.cancel promise)
  /-- The clock moves. -/
  | clock (time : Number.Binary64) :
      Happens before (before.modifyLoop fun loop => loop.moveClock time)
  /-- A timer of its own is set. -/
  | timer (seconds : Number.Binary64) :
      Happens before (before.modifyLoop fun loop =>
        (loop.newPromise .tick).2.settleAfter (loop.newPromise .tick).1 seconds)
  /-- Cancelled timers are removed. -/
  | tidy :
      Happens before (before.modifyLoop Loop.tidyTimers)

open Move (Comes)

/-- A station at which something happens beside the running task stays poised. -/
theorem Poised.comes
    {after : Station}
    (poised : station.Poised)
    (comes : Comes [] station after) :
    after.Poised := by
  refine ⟨comes.sound, fun {task outcome} running => ?_⟩
  have ran := comes.onward.grows.running.symm.trans running
  obtain ⟨stance, member, rfl⟩ := poised.toSound.loop.running ran
  have stillThere := comes.onward.grows.stances.subset member
  have goes := comes.onward.goes (poised.goes ran)
  rwa [poised.toSound.loop.frames_of_mem member,
    ← comes.sound.loop.frames_of_mem stillThere] at goes

/-- The clock may move. -/
theorem Sound.moveClock
    {hand : List Token}
    (sound : station.Sound hand)
    (time : Number.Binary64) :
    Comes hand station (station.modifyLoop fun loop => loop.moveClock time) := by
  have grows : station.loop.Grows (station.loop.moveClock time) :=
    Loop.grows_of_same (fun _ => rfl) (fun _ => rfl) rfl rfl
  refine sound.modifyLoop_of_same grows ?_ (fun _ => rfl) rfl
  refine (sound.loopLater (onward_modifyLoop grows).toLasts).of_same (fun _ => rfl) (fun _ => rfl)
    rfl rfl fun promise released => ?_
  exact sound.loop.ticking promise (Loop.releases_of_same released rfl rfl rfl rfl)

/-- Cancelled timers may be removed. -/
theorem Sound.tidyTimers
    {hand : List Token}
    (sound : station.Sound hand) :
    Comes hand station (station.modifyLoop Loop.tidyTimers) := by
  have grows : station.loop.Grows station.loop.tidyTimers :=
    Loop.grows_of_same (fun _ => rfl) (fun _ => rfl) rfl rfl
  exact sound.modifyLoop_of_same grows
    (sound.loopLater (onward_modifyLoop grows).toLasts).tidyTimers (fun _ => rfl) rfl

/-- A timer of its own may be set. -/
theorem Sound.ownTimer
    {hand : List Token}
    (sound : station.Sound hand)
    (seconds : Number.Binary64) :
    Comes hand station (station.modifyLoop fun loop =>
      (loop.newPromise .tick).2.settleAfter (loop.newPromise .tick).1 seconds) := by
  have promised : Comes hand station (station.modifyLoop fun loop => (loop.newPromise .tick).2) :=
    sound.newPromise id
  have told : (station.loop.newPromise .tick).2.topic? station.loop.promises.length =
      some .tick := by
    rw [Loop.topic?_newPromise, if_pos rfl]
  exact promised.trans (promised.sound.settleAfter told seconds)

/-- A server may do something by itself. -/
theorem Sound.doServerAct
    {hand : List Token}
    (sound : station.Sound hand)
    (number : Nat)
    (act : ServerAct) :
    Comes hand station (station.doServerAct number act) := by
  cases act with
  | send bytes =>
      exact sound.changeOutput number fun stream => stream.feed bytes
  | endOutput =>
      exact sound.changeOutput number _
  | log bytes =>
      exact sound.changeErrors number fun stream => stream.feed bytes
  | exit code =>
      exact sound.exitProcess number code
  | breakPipe =>
      have broken : Comes hand station
          (station.modifyProcess number fun process => { process with isBroken := true }) :=
        sound.modifyProcess (fun _ _ _ => id) (fun _ => List.Subset.refl _) fun process fits =>
          ⟨fits.output, fits.errors, fits.exit⟩
      exact broken

/-- The manager may do something safe, and the transport what it is told then. -/
theorem Sound.act
    {hand : List Token}
    {α : Type}
    {act : Act α}
    (sound : station.Sound hand)
    (safe : act.IsSafeAt station.desk) :
    Comes hand station (Move.perform (Move.atDesk act) station).2 := by
  have kept := Move.keeps_atDesk sound safe
  unfold Move.Keeps at kept
  generalize Move.perform (Move.atDesk act) station = result at kept ⊢
  rcases result with ⟨failure | value, after⟩
  · exact kept.1
  · exact kept.1

/-- Whatever happens leaves a poised station poised, and nothing that stays is lost. -/
theorem Poised.happens
    {after : Station}
    (poised : station.Poised)
    (happens : station.Happens after) :
    after.Poised ∧ station.Lasts after := by
  have beside : ∀ {after : Station}, Comes [] station after →
      after.Poised ∧ station.Lasts after :=
    fun comes => ⟨poised.comes comes, comes.onward.toLasts⟩
  have sound := poised.toSound
  cases happens with
  | step =>
      exact poised.step
  | job admitted ordinary =>
      exact beside (sound.spawn admitted ordinary)
  | act safe =>
      exact beside (sound.act safe)
  | @outside desk same =>
      have silent : desk.orders = [] :=
        (congrArg Ledger.orders same).trans sound.desk.silent
      exact beside (sound.withPapers same silent station.launches)
  | server number act =>
      exact beside (sound.doServerAct number act)
  | cancel promise =>
      exact beside (sound.cancel promise)
  | clock time =>
      exact beside (sound.moveClock time)
  | timer seconds =>
      exact beside (sound.ownTimer seconds)
  | tidy =>
      exact beside sound.tidyTimers

/-- What every step keeps holds still when steps were taken until nothing can go on. -/
theorem holds_settleWithin
    {holds : Station → Prop}
    (steps : ∀ station, holds station → holds station.step)
    (fuel : Nat)
    (held : holds station) :
    holds (settleWithin fuel station) := by
  induction fuel generalizing station with
  | zero =>
      exact held
  | succ fuel inductionHypothesis =>
      unfold settleWithin
      split
      · exact held
      · exact inductionHypothesis (steps station held)

end Station

/-- A station that has come from another one by what happened. -/
inductive StationRun (initial : Station) : Station → Prop where
  | begin :
      StationRun initial initial
  | next {station after : Station}
      (earlier : StationRun initial station)
      (happened : station.Happens after) :
      StationRun initial after

namespace StationRun

variable {initial station : Station}

/-- Every station of a run of a new station is poised, and has lost nothing that stays. -/
theorem poised
    (isNew : initial.IsNew)
    (run : StationRun initial station) :
    station.Poised ∧ initial.Lasts station := by
  induction run with
  | begin =>
      exact ⟨isNew.poised, .refl initial⟩
  | next _ happened inductionHypothesis =>
      obtain ⟨poisedBefore, lasted⟩ := inductionHypothesis
      obtain ⟨poisedAfter, lasts⟩ := poisedBefore.happens happened
      exact ⟨poisedAfter, lasted.trans lasts⟩

/-- Taking steps until nothing can go on is part of a run. -/
theorem settleWithin
    (fuel : Nat)
    (run : StationRun initial station) :
    StationRun initial (Station.settleWithin fuel station) :=
  Station.holds_settleWithin (fun _ run => run.next .step) fuel run

/-- Letting everything go on that can is part of a run. -/
theorem settle (run : StationRun initial station) : StationRun initial station.settle :=
  (run.settleWithin _).next .tidy

/-- Moving the clock to a time is part of a run. -/
theorem passTo
    (run : StationRun initial station)
    (time : Number.Binary64) :
    StationRun initial (station.passTo time) :=
  (run.next (.clock time)).settle

/-- Letting time pass until a promise is settled is part of a run. -/
theorem passWithin
    (fuel : Nat)
    (run : StationRun initial station)
    (promise : Nat) :
    StationRun initial (Station.passWithin fuel station promise) := by
  induction fuel generalizing station with
  | zero =>
      exact run
  | succ fuel inductionHypothesis =>
      unfold Station.passWithin
      split
      · exact inductionHypothesis (run.passTo _)
      · exact run

/-- Letting a number of seconds pass is part of a run. -/
theorem pass
    (run : StationRun initial station)
    (seconds : Number.Binary64) :
    StationRun initial (station.pass seconds) := by
  unfold Station.pass
  split
  · exact (run.next (.timer seconds)).settle.passWithin _ _
  · exact run.settle

/-- Giving a task a job is part of a run. -/
theorem undertake
    {job : Job}
    (run : StationRun initial station)
    (admitted : station.Admits job)
    (ordinary : ¬job.topic.IsSteady) :
    StationRun initial (station.undertake job).2 :=
  (run.next (.job admitted ordinary)).settle

/-- Doing a job to its end is part of a run. -/
theorem complete
    {job : Job}
    (run : StationRun initial station)
    (admitted : station.Admits job)
    (ordinary : ¬job.topic.IsSteady) :
    StationRun initial (station.complete job).2 :=
  (run.undertake admitted ordinary).passWithin _ _

/-- Doing something at the desk is part of a run. -/
theorem act
    {α : Type}
    {act : Act α}
    (run : StationRun initial station)
    (safe : act.IsSafeAt station.desk) :
    StationRun initial (station.act act).2 :=
  (run.next (.act safe)).settle

/-- Starting a session is part of a run. -/
theorem start
    (isNew : initial.IsNew)
    (run : StationRun initial station)
    (overrides : Config.Entries Setting)
    (buffer : Option Int) :
    StationRun initial (station.act (Act.start overrides buffer)).2 := by
  have desk := (run.poised isNew).1.toSound.desk
  exact run.act (Act.isSafeAt_start desk.numbered desk.silent overrides buffer)

end StationRun

/-! ## Stations to begin with -/

/-- No variables, and an account whose home is the root. -/
def Environment.bare : Environment :=
  ⟨[], some "/"⟩

/-- A home directory that would have to be looked up itself. -/
def Environment.homeless : Environment :=
  ⟨[("HOME", "~")], none⟩

namespace Station

/-- A station at a bare desk, where servers are really started, as planned. -/
def vacant (environment : Environment) (plans : List SpawnPlan) : Station :=
  .fresh .bare environment 1 .live .null plans

/-- A vacant station is new. -/
theorem isNew_vacant
    (environment : Environment)
    (plans : List SpawnPlan) :
    (vacant environment plans).IsNew := by
  refine isNew_fresh ?_ rfl environment 1 .live .null plans
  exact (Desk.IsNew.orderly ⟨rfl, rfl⟩).toNumbered

/-- What is asked for to start a session that claims no capabilities, so that its client introduces
itself in few words. -/
def terse : Config.Entries Setting :=
  [("capabilities", .table (["general", "window", "workspace", "textDocument", "experimental"].map
    fun name => (name, .leaf (.plain .null))))]

/-- A vacant station where a session was started. -/
def launched (environment : Environment) (plans : List SpawnPlan) : Station :=
  ((vacant environment plans).act (Act.start terse none)).2

/-- Starting a session at a vacant station is a run. -/
theorem launched_run
    (environment : Environment)
    (plans : List SpawnPlan) :
    StationRun (vacant environment plans) (launched environment plans) :=
  StationRun.begin.start (isNew_vacant environment plans) terse none

/-- A vacant station where one session has a client and a server. -/
def attended : Station :=
  (vacant .bare []).withClient (.fresh 1 serverName none []) none (.ofPlan 1001 .plain)

/-- An attended station is new. -/
theorem isNew_attended : attended.IsNew := by
  refine (isNew_vacant .bare []).withClient (fun known => ?_) ⟨rfl, fun channel logs => ?_, rfl⟩ none
  · cases known
  · cases logs

end Station

end AnalyzerSessions
