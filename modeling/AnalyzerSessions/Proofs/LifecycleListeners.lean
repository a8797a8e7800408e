import AnalyzerSessions.Proofs.ListenerMoments
import AnalyzerSessions.Proofs.SessionLives

namespace AnalyzerSessions

/-!
# Listeners over a run

However the reports of the transport come, the init listeners of a session are
called at most once, when its server is initialized while it is starting, and its
exit listeners are called at the first report of its exit and never again.  What
a session is at the desk decides this, and the reports that came before decide
what it is.
-/

/-! ## Runs with the desks of their calls -/

/-- A call of a manager, with the desk at which it was made. -/
structure Visit where
  desk : Desk
  call : Call

/-- The desk that a visit leaves behind. -/
def Visit.after (around : Surroundings) (visit : Visit) : Desk :=
  visit.call.after around visit.desk

/-- The desks that a manager may come to by a list of visits. -/
inductive VisitedRun (around : Surroundings) (initial : Desk) : List Visit → Desk → Prop where
  | begin :
      VisitedRun around initial [] initial
  | call
      {visits : List Visit}
      {desk : Desk}
      (earlier : VisitedRun around initial visits desk)
      (call : Call)
      (possible : call.IsPossible desk) :
      VisitedRun around initial (visits ++ [⟨desk, call⟩]) (call.after around desk)
  | outside
      {visits : List Visit}
      {desk other : Desk}
      (earlier : VisitedRun around initial visits desk)
      (happened : around.outside desk other) :
      VisitedRun around initial visits other

section

variable {around : Surroundings} {initial desk : Desk} {visits : List Visit}

/-- The calls of visits make a run. -/
theorem VisitedRun.managerRun
    (run : VisitedRun around initial visits desk) :
    ManagerRun around initial (visits.map Visit.call) desk := by
  induction run with
  | begin =>
      exact .begin
  | call _ call possible inductionHypothesis =>
      rw [List.map_append]
      exact inductionHypothesis.call call possible
  | outside _ happened inductionHypothesis =>
      exact inductionHypothesis.outside happened

/-- The calls of every run were made at some desks. -/
theorem ManagerRun.exists_visits
    {calls : List Call}
    (run : ManagerRun around initial calls desk) :
    ∃ visits, visits.map Visit.call = calls ∧ VisitedRun around initial visits desk := by
  induction run with
  | begin =>
      exact ⟨[], rfl, .begin⟩
  | @call calls desk _ call possible inductionHypothesis =>
      obtain ⟨visits, rfl, visited⟩ := inductionHypothesis
      exact ⟨visits ++ [⟨desk, call⟩], List.map_append, visited.call call possible⟩
  | outside _ happened inductionHypothesis =>
      obtain ⟨visits, sameCalls, visited⟩ := inductionHypothesis
      exact ⟨visits, sameCalls, visited.outside happened⟩

/-- Every visit of a run is made at a desk to which the visits before it led. -/
theorem VisitedRun.before
    (run : VisitedRun around initial visits desk)
    {earlier later : List Visit}
    {visit : Visit}
    (split : visits = earlier ++ visit :: later) :
    VisitedRun around initial earlier visit.desk ∧ visit.call.IsPossible visit.desk := by
  induction run generalizing later with
  | begin =>
      simp at split
  | call done call possible inductionHypothesis =>
      rcases List.eq_nil_or_concat later with rfl | ⟨others, last, rfl⟩
      · obtain ⟨rfl, sameVisit⟩ := List.append_inj' split rfl
        cases sameVisit
        exact ⟨done, possible⟩
      · have regrouped : earlier ++ visit :: (others ++ [last]) =
            (earlier ++ visit :: others) ++ [last] := by
          simp
        rw [List.concat_eq_append, regrouped] at split
        exact inductionHypothesis (List.append_inj' split rfl).1
  | outside _ _ inductionHypothesis =>
      exact inductionHypothesis split

/-- From every visit of a run the run goes on. -/
theorem VisitedRun.onward
    (run : VisitedRun around initial visits desk)
    {visit : Visit}
    (member : visit ∈ visits) :
    ∃ calls, ManagerRun around (visit.after around) calls desk := by
  induction run with
  | begin =>
      cases member
  | call _ call possible inductionHypothesis =>
      rcases List.mem_append.mp member with old | new
      · obtain ⟨calls, onward⟩ := inductionHypothesis old
        exact ⟨calls ++ [call], onward.call call possible⟩
      · rw [List.mem_singleton.mp new]
        exact ⟨[], .begin⟩
  | outside _ happened inductionHypothesis =>
      obtain ⟨calls, onward⟩ := inductionHypothesis member
      exact ⟨calls, onward.outside happened⟩

/-- A manager keeps the commands that its sessions offer. -/
theorem ManagerRun.commandNames_eq
    {calls : List Call}
    (new : initial.IsNew)
    (run : ManagerRun around initial calls desk) :
    desk.commandNames = initial.commandNames := by
  have sameBindings := (run.ledger_induction new
    (fun ledger => ledger.bindings = initial.ledger.bindings) rfl
    (fun _ _ _ held turn => turn.bindings_eq.trans held) (fun _ _ _ _ held _ _ => held)
    (fun _ _ _ held apart => (congrArg Ledger.bindings apart.same).trans held)).2
  exact congrArg (List.map CommandBinding.name) sameBindings

/-- A server that was launched is that of a session. -/
theorem ManagerRun.session_of_launched
    {calls : List Call}
    (new : initial.IsNew)
    (run : ManagerRun around initial calls desk)
    {id : Nat}
    (launched : .launch id ∈ desk.orders) :
    ∃ session, desk.registry.get? id = some session := by
  have known := (run.orderly new).launchedKnown id launched
  exact Option.isSome_iff_exists.mp ((desk.isSome_get?_iff id).mpr known)

end

/-! ## Init listeners are called once -/

/-- At a visit the init listeners of a session are due: its server is initialized while it is
starting, and the configuration can be read. -/
structure Visit.Greets (visit : Visit) (id : Nat) : Prop where
  reports : visit.call = .initialized id
  starting : ∃ session, visit.desk.registry.get? id = some session ∧ session.state = .starting
  reads : visit.desk.ReadsTools

section

variable {around : Surroundings} {initial desk : Desk} {visits : List Visit}

/-- After the init listeners of a session were due, it is running. -/
theorem Visit.Greets.running
    {visit : Visit}
    {id : Nat}
    (greets : visit.Greets id)
    (around : Surroundings) :
    ∃ now, (visit.after around).registry.get? id = some now ∧ now.state = .running := by
  obtain ⟨session, known, starting⟩ := greets.starting
  obtain ⟨moment, tells, ⟨now, present, running⟩, _⟩ :=
    Act.onInit_callsAll known starting greets.reads
  have after : visit.after around = Act.after (Act.onInit id) visit.desk := by
    unfold Visit.after
    rw [greets.reports]
    rfl
  refine ⟨now, ?_, running⟩
  rw [after, tells.same]
  exact present

/-- A session that is running is not starting any more, however a run goes on. -/
theorem ManagerRun.not_starting_of_running
    {calls : List Call}
    {later : Desk}
    (orderly : desk.ledger.Orderly)
    (run : ManagerRun around desk calls later)
    {id : Nat}
    {now session : Session}
    (present : desk.registry.get? id = some now)
    (running : now.state = .running)
    (known : later.registry.get? id = some session) :
    session.state ≠ .starting := by
  intro starting
  obtain ⟨nowMember, nowId⟩ := Act.entry_of_get? present
  obtain ⟨sessionMember, sessionId⟩ := Act.entry_of_get? known
  obtain ⟨laterOrderly, leads⟩ := run.leads orderly
  obtain ⟨entry, entryMember, onward⟩ := leads now.entry nowMember
  have sameEntry : entry = session.entry :=
    laterOrderly.eq_of_id_eq entryMember sessionMember
      (onward.sameId.trans (nowId.trans sessionId.symm))
  -- The way of a running session is longer than that of a starting one.
  have longer := onward.onward.length_le
  have nowLived := (orderly.sound now.entry nowMember).lived
  have lived := (laterOrderly.sound session.entry sessionMember).lived
  rw [sameEntry] at longer
  generalize now.entry.trail = nowTrail at longer nowLived
  generalize session.entry.trail = trail at longer lived
  rw [Session.entry_state, running] at nowLived
  rw [Session.entry_state, starting] at lived
  cases nowLived
  cases lived
  simp at longer

/-- The init listeners of a session are due at most once. -/
theorem VisitedRun.greets_once
    (new : initial.IsNew)
    (run : VisitedRun around initial visits desk)
    (id : Nat) :
    visits.Pairwise fun first second => ¬(first.Greets id ∧ second.Greets id) := by
  induction run with
  | begin =>
      exact .nil
  | @call visits desk earlier call possible inductionHypothesis =>
      refine List.pairwise_append.mpr ⟨inductionHypothesis, List.pairwise_singleton _ _, ?_⟩
      rintro first member second isSecond ⟨firstGreets, secondGreets⟩
      obtain rfl := List.mem_singleton.mp isSecond
      obtain ⟨now, present, running⟩ := firstGreets.running around
      obtain ⟨session, known, starting⟩ := secondGreets.starting
      obtain ⟨others, rest, split⟩ := List.append_of_mem member
      obtain ⟨before, firstPossible⟩ := earlier.before split
      have orderly := (before.managerRun.call first.call firstPossible).orderly new
      obtain ⟨calls, onward⟩ := earlier.onward member
      exact onward.not_starting_of_running orderly present running known starting
  | outside _ _ inductionHypothesis =>
      exact inductionHypothesis

/-! ## Exit listeners are called at the first report -/

/-- A session is stopped at a visit exactly when an earlier visit reported its exit. -/
theorem VisitedRun.stopped_iff
    (new : initial.IsNew)
    (run : VisitedRun around initial visits desk)
    {id : Nat}
    {session : Session}
    (known : desk.registry.get? id = some session) :
    session.state = .stopped ↔ ∃ visit ∈ visits, ∃ code, visit.call = .exited id code := by
  obtain ⟨member, sameId⟩ := Act.entry_of_get? known
  have reported := run.managerRun.reported new
  have orderly := run.managerRun.orderly new
  constructor
  · intro stopped
    have told := reported.told session.entry member stopped
    rw [Session.entry_id, sameId] at told
    obtain ⟨call, isCall, reports⟩ := List.exists_of_findSome?_eq_some told
    obtain ⟨visit, isVisit, rfl⟩ := List.mem_map.mp isCall
    exact ⟨visit, isVisit, exited_of_exitCode?_isSome (by simp [reports])⟩
  · rintro ⟨visit, isVisit, code, reports⟩
    have heard : (firstExitCode? id (visits.map Visit.call)).isSome := by
      rw [firstExitCode?, List.findSome?_isSome_iff]
      exact ⟨visit.call, List.mem_map_of_mem isVisit, by simp [reports, Call.exitCode?]⟩
    obtain ⟨entry, entryMember, entryId, stopped⟩ := reported.heard id heard
    rwa [orderly.eq_of_id_eq entryMember member (entryId.trans sameId.symm)] at stopped

end

/-! ## Whole runs -/

/-- Finding a root calls no supplied code. -/
def Surroundings.CallsNone (around : Surroundings) : Prop :=
  ∀ path, Act.CallsNone (around.resolve path)

/-- A manager that finds roots by itself calls no supplied code for it. -/
theorem Surroundings.alone_callsNone : Surroundings.alone.CallsNone :=
  Act.callsNone_resolveRoot

/-- How the listeners of the sessions are called over the visits of a run. -/
structure CallsListeners
    (around : Surroundings)
    (initial : Desk)
    (visits : List Visit) : Prop where
  /-- When the server of a starting session is initialized, and the configuration can be read, its
  init listeners are called in order, at a moment when it is running and all commands are on the
  host; at no other such report anyone is called. -/
  initialized : ∀ visit ∈ visits, ∀ id, visit.call = .initialized id →
    ∃ session, visit.desk.registry.get? id = some session ∧
      (session.state = .starting ∧ visit.desk.ReadsTools →
        ∃ moment, Act.CallsAll id [] (Act.onInit id) visit.desk session.initListeners moment ∧
          (∃ now, moment.registry.get? id = some now ∧ now.state = .running) ∧
          ∀ name ∈ initial.commandNames, moment.host.hasCommand name) ∧
      (¬(session.state = .starting ∧ visit.desk.ReadsTools) →
        (visit.after around).calls = visit.desk.calls)
  /-- The init listeners of a session are due at most once. -/
  once : ∀ id, visits.Pairwise fun first second => ¬(first.Greets id ∧ second.Greets id)
  /-- At the first report of the exit of a session its exit listeners are called in order, with the
  exit code of that report, at a moment when it has left; a later report changes nothing. -/
  exited : ∀ earlier visit later id code,
    visits = earlier ++ visit :: later → visit.call = .exited id code →
    ∃ session, visit.desk.registry.get? id = some session ∧
      ((∀ old ∈ earlier, ∀ other, old.call ≠ .exited id other) →
        ∃ moment,
          Act.CallsAll id [code] (Act.onExit id code) visit.desk session.exitListeners moment ∧
          ∃ left, moment.registry.HasLeft id left code) ∧
      ((∃ old ∈ earlier, ∃ other, old.call = .exited id other) → visit.after around = visit.desk)
  /-- No other call of the manager calls anyone. -/
  others : around.CallsNone → ∀ visit ∈ visits, (∀ id, visit.call ≠ .initialized id) →
    (∀ id code, visit.call ≠ .exited id code) → (visit.after around).calls = visit.desk.calls

/-- The listeners of the sessions are called well, whatever the manager is asked and however the
reports of the transport come. -/
theorem VisitedRun.callsListeners
    {around : Surroundings}
    {initial desk : Desk}
    {visits : List Visit}
    (new : initial.IsNew)
    (run : VisitedRun around initial visits desk) :
    CallsListeners around initial visits where
  initialized := by
    intro visit member id reports
    obtain ⟨earlier, later, split⟩ := List.append_of_mem member
    obtain ⟨before, possible⟩ := run.before split
    rw [reports] at possible
    obtain ⟨session, known⟩ := before.managerRun.session_of_launched new possible
    refine ⟨session, known, ?_, ?_⟩
    · rintro ⟨starting, reads⟩
      obtain ⟨moment, tells, running, offered⟩ := Act.onInit_callsAll known starting reads
      rw [before.managerRun.commandNames_eq new] at offered
      exact ⟨moment, tells, running, offered⟩
    · intro notDue
      unfold Visit.after
      rw [reports]
      exact Act.onInit_calls_of_not_due known fun starting reads => notDue ⟨starting, reads⟩
  once := run.greets_once new
  exited := by
    intro earlier visit later id code split reports
    obtain ⟨before, possible⟩ := run.before split
    rw [reports] at possible
    obtain ⟨session, known⟩ := before.managerRun.session_of_launched new possible
    -- A session is stopped just when an exit was reported for it before.
    have stoppedIff := before.stopped_iff new known
    refine ⟨session, known, ?_, ?_⟩
    · intro first
      refine Act.onExit_callsAll known (fun stopped => ?_) code
      obtain ⟨old, member, other, reported⟩ := stoppedIff.mp stopped
      exact first old member other reported
    · intro reportedBefore
      unfold Visit.after
      rw [reports]
      exact Act.after_onExit_of_stopped known (stoppedIff.mpr reportedBefore) code
  others := by
    intro quiet visit _ notInitialized notExited
    unfold Visit.after
    cases made : visit.call with
    | start overrides buffer =>
        exact Act.callsNone_startWith quiet overrides buffer visit.desk
    | stop buffer =>
        exact Act.callsNone_stop buffer visit.desk
    | initialized id =>
        exact (notInitialized id made).elim
    | exited id code =>
        exact (notExited id code made).elim

/-- A session with an init listener that raises and another one, of which every report comes twice. -/
theorem bare_run_callsListeners :
    let overrides : Config.Entries Setting := [
      ("on_init", .leaf (.listeners [.supplied "broken" (some "boom"), .supplied "ready" none])),
      ("on_exit", .leaf (.listener (.supplied "gone" none)))]
    let calls : List Call := [.start overrides none, .initialized 1, .initialized 1,
      .exited 1 (.nat 3), .exited 1 (.nat 4)]
    let desk := Call.afterAll .alone .bare calls
    Desk.bare.IsNew ∧ desk.calls = [
        ("broken", [.nat 1, .str "running", .bool true]),
        ("ready", [.nat 1, .str "running", .bool true]),
        ("gone", [.nat 1, .str "stopped", .bool false, .nat 3])] ∧
      ∃ visits, visits.map Visit.call = calls ∧ VisitedRun .alone .bare visits desk ∧
        CallsListeners .alone .bare visits := by
  intro overrides calls desk
  have new : Desk.bare.IsNew := ⟨rfl, rfl⟩
  have run := ManagerRun.begin.of_possible calls
    (by decide +kernel : Call.ArePossible .alone .bare calls)
  obtain ⟨visits, sameCalls, visited⟩ := ManagerRun.exists_visits run
  exact ⟨new, by decide +kernel, visits, sameCalls, visited, VisitedRun.callsListeners new visited⟩

/-- A session whose server is initialized while it is starting, and whose init listener nobody
calls: the `tools` section of the configuration is no table. -/
theorem unreadable_tools_call_no_init_listener :
    let initial : Desk := .fresh ⟨default, []⟩
      (.standard [("tools", .leaf (.nat 5))] ⟨default, default⟩ (.fixed none))
    let start : Call := .start [("on_init", .leaf (.listener (.supplied "ready" none)))] none
    let desk := start.after .alone initial
    initial.IsNew ∧ Call.ArePossible .alone initial [start, .initialized 1] ∧
      (desk.registry.get? 1).map Session.state = some .starting ∧
      (desk.registry.get? 1).map Session.initListeners = some [.supplied "ready" none] ∧
      (Call.after .alone desk (.initialized 1)).calls = [] := by
  intro initial start desk
  exact ⟨⟨rfl, rfl⟩, by decide +kernel, by decide +kernel, by decide +kernel, by decide +kernel⟩

end AnalyzerSessions
