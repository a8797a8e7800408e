import AnalyzerSessions.Proofs.OrderlyLedger
import AnalyzerSessions.Proofs.SessionReports
import AnalyzerSessions.Proofs.SessionStarts
import AnalyzerSessions.Proofs.LedgerActs
import AnalyzerSessions.Session.Setup

namespace AnalyzerSessions

/-!
# Runs of a manager

A manager is asked to start and stop sessions, and the transport reports about
the servers that it was told to launch: in any order, repeatedly or not at all.
Between two calls anything else may happen that leaves the sessions and the user
commands of the manager alone.
-/

/-- What a manager is asked to do, or what the transport reports to it. -/
inductive Call where
  | start (overrides : Config.Entries Setting) (buffer : Option Int)
  | stop (buffer : Option Int)
  | initialized (id : Nat)
  | exited (id : Nat) (code : Json)

/-- What a manager works with: a way to find the roots of files, and what happens at its desk
between two calls. -/
structure Surroundings where
  resolve : Path → Act (Option Path)
  outside : Desk → Desk → Prop
  /-- Finding a root is not noticed by the ledger. -/
  quiet : ∀ path, Act.Keeps (resolve path)
  /-- What happens between two calls spares the sessions and their commands. -/
  apart : ∀ before after, outside before after → before.ledger.Undisturbed after.ledger

namespace Call

/-- The desk that a call leaves behind, whether it succeeds or fails. -/
def after (around : Surroundings) (desk : Desk) : Call → Desk
  | start overrides buffer => Act.after (Act.startWith around.resolve overrides buffer) desk
  | stop buffer => Act.after (Act.stop buffer) desk
  | initialized id => Act.after (Act.onInit id) desk
  | exited id code => Act.after (Act.onExit id code) desk

/-- A transport reports only about servers that it was told to launch. -/
def IsPossible (desk : Desk) : Call → Prop
  | initialized id => .launch id ∈ desk.orders
  | exited id _ => .launch id ∈ desk.orders
  | _ => True

instance (desk : Desk) (call : Call) : Decidable (call.IsPossible desk) :=
  match call with
  | start _ _ => inferInstanceAs (Decidable True)
  | stop _ => inferInstanceAs (Decidable True)
  | initialized id => inferInstanceAs (Decidable (Order.launch id ∈ desk.orders))
  | exited id _ => inferInstanceAs (Decidable (Order.launch id ∈ desk.orders))

/-- The desk that calls in a row leave behind. -/
def afterAll (around : Surroundings) (desk : Desk) : List Call → Desk
  | [] => desk
  | call :: rest => afterAll around (call.after around desk) rest

/-- Whether calls in a row are all possible. -/
def ArePossible (around : Surroundings) (desk : Desk) : List Call → Prop
  | [] => True
  | call :: rest => call.IsPossible desk ∧ ArePossible around (call.after around desk) rest

instance (around : Surroundings) (desk : Desk) (calls : List Call) :
    Decidable (ArePossible around desk calls) :=
  decideAll desk calls
where
  decideAll : (desk : Desk) → (calls : List Call) → Decidable (ArePossible around desk calls)
    | _, [] => inferInstanceAs (Decidable True)
    | desk, call :: rest =>
      have := decideAll (call.after around desk) rest
      inferInstanceAs
        (Decidable (call.IsPossible desk ∧ ArePossible around (call.after around desk) rest))

end Call

/-- A desk at which no session has been started. -/
structure Desk.IsNew (desk : Desk) : Prop where
  vacant : desk.registry = Registry.empty
  silent : desk.orders = []

/-- The desks that a manager may come to by a list of calls. -/
inductive ManagerRun (around : Surroundings) (initial : Desk) : List Call → Desk → Prop where
  | begin :
      ManagerRun around initial [] initial
  | call
      {calls : List Call}
      {desk : Desk}
      (earlier : ManagerRun around initial calls desk)
      (call : Call)
      (possible : call.IsPossible desk) :
      ManagerRun around initial (calls ++ [call]) (call.after around desk)
  | outside
      {calls : List Call}
      {desk other : Desk}
      (earlier : ManagerRun around initial calls desk)
      (happened : around.outside desk other) :
      ManagerRun around initial calls other

/-- Calls in a row that are all possible make a run. -/
theorem ManagerRun.of_possible
    {around : Surroundings}
    {initial desk : Desk}
    {done : List Call}
    (earlier : ManagerRun around initial done desk)
    (calls : List Call)
    (possible : Call.ArePossible around desk calls) :
    ManagerRun around initial (done ++ calls) (Call.afterAll around desk calls) := by
  induction calls generalizing done desk with
  | nil =>
      rwa [List.append_nil]
  | cons call rest inductionHypothesis =>
      have next := inductionHypothesis (earlier.call call possible.1) possible.2
      rwa [List.append_assoc] at next

/-- A manager that finds roots by itself, with nothing happening between its calls. -/
def Surroundings.alone : Surroundings where
  resolve := Act.resolveRoot
  outside := fun before after => after = before
  quiet := Act.keeps_resolveRoot
  apart := by
    rintro before after rfl
    exact ⟨rfl, rfl⟩

/-- The desk of a standard manager with no files. -/
def Desk.bare : Desk :=
  .fresh ⟨default, []⟩ (.standard [] ⟨default, default⟩ (.fixed none))

/-- A call makes turns, or it is the report of an exit with which a session leaves. -/
theorem ledger_call
    {desk : Desk}
    (numbered : desk.ledger.Numbered)
    (around : Surroundings)
    (call : Call) :
    (desk.ledger.Turns (call.after around desk).ledger ∧
      ∀ id code, call = .exited id code →
        ∀ entry ∈ desk.ledger.entries, entry.id = id → entry.state = .stopped) ∨
    ∃ entry ∈ desk.ledger.entries, ∃ code, call = .exited entry.id code ∧
      entry.state ≠ .stopped ∧
      (call.after around desk).ledger = desk.ledger.leave entry code := by
  cases call with
  | start overrides buffer =>
      refine .inl ⟨Act.turns_startWith around.quiet numbered overrides buffer, ?_⟩
      intro id code same
      cases same
  | stop buffer =>
      refine .inl ⟨Act.turns_stop numbered buffer, ?_⟩
      intro id code same
      cases same
  | initialized id =>
      refine .inl ⟨Act.turns_onInit id desk, ?_⟩
      intro id code same
      cases same
  | exited id code =>
      obtain ⟨kept, gone⟩ | ⟨entry, member, rfl, present, left⟩ :=
        Act.ledger_onExit numbered id code
      · refine .inl ⟨?_, ?_⟩
        · show desk.ledger.Turns (Act.after (Act.onExit id code) desk).ledger
          rw [kept]
        · intro _ _ same
          cases same
          exact gone
      · exact .inr ⟨entry, member, code, rfl, present, left⟩

/-- The ledger of a new desk is orderly. -/
theorem Desk.IsNew.orderly
    {desk : Desk}
    (new : desk.IsNew) :
    desk.ledger.Orderly := by
  have noEntries : desk.ledger.entries = [] := by
    simp [Desk.ledger, new.vacant, Registry.empty]
  have noneListed : desk.ledger.listed = [] := by
    simp [Desk.ledger, new.vacant, Registry.empty]
  have noOrders : desk.ledger.orders = [] := new.silent
  refine ⟨⟨?_, ?_, ?_, ?_, ?_⟩, ?_, ?_⟩
  · simp [Ledger.ids, noEntries]
  · simp [Ledger.ids, noEntries]
  · simp [noneListed]
  · simp [noneListed]
  · simp [noOrders]
  · simp [noEntries]
  · simp [noEntries]

/-- A session is registered as long as it is not stopped. -/
theorem mem_registered_iff
    {desk : Desk}
    (orderly : desk.ledger.Orderly)
    {session : Session}
    (known : session ∈ desk.registry.sessions) :
    session ∈ desk.registry.registered ↔ session.state ≠ .stopped := by
  have member : session.entry ∈ desk.ledger.entries := List.mem_map_of_mem known
  have listed := orderly.listedExactly session.entry member
  have active := (orderly.sound session.entry member).lived.isActive_iff
  rw [Act.mem_registered orderly.toNumbered]
  exact ⟨fun registered => active.mp (listed.mp registered.2),
    fun present => ⟨known, listed.mpr (active.mpr present)⟩⟩

/-- What an orderly ledger has and every turn keeps, any number of turns keeps. -/
theorem Ledger.Orderly.turns
    {before after : Ledger}
    {holds : Ledger → Prop}
    (orderly : before.Orderly)
    (initially : holds before)
    (turn : ∀ first second : Ledger, first.Orderly → holds first → first.Turn second → holds second)
    (turns : before.Turns after) :
    after.Orderly ∧ holds after := by
  induction turns with
  | refl =>
      exact ⟨orderly, initially⟩
  | tail _ last inductionHypothesis =>
      obtain ⟨orderlyFirst, holdsFirst⟩ := inductionHypothesis
      exact ⟨orderlyFirst.turn last, turn _ _ orderlyFirst holdsFirst last⟩

/-- What the ledger of a new desk has, and what turns, departures and anything outside keep on
orderly ledgers, the ledger has at every desk of a run. -/
theorem ManagerRun.ledger_induction
    {around : Surroundings}
    {initial desk : Desk}
    {calls : List Call}
    (new : initial.IsNew)
    (holds : Ledger → Prop)
    (initially : holds initial.ledger)
    (turn : ∀ before after : Ledger, before.Orderly → holds before → before.Turn after →
      holds after)
    (leave : ∀ (before : Ledger) (entry : LedgerEntry) (code : Json), before.Orderly →
      holds before → entry ∈ before.entries → entry.state ≠ .stopped →
      holds (before.leave entry code))
    (outside : ∀ before after : Ledger, before.Orderly → holds before →
      before.Undisturbed after → holds after)
    (run : ManagerRun around initial calls desk) :
    desk.ledger.Orderly ∧ holds desk.ledger := by
  induction run with
  | begin =>
      exact ⟨new.orderly, initially⟩
  | call earlier call possible inductionHypothesis =>
      obtain ⟨orderly, held⟩ := inductionHypothesis
      obtain ⟨turns, _⟩ | ⟨entry, member, code, _, present, left⟩ :=
        ledger_call orderly.toNumbered around call
      · exact orderly.turns held turn turns
      · rw [left]
        exact ⟨orderly.leave member present code, leave _ entry code orderly held member present⟩
  | outside earlier happened inductionHypothesis =>
      obtain ⟨orderly, held⟩ := inductionHypothesis
      have apart := around.apart _ _ happened
      exact ⟨orderly.undisturbed apart, outside _ _ orderly held apart⟩

/-- The ledger is orderly at every desk of a run. -/
theorem ManagerRun.orderly
    {around : Surroundings}
    {initial desk : Desk}
    {calls : List Call}
    (new : initial.IsNew)
    (run : ManagerRun around initial calls desk) :
    desk.ledger.Orderly :=
  (run.ledger_induction new (fun _ => True) trivial (fun _ _ _ _ _ => trivial)
    (fun _ _ _ _ _ _ _ => trivial) fun _ _ _ _ _ => trivial).1

end AnalyzerSessions
