import AnalyzerSessions.Proofs.ManagerRuns

namespace AnalyzerSessions

/-!
# Commands shared by sessions

All sessions of a manager offer the same commands on one host.  The commands are
there as long as some session offers them, and the last one to leave takes them
away; user commands of other names are never touched.
-/

/-! ## Host commands -/

/-- The commands of names that a filter keeps do not notice one of a name that it drops. -/
theorem filter_putCommand
    {keep : String → Bool}
    {command : UserCommand Action}
    (dropped : keep command.name = false)
    (commands : List (UserCommand Action)) :
    (Host.putCommand command commands).filter (fun kept => keep kept.name) =
      commands.filter fun kept => keep kept.name := by
  induction commands with
  | nil =>
      simp [Host.putCommand, dropped]
  | cons old rest inductionHypothesis =>
      unfold Host.putCommand
      split
      · rename_i sameName
        simp [dropped, sameName]
      · simp [List.filter_cons, inductionHypothesis]

/-- A command that was put on a host is there, and so are those that were there. -/
theorem mem_putCommand_names
    (command : UserCommand Action)
    (commands : List (UserCommand Action))
    (name : String) :
    name ∈ (Host.putCommand command commands).map UserCommand.name ↔
      name = command.name ∨ name ∈ commands.map UserCommand.name := by
  induction commands with
  | nil =>
      simp [Host.putCommand]
  | cons old rest inductionHypothesis =>
      unfold Host.putCommand
      split
      · rename_i sameName
        simp [sameName]
      · rw [List.map_cons, List.mem_cons, inductionHypothesis, List.map_cons, List.mem_cons]
        tauto

/-- A host has a command of a name when one of its commands has the name. -/
theorem hasCommand_iff
    (host : Host Action)
    (name : String) :
    host.hasCommand name ↔ name ∈ host.commands.map UserCommand.name := by
  simp [Host.hasCommand, Host.command?]

namespace Ledger

/-- Creating the commands of the sessions keeps the other user commands. -/
theorem filter_offered
    (keep : String → Bool)
    {bindings : List CommandBinding}
    (dropped : ∀ binding ∈ bindings, keep binding.name = false)
    (commands : List (UserCommand Action)) :
    (offered bindings commands).filter (fun kept => keep kept.name) =
      commands.filter fun kept => keep kept.name := by
  induction bindings generalizing commands with
  | nil =>
      rfl
  | cons binding rest inductionHypothesis =>
      have restDropped : ∀ other ∈ rest, keep other.name = false :=
        fun other member => dropped other (List.mem_cons_of_mem binding member)
      unfold offered at inductionHypothesis ⊢
      rw [List.foldl_cons, inductionHypothesis restDropped,
        filter_putCommand (dropped binding (by simp))]

/-- After the commands of the sessions were created they are there, and so are those that were
there. -/
theorem mem_offered_names
    (bindings : List CommandBinding)
    (commands : List (UserCommand Action))
    (name : String) :
    name ∈ (offered bindings commands).map UserCommand.name ↔
      name ∈ bindings.map CommandBinding.name ∨ name ∈ commands.map UserCommand.name := by
  induction bindings generalizing commands with
  | nil =>
      simp [offered]
  | cons binding rest inductionHypothesis =>
      unfold offered at inductionHypothesis ⊢
      rw [List.foldl_cons, inductionHypothesis, mem_putCommand_names, List.map_cons, List.mem_cons]
      tauto

/-! ## Turns and other user commands -/

variable {ledger : Ledger}

/-- Every turn keeps the bindings of the manager. -/
theorem Turn.bindings_eq
    {after : Ledger}
    (turn : ledger.Turn after) :
    after.bindings = ledger.bindings := by
  cases turn <;> rfl

/-- No turn touches a user command of another name. -/
theorem Turn.foreign_eq
    {after : Ledger}
    (turn : ledger.Turn after) :
    after.foreign = ledger.foreign := by
  cases turn with
  | equip entry known starting =>
      have dropped : ∀ binding ∈ ledger.bindings,
          (!ledger.names.contains binding.name) = false := by
        intro binding member
        have isName : binding.name ∈ ledger.names := List.mem_map_of_mem member
        simpa using isName
      exact filter_offered (fun name => !ledger.names.contains name) dropped ledger.hostCommands
  | _ =>
      rfl

/-- A session that leaves touches no user command of another name. -/
theorem Orderly.leave_foreign_eq
    (orderly : ledger.Orderly)
    {entry : LedgerEntry}
    (known : entry ∈ ledger.entries)
    (code : Json) :
    (ledger.leave entry code).foreign = ledger.foreign := by
  show (ledger.remaining entry).filter (fun command => !ledger.names.contains command.name) =
    ledger.hostCommands.filter fun command => !ledger.names.contains command.name
  unfold remaining
  split
  · rw [List.filter_filter]
    apply List.filter_congr
    intro command _
    rcases (orderly.sound entry known).equipped with none | all
    · simp [none]
    · simp [all]
  · rfl

/-- When the sessions have no command on the host, all user commands are of other names. -/
theorem foreign_of_own_eq_nil
    (none : ledger.own = []) :
    ledger.foreign = ledger.hostCommands := by
  refine List.filter_eq_self.mpr fun command member => ?_
  simpa using List.filter_eq_nil_iff.mp none command member

/-! ## Stocked ledgers -/

/-- Whether some session offers commands. -/
def Offers (ledger : Ledger) : Prop :=
  ∃ entry ∈ ledger.entries, entry.commands ≠ []

/-- The commands of the sessions are on the host exactly as long as some session offers them. -/
structure Stocked (ledger : Ledger) : Prop where
  offered : ledger.Offers → ∀ name ∈ ledger.names, name ∈ ledger.own.map UserCommand.name
  withdrawn : ¬ledger.Offers → ledger.own = []

/-- A change that keeps commands keeps what is offered. -/
theorem offers_change
    {id : Nat}
    {revise : LedgerEntry → LedgerEntry}
    (kept : ∀ entry, (revise entry).commands = entry.commands) :
    (ledger.change id revise).Offers ↔ ledger.Offers := by
  have commandsSame : ∀ entry : LedgerEntry,
      (if entry.id = id then revise entry else entry).commands = entry.commands := by
    intro entry
    split
    · exact kept entry
    · rfl
  simp [Offers, change, commandsSame]

/-- A new session offers nothing. -/
theorem offers_enroll
    (root : Option Path)
    (buffer : Int) :
    (ledger.enroll root buffer).Offers ↔ ledger.Offers := by
  simp [Offers, enroll, or_and_right, exists_or, LedgerEntry.starting]

/-- Ledgers that offer the same and have the same commands on the host are stocked alike. -/
theorem Stocked.of_iff
    {after : Ledger}
    (stocked : ledger.Stocked)
    (offers : after.Offers ↔ ledger.Offers)
    (sameNames : after.names = ledger.names)
    (sameOwn : after.own = ledger.own) :
    after.Stocked where
  offered := by
    rw [offers, sameNames, sameOwn]
    exact stocked.offered
  withdrawn := by
    rw [offers, sameOwn]
    exact stocked.withdrawn

/-- Every turn keeps a ledger stocked. -/
theorem Stocked.turn
    {after : Ledger}
    (stocked : ledger.Stocked)
    (turn : ledger.Turn after) :
    after.Stocked := by
  cases turn with
  | enroll root buffer vacant =>
      exact stocked.of_iff (offers_enroll root buffer) rfl rfl
  | attach entry known buffer =>
      exact stocked.of_iff (offers_change fun _ => rfl) rfl rfl
  | launch entry known =>
      exact stocked.of_iff .rfl rfl rfl
  | halt entry known active moving =>
      have sameOffers : (ledger.change entry.id (·.enter .stopping)).Offers ↔ ledger.Offers :=
        offers_change fun _ => rfl
      exact stocked.of_iff sameOffers rfl rfl
  | welcome entry known starting equipped =>
      exact stocked.of_iff (offers_change fun _ => rfl) rfl rfl
  | equip entry known starting =>
      have isThere : entry.equipped ledger.names ∈ (ledger.equip entry.id).entries :=
        List.mem_map.mpr ⟨entry, known, by simp⟩
      constructor
      · intro _ name isName
        have created := (mem_offered_names ledger.bindings ledger.hostCommands name).mpr
          (.inl isName)
        obtain ⟨command, member, rfl⟩ := List.mem_map.mp created
        exact List.mem_map.mpr ⟨command, List.mem_filter.mpr ⟨member, by simpa using isName⟩, rfl⟩
      · intro nothing
        have noNames : ledger.names = [] := by
          by_contra someName
          exact nothing ⟨_, isThere, someName⟩
        show (ledger.equip entry.id).hostCommands.filter
          (fun command => ledger.names.contains command.name) = []
        simp [noNames]

/-- The others that keep the commands are the other sessions that offer some. -/
theorem Orderly.others_eq_nil_iff
    (orderly : ledger.Orderly)
    (id : Nat) :
    ledger.others id = [] ↔ ∀ other ∈ ledger.entries, other.id ≠ id → other.commands = [] := by
  rw [others, List.filter_eq_nil_iff]
  constructor
  · intro none other member different
    by_contra offers
    have sound := orderly.sound other member
    have active : other.state.isActive :=
      sound.lived.isActive_iff.mpr fun stopped => offers (sound.withdrawn stopped)
    have listed := (orderly.listedExactly other member).mpr active
    exact none other member (by simp [listed, active, sound.named, different, offers])
  · intro none other member isOther
    simp only [Bool.and_eq_true, bne_iff_ne, ne_eq, Bool.not_eq_true', List.isEmpty_eq_false_iff]
      at isOther
    exact isOther.2 (none other member isOther.1.2)

/-- What is offered after a session left, others offer. -/
theorem offers_leave
    (entry : LedgerEntry)
    (code : Json) :
    (ledger.leave entry code).Offers ↔
      ∃ other ∈ ledger.entries, other.id ≠ entry.id ∧ other.commands ≠ [] := by
  constructor
  · rintro ⟨other, member, offers⟩
    obtain ⟨old, oldMember, rfl⟩ := List.mem_map.mp member
    by_cases same : old.id = entry.id
    · simp [same] at offers
    · rw [if_neg same] at offers
      exact ⟨old, oldMember, same, offers⟩
  · rintro ⟨other, member, different, offers⟩
    exact ⟨other, List.mem_map.mpr ⟨other, member, if_neg different⟩, offers⟩

/-- A session's leaving keeps a ledger stocked: the last one takes the commands away. -/
theorem Stocked.leave
    (stocked : ledger.Stocked)
    (orderly : ledger.Orderly)
    {entry : LedgerEntry}
    (known : entry ∈ ledger.entries)
    (code : Json) :
    (ledger.leave entry code).Stocked := by
  by_cases last : ledger.others entry.id = []
  · have alone := (orderly.others_eq_nil_iff entry.id).mp last
    have nothing : ¬(ledger.leave entry code).Offers := by
      rw [offers_leave]
      rintro ⟨other, member, different, offers⟩
      exact offers (alone other member different)
    refine ⟨fun offers => (nothing offers).elim, fun _ => ?_⟩
    show (ledger.remaining entry).filter (fun command => ledger.names.contains command.name) = []
    rw [remaining, if_pos last]
    rcases (orderly.sound entry known).equipped with none | all
    · have nothingBefore : ¬ledger.Offers := by
        rintro ⟨other, member, offers⟩
        by_cases same : other.id = entry.id
        · rw [orderly.eq_of_id_eq member known same] at offers
          exact offers none
        · exact offers (alone other member same)
      simpa [none, own] using stocked.withdrawn nothingBefore
    · simp [all]
  · obtain ⟨other, member, different, offers⟩ : ∃ other ∈ ledger.entries,
        other.id ≠ entry.id ∧ other.commands ≠ [] := by
      by_contra none
      push Not at none
      exact last ((orderly.others_eq_nil_iff entry.id).mpr none)
    have offersAfter : (ledger.leave entry code).Offers :=
      (offers_leave entry code).mpr ⟨other, member, different, offers⟩
    have sameOwn : (ledger.leave entry code).own = ledger.own := by
      show (ledger.remaining entry).filter _ = _
      rw [remaining, if_neg last]
      rfl
    exact stocked.of_iff (iff_of_true offersAfter ⟨other, member, offers⟩) rfl sameOwn

/-- What happens elsewhere keeps a ledger stocked. -/
theorem Stocked.undisturbed
    {after : Ledger}
    (stocked : ledger.Stocked)
    (apart : ledger.Undisturbed after) :
    after.Stocked := by
  refine stocked.of_iff ?_ ?_ apart.own
  · rw [apart.same]
    rfl
  · rw [apart.same]
    rfl

/-- Turns keep the bindings of the manager and touch no user command of another name. -/
theorem Turns.foreign_eq
    {after : Ledger}
    (turns : ledger.Turns after) :
    after.bindings = ledger.bindings ∧ after.foreign = ledger.foreign := by
  induction turns with
  | refl =>
      exact ⟨rfl, rfl⟩
  | tail _ last inductionHypothesis =>
      exact ⟨last.bindings_eq.trans inductionHypothesis.1,
        last.foreign_eq.trans inductionHypothesis.2⟩

end Ledger

/-! ## Runs -/

/-- The names of the commands that the sessions of a manager offer. -/
def Desk.commandNames (desk : Desk) : List String :=
  desk.setup.bindings.map CommandBinding.name

/-- The commands of a ledger are named like those of its desk. -/
@[simp] theorem Desk.ledger_names (desk : Desk) : desk.ledger.names = desk.commandNames :=
  rfl

/-- The user commands of the host other than those that the sessions of a manager offer. -/
def Desk.foreignCommands (manager desk : Desk) : List (UserCommand Action) :=
  desk.host.commands.filter fun command => !manager.commandNames.contains command.name

/-- Nothing outside a manager touches the user commands of the host. -/
def Surroundings.SparesHost (around : Surroundings) : Prop :=
  ∀ before after, around.outside before after → after.host.commands = before.host.commands

/-- The commands that the sessions share are kept well at a desk that a manager comes to. -/
structure Desk.SharesCommands (desk : Desk) (around : Surroundings) (initial : Desk) : Prop where
  /-- As long as a registered session offers commands, all of them are on the host. -/
  offered : (∃ session ∈ desk.registry.registered, session.commands ≠ []) →
    ∀ name ∈ initial.commandNames, desk.host.hasCommand name
  /-- When no registered session offers commands, none of them is on the host. -/
  withdrawn : (∀ session ∈ desk.registry.registered, session.commands = []) →
    ∀ name ∈ initial.commandNames, ¬desk.host.hasCommand name
  /-- A running session offers all commands. -/
  running : ∀ session ∈ desk.registry.sessions, session.state = .running →
    session.commands = initial.commandNames
  /-- A session that is not registered offers none. -/
  unlisted : ∀ session ∈ desk.registry.sessions, session ∉ desk.registry.registered →
    session.commands = []
  /-- No call adds, changes or removes a user command of another name. -/
  foreign : ∀ call : Call,
    initial.foreignCommands (call.after around desk) = initial.foreignCommands desk
  /-- When nobody else does so either, they are those of the beginning. -/
  kept : around.SparesHost → initial.foreignCommands desk = initial.foreignCommands initial
  /-- When moreover every session has exited, the user commands are those of the beginning. -/
  restored : around.SparesHost → (∀ session ∈ desk.registry.sessions, session.state = .stopped) →
    desk.host.commands = initial.host.commands

/-- A call keeps the bindings of the manager and touches no user command of another name. -/
theorem call_foreign_eq
    {desk : Desk}
    (orderly : desk.ledger.Orderly)
    (around : Surroundings)
    (call : Call) :
    (call.after around desk).ledger.bindings = desk.ledger.bindings ∧
      (call.after around desk).ledger.foreign = desk.ledger.foreign := by
  obtain ⟨turns, _⟩ | ⟨entry, member, code, _, _, left⟩ :=
    ledger_call orderly.toNumbered around call
  · exact Ledger.Turns.foreign_eq turns
  · rw [left]
    exact ⟨rfl, orderly.leave_foreign_eq member code⟩

section

variable {around : Surroundings} {initial desk : Desk} {calls : List Call}

/-- When nobody else touches user commands, those of other names stay as they were. -/
theorem ManagerRun.foreign_eq
    (new : initial.IsNew)
    (run : ManagerRun around initial calls desk)
    (spared : around.SparesHost) :
    desk.ledger.foreign = initial.ledger.foreign := by
  induction run with
  | begin =>
      rfl
  | call earlier call possible inductionHypothesis =>
      exact (call_foreign_eq (earlier.orderly new) around call).2.trans inductionHypothesis
  | outside earlier happened inductionHypothesis =>
      refine Eq.trans ?_ inductionHypothesis
      have sameCommands := spared _ _ happened
      have sameBindings := congrArg Ledger.bindings (around.apart _ _ happened).same
      show Ledger.foreign _ = Ledger.foreign _
      simp only [Ledger.foreign, Ledger.names, sameBindings]
      exact congrArg (List.filter _) sameCommands

/-- A run keeps the bindings of the manager, and its ledger stocked. -/
theorem ManagerRun.stocked
    (new : initial.IsNew)
    (unclaimed : initial.ledger.own = [])
    (run : ManagerRun around initial calls desk) :
    desk.ledger.bindings = initial.ledger.bindings ∧ desk.ledger.Stocked := by
  have nothing : ¬initial.ledger.Offers := by
    simp [Ledger.Offers, Desk.ledger, new.vacant, Registry.empty]
  refine (run.ledger_induction new (fun ledger =>
    ledger.bindings = initial.ledger.bindings ∧ ledger.Stocked) ?_ ?_ ?_ ?_).2
  · exact ⟨rfl, fun offers => (nothing offers).elim, fun _ => unclaimed⟩
  · rintro before after _ ⟨sameBindings, stocked⟩ turn
    exact ⟨turn.bindings_eq.trans sameBindings, stocked.turn turn⟩
  · rintro before entry code orderly ⟨sameBindings, stocked⟩ member _
    exact ⟨sameBindings, stocked.leave orderly member code⟩
  · rintro before after _ ⟨sameBindings, stocked⟩ apart
    refine ⟨Eq.trans ?_ sameBindings, stocked.undisturbed apart⟩
    rw [apart.same]

/-- The sessions of a manager share their commands well, whatever they are asked and however the
reports of the transport come. -/
theorem ManagerRun.sharesCommands
    (new : initial.IsNew)
    (unclaimed : ∀ name ∈ initial.commandNames, ¬initial.host.hasCommand name)
    (run : ManagerRun around initial calls desk) :
    desk.SharesCommands around initial := by
  -- The host had no command of these names at first, so none of its commands was the manager's own.
  have noneOwn : initial.ledger.own = [] := by
    refine List.filter_eq_nil_iff.mpr fun command member isOwn => ?_
    refine unclaimed command.name (by simpa using isOwn) ?_
    exact (hasCommand_iff _ _).mpr (List.mem_map_of_mem member)
  obtain ⟨sameBindings, stocked⟩ := run.stocked new noneOwn
  have orderly := run.orderly new
  have sameNames : desk.ledger.names = initial.commandNames :=
    congrArg (List.map CommandBinding.name) sameBindings
  have offering : (∃ session ∈ desk.registry.registered, session.commands ≠ []) ↔
      desk.ledger.Offers := by
    constructor
    · rintro ⟨session, registered, offers⟩
      exact ⟨session.entry, Act.entry_of_mem_registered registered, offers⟩
    · rintro ⟨entry, member, offers⟩
      obtain ⟨session, known, rfl⟩ := List.mem_map.mp member
      refine ⟨session, (mem_registered_iff orderly known).mpr fun stopped => ?_, offers⟩
      exact offers ((orderly.sound session.entry member).withdrawn stopped)
  have foreignSame : ∀ other : Desk, other.ledger.bindings = initial.ledger.bindings →
      other.ledger.foreign = initial.foreignCommands other := by
    intro other same
    simp only [Ledger.foreign, Ledger.names, same]
    rfl
  have restored : around.SparesHost →
      initial.foreignCommands desk = initial.foreignCommands initial := by
    intro spared
    rw [← foreignSame desk sameBindings, ← foreignSame initial rfl]
    exact run.foreign_eq new spared
  have onHost : ∀ name ∈ initial.commandNames,
      desk.host.hasCommand name ↔ name ∈ desk.ledger.own.map UserCommand.name := by
    intro name isName
    rw [hasCommand_iff, Ledger.own, sameNames]
    constructor
    · intro present
      obtain ⟨command, member, rfl⟩ := List.mem_map.mp present
      exact List.mem_map_of_mem (List.mem_filter.mpr ⟨member, by simpa using isName⟩)
    · intro present
      obtain ⟨command, member, rfl⟩ := List.mem_map.mp present
      exact List.mem_map_of_mem (List.mem_of_mem_filter member)
  refine ⟨?_, ?_, ?_, ?_, ?_, restored, ?_⟩
  · intro offers name isName
    rw [onHost name isName]
    exact stocked.offered (offering.mp offers) name (sameNames ▸ isName)
  · intro nothing name isName
    have empty : desk.ledger.own = [] := by
      refine stocked.withdrawn fun offers => ?_
      obtain ⟨session, registered, some⟩ := offering.mpr offers
      exact some (nothing session registered)
    rw [onHost name isName, empty]
    exact List.not_mem_nil
  · intro session known isRunning
    rw [← sameNames]
    exact (orderly.sound session.entry (List.mem_map_of_mem known)).running isRunning
  · intro session known unregistered
    have stopped : session.state = .stopped := by
      by_contra present
      exact unregistered ((mem_registered_iff orderly known).mpr present)
    exact (orderly.sound session.entry (List.mem_map_of_mem known)).withdrawn stopped
  · intro call
    obtain ⟨callBindings, callForeign⟩ := call_foreign_eq orderly around call
    rw [← foreignSame _ (callBindings.trans sameBindings), ← foreignSame _ sameBindings]
    exact callForeign
  · intro spared allStopped
    have nothing : ¬desk.ledger.Offers := by
      rintro ⟨entry, member, offers⟩
      obtain ⟨session, known, rfl⟩ := List.mem_map.mp member
      exact offers ((orderly.sound session.entry member).withdrawn (allStopped session known))
    have noneLeft := Ledger.foreign_of_own_eq_nil (stocked.withdrawn nothing)
    calc
      desk.host.commands = desk.ledger.foreign := noneLeft.symm
      _ = initial.ledger.foreign := run.foreign_eq new spared
      _ = initial.host.commands := Ledger.foreign_of_own_eq_nil noneOwn

end

/-- A session that was started and whose server is initialized offers the commands. -/
theorem bare_run_sharesCommands :
    let calls : List Call := [.start [] none, .initialized 1]
    Desk.bare.IsNew ∧
      (∀ name ∈ Desk.bare.commandNames, ¬Desk.bare.host.hasCommand name) ∧
      ManagerRun .alone .bare calls (Call.afterAll .alone .bare calls) ∧
      (Call.afterAll .alone .bare calls).SharesCommands .alone .bare := by
  intro calls
  have new : Desk.bare.IsNew := ⟨rfl, rfl⟩
  have unclaimed : ∀ name ∈ Desk.bare.commandNames, ¬Desk.bare.host.hasCommand name := by
    intro name _
    exact Bool.false_ne_true
  have run := ManagerRun.begin.of_possible calls
    (by decide +kernel : Call.ArePossible .alone .bare calls)
  exact ⟨new, unclaimed, run, ManagerRun.sharesCommands new unclaimed run⟩

end AnalyzerSessions
