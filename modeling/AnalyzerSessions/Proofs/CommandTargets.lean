import AnalyzerSessions.Proofs.ConnectedSessions
import AnalyzerSessions.Proofs.HandlingMoves
import AnalyzerSessions.Proofs.SharedCommands

namespace AnalyzerSessions

/-!
# Targets of commands

A command of the catalog goes to one running session: to the one of the current buffer that
was registered last, or else to the one that was registered last.  The action of its leaf is
called there once, with the arguments of the leaf before those of the command, unless no
session runs, the leaf is not known, or the host refuses the command.
-/

/-- The running sessions in the order in which they were registered. -/
def Desk.running (desk : Desk) : List Session :=
  desk.registry.registered.filter fun session => session.state = .running

/-- A session is the one among the running ones that a command goes to from a buffer. -/
inductive Session.IsTarget (running : List Session) (number : Int) (session : Session) : Prop where
  /-- No running session that was registered later has the buffer. -/
  | ofBuffer
      (earlier later : List Session)
      (split : running = earlier ++ session :: later)
      (attached : number ∈ session.buffers)
      (last : ∀ other ∈ later, number ∉ other.buffers)
  /-- No running session has the buffer, and none was registered later. -/
  | ofAny
      (earlier : List Session)
      (split : running = earlier ++ [session])
      (apart : ∀ other ∈ running, number ∉ other.buffers)

/-- The target of a command runs. -/
theorem Session.IsTarget.mem_running
    {running : List Session}
    {number : Int}
    {session : Session}
    (isTarget : session.IsTarget running number) :
    session ∈ running := by
  cases isTarget with
  | ofBuffer earlier later split _ _ =>
      rw [split]
      exact List.mem_append_right earlier List.mem_cons_self
  | ofAny earlier split _ =>
      rw [split]
      exact List.mem_append_right earlier List.mem_cons_self

/-- The last of the elements with a property, and none of those behind it has the property. -/
theorem getLast?_filter_eq_some
    {α : Type}
    {holds : α → Bool}
    {list : List α}
    {value : α}
    (isLast : (list.filter holds).getLast? = some value) :
    holds value ∧ ∃ front back, list = front ++ value :: back ∧ ∀ other ∈ back, ¬holds other := by
  rw [List.getLast?_filter, List.find?_eq_some_iff_append] at isLast
  obtain ⟨held, back, front, split, none⟩ := isLast
  refine ⟨held, front.reverse, back.reverse, ?_, fun other member => ?_⟩
  · rw [← List.reverse_reverse list, split, List.reverse_append, List.reverse_cons,
      List.append_assoc, List.singleton_append]
  · simpa using none other (List.mem_reverse.mp member)

namespace Act

variable {desk : Desk}

/-- The running sessions among those that are looked up for a buffer. -/
theorem running_of_active
    (orderly : desk.ledger.Orderly)
    (buffer : Option Int) :
    (desk.registry.active (some serverName) buffer).filter (fun session =>
        session.state == .running) =
      desk.running.filter fun session =>
        buffer.all fun number => session.buffers.contains number := by
  unfold Registry.active Desk.running
  rw [List.filter_filter, List.filter_filter]
  refine List.filter_congr fun session member => ?_
  have known := ((mem_registered orderly.toNumbered).mp member).1
  have named : session.name = serverName :=
    (orderly.sound session.entry (List.mem_map_of_mem known)).named
  by_cases runs : session.state = .running
  · simp [Registry.fits, named, runs, SessionState.isActive]
  · simp [runs]

/-- The session that a command goes to, once the host has a current buffer. -/
theorem perform_targetSession
    (orderly : desk.ledger.Orderly) :
    (desk.running = [] ∧ perform targetSession desk =
      (.error (.unavailable .noSession), { desk with host := desk.host.currentBuffer.2 })) ∨
    ∃ session : Session, session.IsTarget desk.running desk.host.currentBuffer.1 ∧
      perform targetSession desk =
        (.ok session, { desk with host := desk.host.currentBuffer.2 }) := by
  let number := desk.host.currentBuffer.1
  let focused : Desk := { desk with host := desk.host.currentBuffer.2 }
  have focuses : perform currentBuffer desk = (.ok number, focused) := rfl
  have lasts : ∀ buffer, lastRunning? (focused.registry.active (some serverName) buffer) =
      (desk.running.filter fun session =>
        buffer.all fun number => session.buffers.contains number).getLast? := by
    intro buffer
    unfold lastRunning?
    exact congrArg List.getLast? (running_of_active orderly buffer)
  unfold targetSession
  rw [perform_bind, focuses]
  dsimp only
  rw [perform_get_bind, lasts, lasts]
  simp only [Option.all_some, Option.all_none, List.filter_true]
  cases ofBuffer : (desk.running.filter fun session =>
      session.buffers.contains number).getLast? with
  | some session =>
      obtain ⟨attached, earlier, later, running, last⟩ := getLast?_filter_eq_some ofBuffer
      refine .inr ⟨session, .ofBuffer earlier later running (by simpa using attached) ?_, rfl⟩
      exact fun other member => by simpa using last other member
  | none =>
      have noneAttached := List.getLast?_eq_none_iff.mp ofBuffer
      have apart : ∀ other ∈ desk.running, number ∉ other.buffers := by
        simpa using List.filter_eq_nil_iff.mp noneAttached
      cases ofAny : desk.running.getLast? with
      | some session =>
          obtain ⟨earlier, running⟩ := List.getLast?_eq_some_iff.mp ofAny
          exact .inr ⟨session, .ofAny earlier running apart, rfl⟩
      | none =>
          exact .inl ⟨List.getLast?_eq_none_iff.mp ofAny, rfl⟩

end Act

/-! ## Commands of the catalog -/

/-- The user command that a session creates for a command of the catalog. -/
def CommandBinding.userCommand (binding : CommandBinding) : UserCommand Action where
  name := binding.name
  action := .leaf binding
  arity := binding.arity
  complete := binding.complete

/-- A command that is on a host after another one was put there is that one, or it was there. -/
theorem mem_of_mem_putCommand
    {command other : UserCommand Action}
    {commands : List (UserCommand Action)}
    (member : other ∈ Host.putCommand command commands) :
    other = command ∨ other ∈ commands := by
  induction commands with
  | nil =>
      exact .inl (List.mem_singleton.mp member)
  | cons old rest inductionHypothesis =>
      unfold Host.putCommand at member
      split at member
      · exact (List.mem_cons.mp member).imp_right (List.mem_cons_of_mem old)
      · rcases List.mem_cons.mp member with isOld | later
        · exact .inr (isOld ▸ List.mem_cons_self)
        · exact (inductionHypothesis later).imp_right (List.mem_cons_of_mem old)

namespace Ledger

/-- A command that is on a host after those of a session were created is one of them, or it was
there. -/
theorem mem_of_mem_offered
    {bindings : List CommandBinding}
    {command : UserCommand Action}
    {commands : List (UserCommand Action)}
    (member : command ∈ offered bindings commands) :
    (∃ binding ∈ bindings, command = binding.userCommand) ∨ command ∈ commands := by
  induction bindings generalizing commands with
  | nil =>
      exact .inr member
  | cons binding rest inductionHypothesis =>
      unfold offered at inductionHypothesis member
      rw [List.foldl_cons] at member
      obtain ⟨other, isRest, isCommand⟩ | before := inductionHypothesis member
      · exact .inl ⟨other, List.mem_cons_of_mem binding isRest, isCommand⟩
      · exact (mem_of_mem_putCommand before).imp_left fun isCommand =>
          ⟨binding, List.mem_cons_self, isCommand⟩

/-- All commands on the host that are named like those of the sessions are theirs. -/
def IsExclusive (ledger : Ledger) : Prop :=
  ∀ command ∈ ledger.own, ∃ binding ∈ ledger.bindings, command = binding.userCommand

variable {ledger : Ledger}

/-- Fewer commands of the same sessions are theirs. -/
theorem IsExclusive.of_subset
    {after : Ledger}
    (exclusive : ledger.IsExclusive)
    (bindings : after.bindings = ledger.bindings)
    (fewer : after.own ⊆ ledger.own) :
    after.IsExclusive := by
  intro command member
  rw [bindings]
  exact exclusive command (fewer member)

theorem IsExclusive.turn
    {after : Ledger}
    (exclusive : ledger.IsExclusive)
    (turn : ledger.Turn after) :
    after.IsExclusive := by
  cases turn with
  | equip entry known starting =>
      intro command member
      obtain ⟨offered, isOwn⟩ := List.mem_filter.mp member
      exact (mem_of_mem_offered offered).elim id fun before =>
        exclusive command (List.mem_filter.mpr ⟨before, isOwn⟩)
  | _ =>
      exact exclusive.of_subset rfl (List.Subset.refl _)

theorem IsExclusive.leave
    (exclusive : ledger.IsExclusive)
    (entry : LedgerEntry)
    (code : Json) :
    (ledger.leave entry code).IsExclusive := by
  refine exclusive.of_subset rfl fun command member => ?_
  obtain ⟨remains, isOwn⟩ := List.mem_filter.mp member
  refine List.mem_filter.mpr ⟨?_, isOwn⟩
  have remaining : command ∈ ledger.remaining entry := remains
  unfold Ledger.remaining at remaining
  split at remaining
  · exact List.mem_of_mem_filter remaining
  · exact remaining

theorem IsExclusive.undisturbed
    {after : Ledger}
    (exclusive : ledger.IsExclusive)
    (apart : ledger.Undisturbed after) :
    after.IsExclusive := by
  refine exclusive.of_subset ?_ (by rw [apart.own]; exact List.Subset.refl _)
  rw [apart.same]

end Ledger

/-- Where the host has no command of these names, none of its commands is the manager's own. -/
theorem Desk.own_eq_nil
    (desk : Desk)
    (unclaimed : ∀ name ∈ desk.commandNames, ¬desk.host.hasCommand name) :
    desk.ledger.own = [] := by
  refine List.filter_eq_nil_iff.mpr fun command member isOwn => ?_
  refine unclaimed command.name (by simpa using isOwn) ?_
  exact (hasCommand_iff _ _).mpr (List.mem_map_of_mem member)

/-- On a host that had no commands of these names, the commands of the catalog are those of the
sessions. -/
theorem ManagerRun.isExclusive
    {around : Surroundings}
    {initial desk : Desk}
    {calls : List Call}
    (new : initial.IsNew)
    (unclaimed : initial.ledger.own = [])
    (run : ManagerRun around initial calls desk) :
    desk.ledger.IsExclusive := by
  refine (run.ledger_induction new Ledger.IsExclusive ?_ ?_ ?_ ?_).2
  · intro command member
    rw [unclaimed] at member
    cases member
  · exact fun before after _ exclusive turn => exclusive.turn turn
  · exact fun before entry code _ exclusive _ _ => exclusive.leave entry code
  · exact fun before after _ exclusive apart => exclusive.undisturbed apart

/-! ## Running commands -/

/-- A station whose host has a current buffer, and whose orders have been handed out. -/
def Station.focused (station : Station) : Station :=
  { station with desk :=
      { station.desk with host := station.desk.host.currentBuffer.2, orders := [] } }

namespace Move

/-- Call the action of a leaf with a session and arguments, if it takes that many. -/
def callAction (session : Nat) (leaf : String) (arguments : List Json) (action : LeafAction) :
    Move Next :=
  if action.takesArguments || arguments.length = 0 then runAction session arguments action
  else throw (.misuse (.argumentCount leaf 2 (2 + arguments.length)))

variable {station : Station}

/-- The action of a known leaf is called, and nothing else is done. -/
theorem perform_runLeaf
    (silent : station.desk.orders = [])
    (session : Nat)
    (leaf : String)
    (arguments : List Json) :
    perform (runLeaf session leaf arguments) station =
      match findLeaf? station.desk.setup.actions leaf with
      | none => (.error (.unavailable (.unknownLeaf leaf)), station)
      | some action => perform (callAction session leaf arguments action) station := by
  have cleared : ({ station.desk with orders := [] } : Desk) = station.desk := by
    rw [← silent]
  have acts : Act.perform (Act.leafAction leaf arguments.length) station.desk =
      (match findLeaf? station.desk.setup.actions leaf with
        | none => .error (.unavailable (.unknownLeaf leaf))
        | some action =>
          if action.takesArguments || arguments.length = 0 then .ok action
          else .error (.misuse (.argumentCount leaf 2 (2 + arguments.length))), station.desk) := by
    unfold Act.leafAction
    rw [Act.perform_get_bind]
    cases findLeaf? station.desk.setup.actions leaf with
    | none => rfl
    | some action =>
        dsimp only
        split <;> rfl
  have spares := (Act.keeps_leafAction leaf arguments.length).spares
  unfold runLeaf callAction
  rw [perform_bind, perform_atDesk spares, Act.after, cleared, acts]
  cases findLeaf? station.desk.setup.actions leaf with
  | none => rfl
  | some action =>
      by_cases fits : (action.takesArguments || decide (arguments.length = 0)) = true
      · simp only [if_pos fits]
      · simp only [if_neg fits]
        rfl

/-- A command that the host refuses does nothing. -/
theorem perform_runCommand_of_refused
    {name : String}
    {arguments : List Json}
    {fault : CommandFault}
    (refused : station.desk.host.lookUp name arguments.length = .error fault) :
    perform (runCommand name arguments) station = (.error (.command fault), station) := by
  unfold runCommand
  rw [perform_get_bind, refused]
  rfl

/-- A command of the catalog that the host accepts goes to its target. -/
theorem perform_runCommand_of_binding
    (orderly : station.desk.ledger.Orderly)
    {name : String}
    {binding : CommandBinding}
    {arguments : List Json}
    (accepted : station.desk.host.lookUp name arguments.length = .ok (.leaf binding)) :
    (station.desk.running = [] ∧ perform (runCommand name arguments) station =
      (.error (.unavailable .noSession), station.focused)) ∨
    ∃ session : Session, session.IsTarget station.desk.running station.desk.host.currentBuffer.1 ∧
      perform (runCommand name arguments) station =
        perform (runLeaf session.id binding.leaf (binding.leafArguments ++ arguments))
          station.focused := by
  let cleared : Desk := { station.desk with orders := [] }
  have orderlyCleared : cleared.ledger.Orderly :=
    ⟨{ orderly.toNumbered with launchedKnown := fun _ launched => by cases launched },
      orderly.sound, orderly.listedExactly⟩
  have runs : perform (runCommand name arguments) station =
      perform (atDesk Act.targetSession >>= fun session =>
        runLeaf session.id binding.leaf (binding.leafArguments ++ arguments)) station := by
    unfold runCommand
    rw [perform_get_bind, accepted]
    rfl
  have silent : (Act.after Act.targetSession cleared).orders = [] := by
    obtain ⟨_, made⟩ | ⟨_, _, made⟩ := Act.perform_targetSession orderlyCleared <;>
      exact congrArg (fun done => done.2.orders) made
  rw [runs, perform_bind, perform_atDesk_of_silent silent]
  obtain ⟨none, failed⟩ | ⟨session, isTarget, found⟩ := Act.perform_targetSession orderlyCleared
  · rw [Act.after, failed]
    exact .inl ⟨none, rfl⟩
  · rw [Act.after, found]
    exact .inr ⟨session, isTarget, rfl⟩

end Move

/-- How the commands of a manager's catalog are run at a station. -/
structure Station.RoutesCommands (station : Station) : Prop where
  /-- A command that the host does not have is refused, and nothing is done. -/
  unknown : ∀ name arguments, ¬station.desk.host.hasCommand name →
    Move.perform (Move.runCommand name arguments) station =
      (.error (.command (.notACommand name)), station)
  /-- So is a command with more arguments than it takes. -/
  crowded : ∀ name arguments command fault, station.desk.host.command? name = some command →
    command.arity.check name arguments.length = .error fault →
    Move.perform (Move.runCommand name arguments) station = (.error (.command fault), station)
  /-- Without a running session a command is not available. -/
  idle : ∀ name arguments binding,
    station.desk.host.lookUp name arguments.length = .ok (.leaf binding) →
    (∀ session ∈ station.desk.registry.sessions, session.state ≠ .running) →
    Move.perform (Move.runCommand name arguments) station =
      (.error (.unavailable .noSession), station.focused)
  /-- Neither is it when its leaf is not known. -/
  leafless : ∀ name arguments binding,
    station.desk.host.lookUp name arguments.length = .ok (.leaf binding) →
    (∃ session ∈ station.desk.registry.sessions, session.state = .running) →
    findLeaf? station.desk.setup.actions binding.leaf = none →
    Move.perform (Move.runCommand name arguments) station =
      (.error (.unavailable (.unknownLeaf binding.leaf)), station.focused)
  /-- Otherwise the action of the leaf is called once, with the arguments of the leaf and those of
  the command, for the target among the running sessions, which has a client. -/
  reaches : ∀ name arguments binding action,
    station.desk.host.lookUp name arguments.length = .ok (.leaf binding) →
    (∃ session ∈ station.desk.registry.sessions, session.state = .running) →
    findLeaf? station.desk.setup.actions binding.leaf = some action →
    ∃ session ∈ station.desk.registry.registered,
      session.name = serverName ∧ session.state = .running ∧ session.client.isSome ∧
      session.IsTarget station.desk.running station.desk.host.currentBuffer.1 ∧
      Move.perform (Move.runCommand name arguments) station =
        Move.perform (Move.callAction session.id binding.leaf (binding.leafArguments ++ arguments)
          action) station.focused

/-- The running sessions are those that run, as all of these are registered. -/
theorem Desk.mem_running_iff
    {desk : Desk}
    (orderly : desk.ledger.Orderly)
    {session : Session} :
    session ∈ desk.running ↔ session ∈ desk.registry.sessions ∧ session.state = .running := by
  rw [running, List.mem_filter, decide_eq_true_eq]
  refine ⟨fun ⟨registered, runs⟩ => ?_, fun ⟨known, runs⟩ => ?_⟩
  · exact ⟨((Act.mem_registered orderly.toNumbered).mp registered).1, runs⟩
  · exact ⟨(mem_registered_iff orderly known).mpr (by rw [runs]; nofun), runs⟩

/-- Commands are routed where the ledger is orderly and the running sessions are connected. -/
theorem Station.routesCommands
    {station : Station}
    (orderly : station.desk.ledger.Orderly)
    (connected : station.desk.registry.IsConnected) :
    station.RoutesCommands where
  unknown name arguments missing := by
    refine Move.perform_runCommand_of_refused ?_
    unfold Host.lookUp
    rw [Option.not_isSome_iff_eq_none.mp missing]
  crowded name arguments command fault found misfit := by
    refine Move.perform_runCommand_of_refused ?_
    unfold Host.lookUp
    rw [found]
    dsimp only
    rw [misfit]
    rfl
  idle name arguments binding accepted idle := by
    obtain ⟨_, failed⟩ | ⟨session, isTarget, _⟩ :=
      Move.perform_runCommand_of_binding orderly accepted
    · exact failed
    · obtain ⟨known, runs⟩ := (Desk.mem_running_iff orderly).mp isTarget.mem_running
      exact absurd runs (idle session known)
  leafless name arguments binding accepted busy leafless := by
    obtain ⟨runner, known, runs⟩ := busy
    obtain ⟨none, _⟩ | ⟨session, _, reached⟩ :=
      Move.perform_runCommand_of_binding orderly accepted
    · have isRunning := (Desk.mem_running_iff orderly).mpr ⟨known, runs⟩
      rw [none] at isRunning
      cases isRunning
    · have sameSetup : station.focused.desk.setup = station.desk.setup := rfl
      rw [reached, Move.perform_runLeaf rfl, sameSetup, leafless]
  reaches name arguments binding action accepted busy found := by
    obtain ⟨runner, known, runs⟩ := busy
    obtain ⟨none, _⟩ | ⟨session, isTarget, reached⟩ :=
      Move.perform_runCommand_of_binding orderly accepted
    · have isRunning := (Desk.mem_running_iff orderly).mpr ⟨known, runs⟩
      rw [none] at isRunning
      cases isRunning
    · have running := isTarget.mem_running
      obtain ⟨isKnown, isRunning⟩ := (Desk.mem_running_iff orderly).mp running
      have named := (orderly.sound session.entry (List.mem_map_of_mem isKnown)).named
      have sameSetup : station.focused.desk.setup = station.desk.setup := rfl
      refine ⟨session, List.mem_of_mem_filter running, named, isRunning,
        connected session isKnown isRunning, isTarget, ?_⟩
      rw [reached, Move.perform_runLeaf rfl, sameSetup, found]

/-- At every desk that a manager comes to, its commands reach their target: a running session with
a client, the one of the current buffer that was registered last or else the one that was
registered last.  Under the names of the catalog the host has no other commands, unless it had some
at first. -/
theorem ConnectedRun.commands_reach_their_target
    {around : Surroundings}
    {initial desk : Desk}
    {calls : List Call}
    (new : initial.IsNew)
    (spare : around.SpareConnections)
    (run : ConnectedRun around initial calls desk)
    {station : Station}
    (isAtDesk : station.desk = desk) :
    station.RoutesCommands ∧
      ((∀ name ∈ initial.commandNames, ¬initial.host.hasCommand name) →
        ∀ name ∈ initial.commandNames, ∀ command, station.desk.host.command? name = some command →
          ∃ binding ∈ initial.setup.bindings, command = binding.userCommand) := by
  subst isAtDesk
  have orderly := run.managed.orderly new
  refine ⟨Station.routesCommands orderly (run.isConnected new spare), ?_⟩
  intro unclaimed name isName command found
  have noneOwn := initial.own_eq_nil unclaimed
  obtain ⟨sameBindings, _⟩ := run.managed.stocked new noneOwn
  have exclusive := run.managed.isExclusive new noneOwn
  have isNamed : command.name = name := by
    simpa using List.find?_some found
  have isOwn : command ∈ station.desk.ledger.own := by
    refine List.mem_filter.mpr ⟨List.mem_of_find?_eq_some found, ?_⟩
    have sameNames : station.desk.ledger.names = initial.commandNames :=
      congrArg (List.map CommandBinding.name) sameBindings
    rw [sameNames, isNamed]
    exact List.contains_iff_mem.mpr isName
  obtain ⟨binding, isBinding, isCommand⟩ := exclusive command isOwn
  rw [sameBindings] at isBinding
  exact ⟨binding, isBinding, isCommand⟩

/-- A session that is connected with its client. -/
def Session.connect (session : Session) : Session :=
  { session with client := some .client }

/-- A manager that finds roots by itself, around which sessions are connected with their clients. -/
def Surroundings.connecting : Surroundings where
  resolve := Act.resolveRoot
  outside before after := ∃ id, after = Act.after (Act.modifySession id Session.connect) before
  quiet := Act.keeps_resolveRoot
  apart := by
    rintro before after ⟨id, rfl⟩
    have keeps : Act.Keeps (Act.modifySession id Session.connect) :=
      Act.keeps_modifySession fun _ => rfl
    rw [keeps before]
    exact ⟨rfl, rfl⟩

/-- Connecting sessions takes no connection away. -/
theorem Surroundings.spareConnections_connecting : Surroundings.connecting.SpareConnections where
  resolve path := Act.keepsTo_resolveRoot Desk.allowsStarts_staysConnected path
  outside := by
    rintro before after ⟨id, rfl⟩
    exact Act.staysConnected_modifySession id (fun _ _ _ => rfl) before

/-- The desk of a manager whose first session is starting and connected. -/
def Desk.connected : Desk :=
  Act.after (Act.modifySession 1 Session.connect) ((Call.start [] none).after .connecting .bare)

/-- The workspace of the only session, which runs, is reloaded by its command. -/
theorem reload_command_reaches_session :
    let desk := (Call.initialized 1).after .connecting .connected
    let station := Station.fresh desk .bare 1 .live .null []
    Desk.bare.IsNew ∧ Surroundings.connecting.SpareConnections ∧
      ConnectedRun .connecting .bare [.start [] none, .initialized 1] desk ∧
      station.desk = desk ∧
      ∃ session ∈ desk.registry.registered, session.state = .running ∧ session.client.isSome ∧
        Move.perform (Move.runCommand "RustReloadWorkspace" []) station =
          Move.perform (Move.callAction session.id reloadLeaf [] .reloadWorkspace)
            station.focused := by
  intro desk station
  have new : Desk.bare.IsNew := ⟨rfl, rfl⟩
  have spare := Surroundings.spareConnections_connecting
  have started : ConnectedRun .connecting .bare [.start [] none] .connected :=
    (ConnectedRun.begin.call (.start [] none) trivial trivial).outside ⟨1, rfl⟩
  have isConnected : ((Desk.connected.registry.get? 1).bind Session.client).isSome := by
    decide +kernel
  have run := started.call (.initialized 1) (by decide +kernel) isConnected
  have isAtDesk : station.desk = desk := rfl
  obtain ⟨routes, _⟩ := run.commands_reach_their_target new spare isAtDesk
  have runs : ∃ session ∈ station.desk.registry.sessions, session.state = .running := by
    decide +kernel
  obtain ⟨session, registered, _, running, hasClient, _, reached⟩ :=
    routes.reaches "RustReloadWorkspace" [] (.plain "RustReloadWorkspace" reloadLeaf)
      .reloadWorkspace rfl runs rfl
  exact ⟨new, spare, run, isAtDesk, session, registered, running, hasClient, reached⟩

end AnalyzerSessions
