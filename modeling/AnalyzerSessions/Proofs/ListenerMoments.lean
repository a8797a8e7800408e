import AnalyzerSessions.Proofs.SharedCommands
import AnalyzerSessions.Proofs.UncalledListeners

namespace AnalyzerSessions

/-!
# Moments of listeners

What a report of the transport does before it comes to the listeners.  A session
whose server is initialized runs by then, with all commands on the host; a
session whose server has exited is stopped and has given up everything it had.
-/

/-- A session that is found is changed where it is. -/
theorem Registry.get?_modify
    (registry : Registry)
    (id : Nat)
    {change : Session → Session}
    (sameId : ∀ session, (change session).id = session.id) :
    (registry.modify id change).get? id = (registry.get? id).map change := by
  unfold Registry.get? Registry.modify
  rw [List.find?_map]
  have sameTest : ((fun session : Session => session.id == id) ∘
      fun session => if session.id = id then change session else session) =
      fun session => session.id == id := by
    funext session
    by_cases isMeant : session.id = id
    · simp [isMeant, sameId]
    · simp [isMeant]
  rw [sameTest]
  cases found : registry.sessions.find? fun session => session.id == id with
  | none =>
      rfl
  | some session =>
      have isMeant : session.id = id := by
        simpa using List.find?_some found
      simp [isMeant]

/-- The sessions that are found are those with an entry. -/
theorem Desk.isSome_get?_iff
    (desk : Desk)
    (id : Nat) :
    (desk.registry.get? id).isSome ↔ id ∈ desk.ledger.ids := by
  simp [Registry.get?, Ledger.ids, Desk.ledger]

/-- Whether the section of the configuration can be read that offers to reload workspaces. -/
def Desk.ReadsTools (desk : Desk) : Prop :=
  ∃ reloads, Config.sectionEntry desk.setup.config "tools" "reload_workspace_from_cargo_toml"
    (.bool true) = .ok reloads

/-- A group that was created is there. -/
theorem hasGroup_createGroup
    (host : Host Action)
    (name : String)
    (clear : Bool) :
    (host.createGroup name clear).2.hasGroup (host.createGroup name clear).1 := by
  unfold Host.createGroup
  split
  · rename_i group named
    have isThere : host.hasGroup group.id :=
      List.any_eq_true.mpr ⟨group, List.mem_of_find?_eq_some named, by simp⟩
    cases clear with
    | false =>
        exact isThere
    | true =>
        exact isThere
  · simp [Host.hasGroup]

/-- A session is there under its number, it is stopped with an exit code, and it has given up
everything that it had. -/
structure Registry.HasLeft
    (registry : Registry)
    (id : Nat)
    (session : Session)
    (code : Json) : Prop where
  present : registry.get? id = some session
  stopped : session.state = .stopped
  exitCode : session.exitCode = code
  unregistered : session ∉ registry.registered
  detached : session.client = none
  emptied : session.commands = []
  ungrouped : session.group = none

namespace Act

/-- A session is found in the state that it was moved to. -/
theorem get?_transition
    (id : Nat)
    (state : SessionState)
    (desk : Desk) :
    (after (transition id state) desk).registry.get? id =
      (desk.registry.get? id).map fun session => (session.transition state).1 := by
  unfold transition
  rw [after_get_bind]
  cases found : desk.registry.get? id with
  | none =>
      exact found
  | some session =>
      have changed := Registry.get?_modify desk.registry id
        (show ∀ current : Session, (current.transition state).1.id = current.id from fun _ => rfl)
      rw [found] at changed
      exact changed

/-! ## Initialized servers -/

theorem succeeds_createReload (id : Nat) : Succeeds (createReload id) := by
  intro desk
  unfold createReload
  rw [perform_get_bind]
  have isThere := hasGroup_createGroup desk.host (groupName id) true
  rcases grouping : desk.host.createGroup (groupName id) true with ⟨group, grouped⟩
  rw [grouping] at isThere
  refine Succeeds.bind (succeeds_modify _) (fun _ => ?_) desk
  have created : ∃ made, grouped.createAutoCommand "BufWritePost" ("*/" ++ manifestName)
      (.reload id) group = .ok made := by
    exact ⟨_, by rw [Host.createAutoCommand, if_pos isThere]⟩
  obtain ⟨made, created⟩ := created
  simp only [created]
  exact (succeeds_pure made).bind fun _ => Succeeds.bind (succeeds_modify _) fun _ =>
    succeeds_modify _

/-- Reloading is offered where the configuration can be read. -/
theorem perform_offerReload
    (id : Nat)
    {desk : Desk}
    (reads : desk.ReadsTools) :
    (perform (offerReload id) desk).1 = .ok () := by
  obtain ⟨reloads, read⟩ := reads
  unfold offerReload
  rw [perform_get_bind]
  simp only [read]
  show (perform (if reloads.isTruthy then createReload id else pure ()) desk).1 = .ok ()
  split
  · exact (succeeds_createReload id desk).elim fun _ gave => gave
  · rfl

/-- Reloading is only offered where the configuration can be read. -/
theorem reads_of_offerReload
    {id : Nat}
    {desk : Desk}
    (offers : (perform (offerReload id) desk).1 = .ok ()) :
    desk.ReadsTools := by
  unfold offerReload at offers
  rw [perform_get_bind] at offers
  obtain ⟨reloads, read, _⟩ := ok_of_bind offers
  cases reading : Config.sectionEntry desk.setup.config "tools"
      "reload_workspace_from_cargo_toml" (.bool true) with
  | error misuse =>
      rw [reading] at read
      cases read
  | ok entry =>
      exact ⟨entry, reading⟩

/-- A session is set up where the configuration can be read, before it begins to run. -/
theorem perform_welcome
    (session : Session)
    {desk : Desk}
    (reads : desk.ReadsTools) :
    ∃ ready, perform (welcome session) desk = perform (beginRunning session) ready ∧
      ready.calls = desk.calls ∧ ready.ledger = desk.ledger.equip session.id := by
  obtain ⟨transforms, log, installed⟩ := after_installTransform plainSnippets desk
  obtain ⟨_, installs⟩ := succeeds_installTransform plainSnippets desk
  have stillReads : (after (equip session.id)
      (after (installTransform plainSnippets) desk)).ReadsTools := by
    rw [installed]
    exact reads
  have equips : (perform (equip session.id) (after (installTransform plainSnippets) desk)).1 =
      .ok () :=
    rfl
  refine ⟨after (offerReload session.id)
    (after (equip session.id) (after (installTransform plainSnippets) desk)), ?_, ?_, ?_⟩
  · unfold welcome
    rw [perform_bind_of_ok installs, perform_bind_of_ok equips,
      perform_bind_of_ok (perform_offerReload session.id stillReads)]
  · rw [callsNone_offerReload, callsNone_equip, callsNone_installTransform]
  · rw [keeps_offerReload, ledger_equip, keeps_installTransform]

/-- A session begins to run before its listeners are called. -/
theorem perform_beginRunning
    {session : Session}
    {desk : Desk}
    (known : session.id ∈ desk.ledger.ids) :
    ∃ running text, perform (beginRunning session) desk =
        perform (say .info text >>= fun _ => tellAll session.id [] session.initListeners) running ∧
      running.calls = desk.calls ∧
      (∃ now, running.registry.get? session.id = some now ∧ now.state = .running) ∧
      running.host.commands = desk.host.commands := by
  obtain ⟨current, present⟩ := Option.isSome_iff_exists.mp ((desk.isSome_get?_iff _).mpr known)
  have sameLedger := ledger_transition session.id .running
    (after (transition session.id .initialized) desk)
  rw [ledger_transition session.id .initialized desk] at sameLedger
  have begun : ∃ text, perform (beginRunning session) desk =
      perform (say .info text >>= fun _ => tellAll session.id [] session.initListeners)
        (after (transition session.id .running)
          (after (transition session.id .initialized) desk)) := by
    unfold beginRunning
    rw [perform_bind_of_ok (transition_succeeds _ _ _),
      perform_bind_of_ok (transition_succeeds _ _ _), perform_get_bind]
    exact ⟨_, rfl⟩
  obtain ⟨text, begun⟩ := begun
  refine ⟨_, text, begun, ?_, ⟨((current.transition .initialized).1.transition .running).1, ?_, rfl⟩,
    congrArg Ledger.hostCommands sameLedger⟩
  · rw [callsNone_transition, callsNone_transition]
  · rw [get?_transition, get?_transition, present]
    rfl

/-- When the server of a starting session is initialized, the session is running and all commands
are on the host at the moment when its listeners are called; the configuration has to be readable. -/
theorem onInit_callsAll
    {id : Nat}
    {session : Session}
    {desk : Desk}
    (known : desk.registry.get? id = some session)
    (starting : session.state = .starting)
    (reads : desk.ReadsTools) :
    ∃ moment, CallsAll id [] (onInit id) desk session.initListeners moment ∧
      (∃ now, moment.registry.get? id = some now ∧ now.state = .running) ∧
      ∀ name ∈ desk.commandNames, moment.host.hasCommand name := by
  obtain rfl : session.id = id := (entry_of_get? known).2
  have reported : perform (onInit session.id) desk = perform (welcome session) desk := by
    unfold onInit
    rw [perform_get_bind]
    simp only [known, starting, ↓reduceIte]
  obtain ⟨ready, welcomed, readyCalls, readyLedger⟩ := perform_welcome session reads
  have sameIds : (desk.ledger.change session.id (·.equipped desk.ledger.names)).ids =
      desk.ledger.ids :=
    Ledger.change_ids fun _ => rfl
  have readyKnown : session.id ∈ ready.ledger.ids := by
    rw [readyLedger]
    exact sameIds ▸ (desk.isSome_get?_iff _).mp (by rw [known]; rfl)
  obtain ⟨running, text, begun, runningCalls, isRunning, sameCommands⟩ :=
    perform_beginRunning readyKnown
  have tells := callsAll_of_say _ _ (runningCalls.trans readyCalls)
    (reported.trans (welcomed.trans begun))
  refine ⟨after (say .info text) running, tells, isRunning, ?_⟩
  intro name isName
  have offered : ready.host.commands = Ledger.offered desk.setup.bindings desk.host.commands :=
    congrArg Ledger.hostCommands readyLedger
  have present : name ∈ running.host.commands.map UserCommand.name := by
    rw [sameCommands, offered, Ledger.mem_offered_names]
    exact .inl isName
  exact (hasCommand_iff _ _).mpr present

/-- A session that is welcomed where the configuration cannot be read does not come to its
listeners. -/
theorem welcome_calls_of_not_reads
    (session : Session)
    {desk : Desk}
    (fails : ¬desk.ReadsTools) :
    (after (welcome session) desk).calls = desk.calls := by
  obtain ⟨transforms, log, installed⟩ := after_installTransform plainSnippets desk
  obtain ⟨_, installs⟩ := succeeds_installTransform plainSnippets desk
  have equips : (perform (equip session.id) (after (installTransform plainSnippets) desk)).1 =
      .ok () :=
    rfl
  unfold welcome
  rw [after_bind_of_ok installs, after_bind_of_ok equips]
  have stillFails : ¬(after (equip session.id)
      (after (installTransform plainSnippets) desk)).ReadsTools := by
    rw [installed]
    exact fails
  apply after_bind_of fun left => left.calls = desk.calls
  · intro _ _
    rw [callsNone_offerReload, callsNone_equip, callsNone_installTransform]
  · intro _ offers
    exact (stillFails (reads_of_offerReload offers)).elim

/-- The report that the server of a session is initialized comes to no listener when the session is
not starting or the configuration cannot be read. -/
theorem onInit_calls_of_not_due
    {id : Nat}
    {session : Session}
    {desk : Desk}
    (known : desk.registry.get? id = some session)
    (notDue : session.state = .starting → ¬desk.ReadsTools) :
    (after (onInit id) desk).calls = desk.calls := by
  unfold onInit
  rw [after_get_bind]
  by_cases starting : session.state = .starting
  · simp only [known, starting, ↓reduceIte]
    exact welcome_calls_of_not_reads session (notDue starting)
  · simp only [known, starting, ↓reduceIte]
    exact callsNone_say _ _ _

/-! ## Exited servers -/

/-- A session that is found is found changed. -/
theorem get?_modifySession
    (change : Session → Session)
    (sameId : ∀ session, (change session).id = session.id)
    {id : Nat}
    {desk : Desk}
    {session : Session}
    (found : desk.registry.get? id = some session) :
    (after (modifySession id change) desk).registry.get? id = some (change session) := by
  have changed := Registry.get?_modify desk.registry id sameId
  rw [found] at changed
  exact changed

/-- The withdrawal of commands leaves the sessions as they are. -/
theorem after_withdrawCommands_registry
    (session : Session)
    (desk : Desk) :
    (after (withdrawCommands session) desk).registry = desk.registry := by
  unfold withdrawCommands
  rw [after_get_bind]
  dsimp only
  split
  · rfl
  · rfl

/-- The commands of a session are taken away. -/
theorem get?_removeCommands
    {session : Session}
    {desk : Desk}
    (found : desk.registry.get? session.id = some session) :
    (after (removeCommands session) desk).registry.get? session.id =
      some { session with commands := [] } := by
  unfold removeCommands
  split
  · obtain ⟨_, withdrawn⟩ := succeeds_withdrawCommands session desk
    rw [after_bind_of_ok withdrawn]
    refine get?_modifySession (fun current => { current with commands := [] }) (fun _ => rfl) ?_
    rw [after_withdrawCommands_registry, found]
  · rename_i none
    have noCommands : session.commands = [] := by
      simpa using none
    show desk.registry.get? session.id = _
    rw [found, ← noCommands]

/-- The auto-command group of a session is taken away. -/
theorem get?_removeGroup
    {session current : Session}
    {desk : Desk}
    (found : desk.registry.get? session.id = some current)
    (sameGroup : current.group = session.group) :
    (after (removeGroup session) desk).registry.get? session.id =
      some { current with group := none } := by
  unfold removeGroup
  split
  · rename_i none
    show desk.registry.get? session.id = _
    rw [found, ← sameGroup.trans none]
  · rename_i group _
    rw [after_get_bind]
    split
    · rename_i host _
      have kept : (after (setHost host) desk).registry.get? session.id = some current := found
      exact get?_modifySession (fun current => { current with group := none }) (fun _ => rfl) kept
    · rename_i fault _
      have kept : (after (say .debug ("Auto-command group already gone: " ++ fault.message))
          desk).registry.get? session.id = some current :=
        found
      exact get?_modifySession (fun current => { current with group := none }) (fun _ => rfl) kept

/-- A session that begins to stop keeps its exit code, its commands and its group. -/
theorem get?_beginStopping
    {session current : Session}
    {desk : Desk}
    (found : desk.registry.get? session.id = some current) :
    ∃ now, (after (beginStopping session) desk).registry.get? session.id = some now ∧
      now.exitCode = current.exitCode ∧ now.commands = current.commands ∧
      now.group = current.group := by
  unfold beginStopping
  split
  · refine ⟨(current.transition .stopping).1, ?_, rfl, rfl, rfl⟩
    rw [get?_transition, found]
    rfl
  · exact ⟨current, found, rfl, rfl, rfl⟩

/-- A session that leaves the registry is found as it was, and is not listed. -/
theorem after_unregister_registry
    (session : Session)
    (desk : Desk) :
    (after (unregister session) desk).registry = desk.registry.unregister session.id := by
  unfold unregister
  rw [after_get_bind]
  dsimp only
  rw [after_modify_bind]
  split
  · rfl
  · rfl

/-- A session without commands and without a group that ends has left. -/
theorem hasLeft_conclude
    {session current : Session}
    {desk : Desk}
    (found : desk.registry.get? session.id = some current)
    (emptied : current.commands = [])
    (ungrouped : current.group = none)
    (code : Json) :
    ∃ left, (after (conclude session code) desk).registry.HasLeft session.id left code := by
  obtain ⟨now, stopping, coded, sameCommands, sameGroup⟩ := get?_beginStopping
    (get?_modifySession (fun current => { current with exitCode := code }) (fun _ => rfl) found)
  obtain ⟨_, begins⟩ := succeeds_beginStopping session
    (after (modifySession session.id fun current => { current with exitCode := code }) desk)
  unfold conclude
  rw [after_bind_of_ok rfl, after_bind_of_ok begins, after_bind_of_ok (transition_succeeds _ _ _)]
  generalize after (beginStopping session) (after (modifySession session.id fun current =>
    { current with exitCode := code }) desk) = begun at stopping ⊢
  have stopped : (after (transition session.id .stopped) begun).registry.get? session.id =
      some (now.transition .stopped).1 := by
    rw [get?_transition, stopping]
    rfl
  obtain ⟨_, leaves⟩ := succeeds_unregister session (after (transition session.id .stopped) begun)
  have gone := after_unregister_registry session (after (transition session.id .stopped) begun)
  rw [after_bind_of_ok leaves]
  generalize after (transition session.id .stopped) begun = ended at stopped gone leaves ⊢
  generalize after (unregister session) ended = last at gone ⊢
  have lastFound : last.registry.get? session.id = some (now.transition .stopped).1 := by
    rw [gone]
    exact stopped
  have detached :=
    get?_modifySession (fun current => { current with client := none }) (fun _ => rfl) lastFound
  have sameId : (now.transition .stopped).1.id = session.id :=
    Registry.id_of_get? lastFound
  refine ⟨_, detached, rfl, coded, fun registered => ?_, rfl, sameCommands.trans emptied,
    sameGroup.trans ungrouped⟩
  obtain ⟨id, listed, found⟩ := List.mem_filterMap.mp registered
  have isMeant : (now.transition .stopped).1.id = id := by
    simpa using List.find?_some found
  have unlisted : id ∈ last.registry.listed := listed
  rw [gone] at unlisted
  simp [Registry.unregister, ← isMeant, sameId] at unlisted

/-- A session gives up its commands and its group before it ends. -/
theorem perform_farewell
    {session : Session}
    {desk : Desk}
    (found : desk.registry.get? session.id = some session)
    (code : Json) :
    ∃ bare, perform (farewell session code) desk = perform
        (do
          conclude session code
          say .info ("Session " ++ toString session.id ++ " exited with code " ++ code.messageText)
          tellAll session.id [code] session.exitListeners) bare ∧
      bare.calls = desk.calls ∧
      bare.registry.get? session.id = some { session with commands := [], group := none } := by
  obtain ⟨transforms, log, installed⟩ := after_installTransform plainSnippets desk
  obtain ⟨_, installs⟩ := succeeds_installTransform plainSnippets desk
  have called := callsNone_installTransform plainSnippets desk
  have present : (after (installTransform plainSnippets) desk).registry.get? session.id =
      some session := by
    rw [installed]
    exact found
  obtain ⟨_, removes⟩ := succeeds_removeCommands session (after (installTransform plainSnippets) desk)
  obtain ⟨_, ungroups⟩ := succeeds_removeGroup session
    (after (removeCommands session) (after (installTransform plainSnippets) desk))
  refine ⟨after (removeGroup session)
    (after (removeCommands session) (after (installTransform plainSnippets) desk)), ?_, ?_, ?_⟩
  · unfold farewell
    rw [perform_bind_of_ok installs, perform_bind_of_ok removes, perform_bind_of_ok ungroups]
  · rw [callsNone_removeGroup, callsNone_removeCommands, called]
  · exact get?_removeGroup (get?_removeCommands present) rfl

/-- When the server of a session exits that is not stopped, the session has left at the moment when
its listeners are called. -/
theorem onExit_callsAll
    {id : Nat}
    {session : Session}
    {desk : Desk}
    (known : desk.registry.get? id = some session)
    (present : session.state ≠ .stopped)
    (code : Json) :
    ∃ moment, CallsAll id [code] (onExit id code) desk session.exitListeners moment ∧
      ∃ left, moment.registry.HasLeft id left code := by
  obtain rfl : session.id = id := (entry_of_get? known).2
  have reported : perform (onExit session.id code) desk = perform (farewell session code) desk := by
    unfold onExit
    rw [perform_get_bind]
    simp only [known, present, ↓reduceIte]
  obtain ⟨bare, taken, bareCalls, bareFound⟩ := perform_farewell known code
  obtain ⟨_, ends⟩ := succeeds_conclude session code bare
  rw [perform_bind_of_ok ends] at taken
  have called : (after (conclude session code) bare).calls = desk.calls :=
    (callsNone_conclude session code bare).trans bareCalls
  have left := hasLeft_conclude bareFound rfl rfl code
  exact ⟨after (say .info _) _, callsAll_of_say _ _ called (reported.trans taken), left⟩

/-- The report that the server of a stopped session has exited changes nothing. -/
theorem after_onExit_of_stopped
    {id : Nat}
    {session : Session}
    {desk : Desk}
    (known : desk.registry.get? id = some session)
    (stopped : session.state = .stopped)
    (code : Json) :
    after (onExit id code) desk = desk := by
  unfold onExit
  rw [after_get_bind]
  simp only [known, stopped, ↓reduceIte]
  rfl

end Act

end AnalyzerSessions
