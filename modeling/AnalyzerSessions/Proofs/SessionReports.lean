import AnalyzerSessions.Proofs.LedgerActs

namespace AnalyzerSessions.Act

/-!
# Reports of the transport

What a report that a server is initialized, or that it has exited, does to the
ledger.  The first one makes turns; the second one lets the session leave, unless
it left before.
-/

/-! ## Initialization -/

/-- Creating commands on a host. -/
theorem createAll_commands
    (bindings : List CommandBinding)
    (host : Host Action) :
    (bindings.foldl (fun host binding =>
      host.createCommand ⟨binding.name, .leaf binding, binding.arity, binding.complete⟩)
        host).commands =
      Ledger.offered bindings host.commands := by
  induction bindings generalizing host with
  | nil =>
      rfl
  | cons binding rest inductionHypothesis =>
      exact inductionHypothesis _

/-- A session is equipped with the commands. -/
theorem ledger_equip
    (id : Nat)
    (desk : Desk) :
    (after (equip id) desk).ledger = desk.ledger.equip id := by
  unfold equip
  rw [after_get_bind]
  unfold createCommands
  rw [after_modify_bind, ledger_modifySession (·.equipped desk.ledger.names) fun _ => rfl]
  simp only [Ledger.equip, Ledger.change, Desk.ledger, createAll_commands]

/-- An equipped session that is starting is welcomed. -/
theorem turns_beginRunning
    {session : Session}
    {desk : Desk}
    {entry : LedgerEntry}
    (known : entry ∈ desk.ledger.entries)
    (sameId : entry.id = session.id)
    (starting : entry.state = .starting)
    (equipped : entry.commands = desk.ledger.names) :
    desk.ledger.Turns (after (beginRunning session) desk).ledger := by
  unfold beginRunning
  rw [after_bind_of_ok (transition_succeeds _ _ _), after_bind_of_ok (transition_succeeds _ _ _)]
  have welcomed :
      (after (transition session.id .running)
        (after (transition session.id .initialized) desk)).ledger =
        desk.ledger.change entry.id LedgerEntry.welcomed := by
    rw [ledger_transition, ledger_transition, sameId]
    exact Ledger.change_change fun _ => rfl
  refine .head (.welcome entry known starting equipped) ?_
  rw [← welcomed]
  apply KeepsAt.turns
  refine KeepsAt.afterGet (KeepsAt.bind (keeps_say _ _ _) fun _ _ => ?_)
  exact keeps_tellAll _ _ _ _

/-- A starting session is equipped and welcomed, or only equipped when the configuration is at
fault. -/
theorem turns_welcome
    {session : Session}
    {desk : Desk}
    {entry : LedgerEntry}
    (known : entry ∈ desk.ledger.entries)
    (sameId : entry.id = session.id)
    (starting : entry.state = .starting) :
    desk.ledger.Turns (after (welcome session) desk).ledger := by
  unfold welcome
  have installed := keeps_installTransform plainSnippets desk
  refine turns_bind installed.turns fun _ _ => ?_
  have equipped := ledger_equip session.id (after (installTransform plainSnippets) desk)
  rw [installed, ← sameId] at equipped
  have isEquipped : entry.equipped desk.ledger.names ∈ (desk.ledger.equip entry.id).entries :=
    List.mem_map.mpr ⟨entry, known, by simp⟩
  refine turns_bind ?_ fun _ _ => ?_
  · rw [installed, ← sameId, equipped]
    exact .single (.equip entry known starting)
  rw [← sameId]
  generalize after (equip entry.id) (after (installTransform plainSnippets) desk) = ready
    at equipped ⊢
  have offered := keeps_offerReload entry.id ready
  refine turns_bind offered.turns fun _ _ => ?_
  have sameLedger : (after (offerReload entry.id) ready).ledger = desk.ledger.equip entry.id :=
    offered.trans equipped
  rw [← sameLedger] at isEquipped
  refine turns_beginRunning isEquipped sameId starting ?_
  rw [sameLedger]
  rfl

/-- The report that a server is initialized. -/
theorem turns_onInit
    (id : Nat)
    (desk : Desk) :
    desk.ledger.Turns (after (onInit id) desk).ledger := by
  unfold onInit
  rw [after_get_bind]
  cases found : desk.registry.get? id with
  | none =>
      exact .refl
  | some session =>
      by_cases starting : session.state = .starting
      · simp only [starting, ↓reduceIte]
        exact turns_welcome (entry_of_get? found).1 rfl starting
      · simp only [starting, ↓reduceIte]
        exact (keeps_say _ _ _).turns

/-! ## Exit -/

/-- The sessions that keep the commands on the host are those that the ledger shows. -/
theorem others_eq_nil
    {desk : Desk}
    (numbered : desk.ledger.Numbered)
    (id : Nat) :
    ((desk.registry.active (some serverName) none).filter fun other =>
      other.id != id && !other.commands.isEmpty) = [] ↔
      desk.ledger.others id = [] := by
  rw [List.filter_eq_nil_iff, Ledger.others, List.filter_eq_nil_iff]
  constructor
  · intro none entry member
    obtain ⟨session, sessionMember, rfl⟩ := List.mem_map.mp member
    intro isOther
    simp only [Bool.and_eq_true, List.contains_iff_mem] at isOther
    obtain ⟨⟨⟨⟨listed, active⟩, named⟩, different⟩, offers⟩ := isOther
    apply none session
    · refine List.mem_filter.mpr ⟨(mem_registered numbered).mpr ⟨sessionMember, listed⟩, ?_⟩
      simpa [Registry.fits] using ⟨active, by simpa using named⟩
    · simpa using ⟨by simpa using different, by simpa using offers⟩
  · intro none session member
    obtain ⟨registered, fits⟩ := List.mem_filter.mp member
    obtain ⟨sessionMember, listed⟩ := (mem_registered numbered).mp registered
    intro isOther
    apply none session.entry (List.mem_map_of_mem sessionMember)
    simp only [Registry.fits, Option.all_some, Option.all_none, Bool.and_true,
      Bool.and_eq_true] at fits isOther
    simp only [Bool.and_eq_true, List.contains_iff_mem]
    exact ⟨⟨⟨⟨listed, fits.1⟩, fits.2⟩, isOther.1⟩, isOther.2⟩

/-- Deleting commands from a host. -/
theorem dropAll_commands
    (names : List String)
    (host : Host Action) :
    (names.foldl (fun host name => host.dropCommand name) host).commands =
      host.commands.filter fun command => !names.contains command.name := by
  induction names generalizing host with
  | nil =>
      simp
  | cons name rest inductionHypothesis =>
      rw [List.foldl_cons, inductionHypothesis]
      simp only [Host.dropCommand, List.filter_filter]
      apply List.filter_congr
      intro command _
      by_cases same : command.name = name
      · simp [same]
      · simp [same]

theorem succeeds_withdrawCommands (session : Session) : Succeeds (withdrawCommands session) := by
  refine succeeds_get.bind fun _ => ?_
  dsimp only
  split
  · exact succeeds_modify _
  · exact succeeds_modify _

/-- A session's commands are deleted unless others offer them. -/
theorem ledger_withdrawCommands
    {session : Session}
    {desk : Desk}
    (numbered : desk.ledger.Numbered) :
    (after (withdrawCommands session) desk).ledger =
      { desk.ledger with hostCommands := desk.ledger.remaining session.entry } := by
  unfold withdrawCommands
  rw [after_get_bind]
  have sameOthers := others_eq_nil numbered session.id
  by_cases noOthers : desk.ledger.others session.id = []
  · simp only [sameOthers.mpr noOthers, Ledger.remaining, Session.entry_id, noOthers,
      List.isEmpty_nil, ↓reduceIte]
    show Desk.ledger { desk with host := _ } = _
    simp only [Desk.ledger, dropAll_commands]
    rfl
  · have someOthers : ((desk.registry.active (some serverName) none).filter fun other =>
        other.id != session.id && !other.commands.isEmpty).isEmpty = false :=
      List.isEmpty_eq_false_iff.mpr fun none => noOthers (sameOthers.mp none)
    simp only [someOthers, Ledger.remaining, Session.entry_id, noOthers, ↓reduceIte,
      Bool.false_eq_true]
    exact keeps_say _ _ _

/-- A session's commands are taken away. -/
theorem ledger_removeCommands
    {session : Session}
    {desk : Desk}
    (numbered : desk.ledger.Numbered)
    (member : session.entry ∈ desk.ledger.entries) :
    (after (removeCommands session) desk).ledger =
      { desk.ledger.change session.id (·.equipped []) with
        hostCommands := desk.ledger.remaining session.entry } := by
  unfold removeCommands
  have entryId : session.entry.id = session.id := rfl
  split
  · obtain ⟨_, gave⟩ := succeeds_withdrawCommands session desk
    rw [after_bind_of_ok gave, ledger_modifySession (·.equipped []) fun _ => rfl,
      ledger_withdrawCommands numbered]
    rfl
  · rename_i none
    have noCommands : session.commands = [] := by
      simpa using none
    have unequipped : session.entry.equipped [] = session.entry := by
      simp [LedgerEntry.equipped, Session.entry, noCommands]
    have kept : desk.ledger.remaining session.entry = desk.ledger.hostCommands := by
      simp [Ledger.remaining, Session.entry, noCommands]
    rw [kept, Ledger.change_eq_self]
    · rfl
    · intro entry entryMember sameId
      rw [numbered.eq_of_id_eq entryMember member sameId, unequipped]

/-- A session that is not stopping begins to. -/
theorem ledger_beginStopping
    {session : Session}
    {desk : Desk}
    (current : ∀ entry ∈ desk.ledger.entries, entry.id = session.id → entry.state = session.state) :
    (after (beginStopping session) desk).ledger =
      desk.ledger.change session.id LedgerEntry.stopping := by
  unfold beginStopping
  by_cases isStopping : session.state = .stopping
  · simp only [isStopping, ne_eq, not_true_eq_false, ↓reduceIte]
    refine (Ledger.change_eq_self fun entry member sameId => ?_).symm
    simp [LedgerEntry.stopping, current entry member sameId, isStopping]
  · simp only [isStopping, ne_eq, not_false_eq_true, ↓reduceIte]
    rw [ledger_transition]
    refine Ledger.change_congr fun entry member sameId => ?_
    simp [LedgerEntry.stopping, current entry member sameId, isStopping]

/-- A session is taken out of the registry. -/
theorem ledger_unregister
    (session : Session)
    (desk : Desk) :
    (after (unregister session) desk).ledger = desk.ledger.unlist session.id := by
  unfold unregister
  rw [after_get_bind]
  dsimp only
  rw [after_modify_bind]
  split
  · exact keeps_note _ _
  · rfl

theorem succeeds_beginStopping (session : Session) : Succeeds (beginStopping session) := by
  unfold beginStopping
  split
  · exact succeeds_transition _ _
  · exact succeeds_pure ()

theorem succeeds_unregister (session : Session) : Succeeds (unregister session) := by
  refine succeeds_get.bind fun _ => Succeeds.bind (succeeds_modify _) fun _ => ?_
  split
  · exact succeeds_modify _
  · exact succeeds_pure ()

/-- A session ends with an exit code. -/
theorem ledger_conclude
    {session : Session}
    {desk : Desk}
    (current : ∀ entry ∈ desk.ledger.entries, entry.id = session.id → entry.state = session.state)
    (code : Json) :
    (after (conclude session code) desk).ledger =
      (desk.ledger.change session.id (·.concluded code)).unlist session.id := by
  unfold conclude
  have coded : (after (modifySession session.id fun current =>
      { current with exitCode := code }) desk).ledger =
      desk.ledger.change session.id fun entry => { entry with exitCode := code } :=
    ledger_modifySession _ (fun _ => rfl) desk
  rw [after_bind_of_ok rfl]
  generalize after (modifySession session.id fun current =>
    { current with exitCode := code }) desk = ended at coded ⊢
  have endedCurrent : ∀ entry ∈ ended.ledger.entries,
      entry.id = session.id → entry.state = session.state := by
    rw [coded]
    intro entry member sameId
    obtain ⟨old, oldMember, rfl⟩ := List.mem_map.mp member
    by_cases changed : old.id = session.id
    · simpa [changed] using current old oldMember changed
    · simp [changed] at sameId
  obtain ⟨_, stopped⟩ := succeeds_beginStopping session ended
  obtain ⟨_, gone⟩ := succeeds_unregister session
    (after (transition session.id .stopped) (after (beginStopping session) ended))
  have detached : ∀ current : Session, { current with client := none }.entry = current.entry :=
    fun _ => rfl
  rw [after_bind_of_ok stopped, after_bind_of_ok (transition_succeeds _ _ _),
    after_bind_of_ok gone, keeps_modifySession detached, ledger_unregister, ledger_transition,
    ledger_beginStopping endedCurrent, coded, Ledger.change_change, Ledger.change_change]
  · rfl
  · exact fun _ => rfl
  · intro entry
    simp

theorem succeeds_installTransform (transform : Transform) :
    Succeeds (installTransform transform) := by
  unfold installTransform
  refine succeeds_get.bind fun desk => Succeeds.bind (succeeds_modify _) fun _ => ?_
  split
  · exact Succeeds.bind (succeeds_modify _) fun _ => succeeds_pure _
  · exact succeeds_pure _

theorem succeeds_removeCommands (session : Session) : Succeeds (removeCommands session) := by
  unfold removeCommands
  split
  · exact (succeeds_withdrawCommands session).bind fun _ => succeeds_modify _
  · exact succeeds_pure ()

theorem succeeds_removeGroup (session : Session) : Succeeds (removeGroup session) := by
  unfold removeGroup
  split
  · exact succeeds_pure ()
  · refine succeeds_get.bind fun _ => ?_
    split
    · exact Succeeds.bind (succeeds_modify _) fun _ => succeeds_modify _
    · exact Succeeds.bind (succeeds_modify _) fun _ => succeeds_modify _

theorem succeeds_conclude
    (session : Session)
    (code : Json) :
    Succeeds (conclude session code) := by
  refine Succeeds.bind (succeeds_modify _) fun _ => ?_
  refine (succeeds_beginStopping session).bind fun _ => ?_
  refine (succeeds_transition _ _).bind fun _ => ?_
  exact (succeeds_unregister session).bind fun _ => succeeds_modify _

/-- A session whose server has exited leaves. -/
theorem ledger_farewell
    {session : Session}
    {desk : Desk}
    (numbered : desk.ledger.Numbered)
    (member : session.entry ∈ desk.ledger.entries)
    (code : Json) :
    (after (farewell session code) desk).ledger = desk.ledger.leave session.entry code := by
  unfold farewell
  obtain ⟨_, installed⟩ := succeeds_installTransform plainSnippets desk
  have quiet : (after (installTransform plainSnippets) desk).ledger = desk.ledger :=
    keeps_installTransform plainSnippets desk
  rw [after_bind_of_ok installed]
  generalize after (installTransform plainSnippets) desk = ready at quiet ⊢
  rw [← quiet] at member ⊢
  have readyNumbered : ready.ledger.Numbered := by
    rw [quiet]
    exact numbered
  have emptied := ledger_removeCommands readyNumbered member
  obtain ⟨_, removed⟩ := succeeds_removeCommands session ready
  rw [after_bind_of_ok removed]
  generalize after (removeCommands session) ready = bare at emptied ⊢
  have ungrouped : (after (removeGroup session) bare).ledger = bare.ledger :=
    keeps_removeGroup session bare
  obtain ⟨_, removed⟩ := succeeds_removeGroup session bare
  rw [after_bind_of_ok removed]
  generalize after (removeGroup session) bare = last at ungrouped ⊢
  rw [emptied] at ungrouped
  have current : ∀ entry ∈ last.ledger.entries,
      entry.id = session.id → entry.state = session.state := by
    rw [ungrouped]
    intro entry entryMember sameId
    obtain ⟨old, oldMember, rfl⟩ := List.mem_map.mp entryMember
    by_cases changed : old.id = session.id
    · simp only [changed, ↓reduceIte, LedgerEntry.equipped]
      rw [readyNumbered.eq_of_id_eq oldMember member changed, Session.entry_state]
    · simp [changed] at sameId
  have concluded := ledger_conclude current code
  obtain ⟨_, ended⟩ := succeeds_conclude session code last
  rw [after_bind_of_ok ended]
  generalize after (conclude session code) last = ending at concluded ⊢
  have told : KeepsAt
      (do
        say .info ("Session " ++ toString session.id ++ " exited with code " ++ code.messageText)
        tellAll session.id [code] session.exitListeners) ending :=
    KeepsAt.bind (keeps_say _ _ _) fun _ _ => keeps_tellAll _ _ _ _
  rw [told, concluded, ungrouped]
  have leaving : (ready.ledger.change session.id (·.equipped [])).change session.id
      (·.concluded code) = ready.ledger.change session.id (·.departed code) :=
    Ledger.change_change fun _ => rfl
  have entriesLeaving := congrArg Ledger.entries leaving
  simp only [Ledger.change, Ledger.unlist, Ledger.leave, Session.entry_id] at entriesLeaving ⊢
  rw [entriesLeaving]
  rfl

/-- The report that a server has exited: the session leaves, unless there is none or it has left. -/
theorem ledger_onExit
    {desk : Desk}
    (numbered : desk.ledger.Numbered)
    (id : Nat)
    (code : Json) :
    ((after (onExit id code) desk).ledger = desk.ledger ∧
      ∀ entry ∈ desk.ledger.entries, entry.id = id → entry.state = .stopped) ∨
    ∃ entry ∈ desk.ledger.entries, entry.id = id ∧ entry.state ≠ .stopped ∧
      (after (onExit id code) desk).ledger = desk.ledger.leave entry code := by
  unfold onExit
  rw [after_get_bind]
  cases found : desk.registry.get? id with
  | none =>
      exact .inl ⟨rfl, fun entry member sameId =>
        (entry_id_ne_of_get?_eq_none found member sameId).elim⟩
  | some session =>
      obtain ⟨member, sameId⟩ := entry_of_get? found
      by_cases stopped : session.state = .stopped
      · simp only [stopped, ↓reduceIte]
        refine .inl ⟨keeps_pure () desk, fun entry entryMember entryId => ?_⟩
        rw [numbered.eq_of_id_eq entryMember member (entryId.trans sameId.symm)]
        exact stopped
      · simp only [stopped, ↓reduceIte]
        exact .inr ⟨session.entry, member, sameId, stopped, ledger_farewell numbered member code⟩

end AnalyzerSessions.Act
