import AnalyzerSessions.Proofs.ArmedSessions

namespace AnalyzerSessions

/-!
# Armed desks

Every running session has one auto-command on the host, which reloads its workspace when a
manifest is saved, and the leaf that this takes is there.  Whatever is done at a desk leaves
it so: the beginning of a session gives it its auto-command, and its end takes it away.
-/

/-- A desk whose sessions have the triggers that they need, and the built-in leaf to go with
them. -/
structure Desk.IsArmed (desk : Desk) : Prop extends desk.HoldsTriggers where
  armed : desk.registry.IsArmed
  builtIn : findLeaf? desk.setup.actions reloadLeaf = some .reloadWorkspace

/-! ## Reports -/

/-- At most one session changes, and a part of it stays as it is. -/
structure Desk.ChangesOne {α : Type} (id : Nat) (part : Session → Option α) (before after : Desk) :
    Prop where
  others : ∀ other, other ≠ id → after.registry.get? other = before.registry.get? other
  part : (after.registry.get? id).bind part = (before.registry.get? id).bind part

section

variable {α : Type} {id : Nat} {part : Session → Option α}

theorem Desk.isWay_changesOne : Desk.IsWay (Desk.ChangesOne id part) where
  refl _ := ⟨fun _ _ => rfl, rfl⟩
  trans first second :=
    ⟨fun other different => (second.others other different).trans (first.others other different),
      second.part.trans first.part⟩

theorem Desk.changesOne_of_registry
    {before after : Desk}
    (registry : after.registry = before.registry) :
    before.ChangesOne id part after :=
  ⟨fun _ _ => by rw [registry], by rw [registry]⟩

namespace Act

open Desk (isWay_changesOne changesOne_of_registry)

theorem changesOne_modifySession
    {change : Session → Session}
    (sameId : ∀ session, (change session).id = session.id)
    (samePart : ∀ session, part (change session) = part session) :
    KeepsTo (Desk.ChangesOne id part) (modifySession id change) := by
  refine fun desk => ⟨fun other different => get?_modifySession_of_ne sameId different desk, ?_⟩
  have changed := desk.registry.get?_modify_any id id sameId
  refine (congrArg (Option.bind · part) changed).trans ?_
  rw [Option.bind_map]
  congr 1
  funext session
  simp only [Function.comp_apply]
  split
  · exact samePart session
  · rfl

theorem changesOne_note (record : Record) : KeepsTo (Desk.ChangesOne id part) (note record) :=
  fun _ => changesOne_of_registry rfl

theorem changesOne_setHost (host : Host Action) :
    KeepsTo (Desk.ChangesOne id part) (setHost host) :=
  fun _ => changesOne_of_registry rfl

theorem changesOne_transition
    (state : SessionState)
    (samePart : ∀ session, part (session.transition state).1 = part session) :
    KeepsTo (Desk.ChangesOne id part) (transition id state) := by
  refine keepsTo_look fun desk => ?_
  split
  · exact keepsTo_pure isWay_changesOne ()
  · exact (changesOne_note _).bind isWay_changesOne fun _ =>
      changesOne_modifySession (fun _ => rfl) samePart

theorem changesOne_installTransform (transform : Transform) :
    KeepsTo (Desk.ChangesOne id part) (installTransform transform) := by
  intro desk
  obtain ⟨transforms, log, installed⟩ := after_installTransform transform desk
  exact changesOne_of_registry (by rw [installed])

theorem changesOne_tellAll
    (told : Nat)
    (more : List Json)
    (listeners : List Listener) :
    KeepsTo (Desk.ChangesOne id part) (tellAll told more listeners) := by
  intro desk
  have same := (perform_tellAll told more listeners desk).2.1
  rw [Desk.SameButRecords] at same
  exact changesOne_of_registry (by rw [same])

/-- A session whose server is initialized stays connected as it is. -/
theorem changesOne_onInit (id : Nat) :
    KeepsTo (Desk.ChangesOne id Session.client) (onInit id) := by
  have created : KeepsTo (Desk.ChangesOne id Session.client) (createReload id) := by
    refine keepsTo_look fun desk => ?_
    rcases desk.host.createGroup (groupName id) true with ⟨group, grouped⟩
    refine (changesOne_setHost grouped).bind isWay_changesOne fun _ => ?_
    refine (keepsTo_ofExcept isWay_changesOne _ _).bind isWay_changesOne fun made => ?_
    exact (changesOne_setHost _).bind isWay_changesOne fun _ =>
      changesOne_modifySession (fun _ => rfl) fun _ => rfl
  have offered : KeepsTo (Desk.ChangesOne id Session.client) (offerReload id) := by
    refine keepsTo_look fun desk => ?_
    refine (keepsTo_ofExcept isWay_changesOne _ _).bind isWay_changesOne fun reloads => ?_
    split
    · exact created
    · exact keepsTo_pure isWay_changesOne ()
  have equipped : KeepsTo (Desk.ChangesOne id Session.client) (equip id) :=
    keepsTo_look fun _ => KeepsTo.bind isWay_changesOne (fun _ => changesOne_of_registry rfl)
      fun _ => changesOne_modifySession (fun _ => rfl) fun _ => rfl
  refine keepsTo_look fun desk => ?_
  split
  · exact keepsTo_pure isWay_changesOne ()
  · rename_i session found
    obtain rfl : session.id = id := (entry_of_get? found).2
    split
    · refine (changesOne_installTransform _).bind isWay_changesOne fun _ => ?_
      refine equipped.bind isWay_changesOne fun _ => offered.bind isWay_changesOne fun _ => ?_
      refine (changesOne_transition _ fun _ => rfl).bind isWay_changesOne fun _ => ?_
      refine (changesOne_transition _ fun _ => rfl).bind isWay_changesOne fun _ => ?_
      exact keepsTo_look fun _ => (changesOne_note _).bind isWay_changesOne fun _ =>
        changesOne_tellAll _ _ _
    · exact changesOne_note _

/-- Nothing is kept of a session whose server has exited, and the others stay as they are. -/
theorem changesOne_onExit
    (id : Nat)
    (code : Json) :
    KeepsTo (Desk.ChangesOne id fun _ => (none : Option Unit)) (onExit id code) := by
  have withdrawn : ∀ session : Session,
      KeepsTo (Desk.ChangesOne id fun _ => (none : Option Unit)) (withdrawCommands session) := by
    refine fun session => keepsTo_look fun desk => ?_
    dsimp only
    split
    · exact fun _ => changesOne_of_registry rfl
    · exact changesOne_note _
  have unregistered : ∀ session : Session,
      KeepsTo (Desk.ChangesOne id fun _ => (none : Option Unit)) (unregister session) := by
    intro session
    refine keepsTo_get fun desk => ?_
    dsimp only
    rw [after_modify_bind]
    refine isWay_changesOne.trans
      (⟨fun _ _ => rfl, rfl⟩ : desk.ChangesOne id _ { desk with
        registry := desk.registry.unregister session.id }) ?_
    split
    · exact changesOne_note _ _
    · exact isWay_changesOne.refl _
  refine keepsTo_look fun desk => ?_
  split
  · exact keepsTo_pure isWay_changesOne ()
  · rename_i session found
    obtain rfl : session.id = id := (entry_of_get? found).2
    have changed : ∀ {change : Session → Session}, (∀ current, (change current).id = current.id) →
        KeepsTo (Desk.ChangesOne session.id fun _ => (none : Option Unit))
          (modifySession session.id change) :=
      fun sameId => changesOne_modifySession sameId fun _ => rfl
    have ungrouped : KeepsTo (Desk.ChangesOne session.id fun _ => (none : Option Unit))
        (removeGroup session) := by
      unfold removeGroup
      split
      · exact keepsTo_pure isWay_changesOne ()
      · refine keepsTo_look fun desk => ?_
        split
        · exact (changesOne_setHost _).bind isWay_changesOne fun _ => changed fun _ => rfl
        · exact (changesOne_note _).bind isWay_changesOne fun _ => changed fun _ => rfl
    have uncommanded : KeepsTo (Desk.ChangesOne session.id fun _ => (none : Option Unit))
        (removeCommands session) := by
      unfold removeCommands
      split
      · exact (withdrawn session).bind isWay_changesOne fun _ => changed fun _ => rfl
      · exact keepsTo_pure isWay_changesOne ()
    have stopping : KeepsTo (Desk.ChangesOne session.id fun _ => (none : Option Unit))
        (beginStopping session) := by
      unfold beginStopping
      split
      · exact changesOne_transition _ fun _ => rfl
      · exact keepsTo_pure isWay_changesOne ()
    have concluded : KeepsTo (Desk.ChangesOne session.id fun _ => (none : Option Unit))
        (conclude session code) :=
      KeepsTo.bind isWay_changesOne (changed fun _ => rfl) fun _ =>
        stopping.bind isWay_changesOne fun _ =>
          (changesOne_transition _ fun _ => rfl).bind isWay_changesOne fun _ =>
            (unregistered session).bind isWay_changesOne fun _ => changed fun _ => rfl
    split
    · exact keepsTo_pure isWay_changesOne ()
    · refine (changesOne_installTransform _).bind isWay_changesOne fun _ => ?_
      refine uncommanded.bind isWay_changesOne fun _ => ungrouped.bind isWay_changesOne fun _ => ?_
      exact concluded.bind isWay_changesOne fun _ =>
        (changesOne_note _).bind isWay_changesOne fun _ => changesOne_tellAll _ _ _

/-- A session whose server has exited is stopped. -/
theorem stopped_of_onExit
    {desk : Desk}
    (numbered : desk.ledger.Numbered)
    {id : Nat}
    {code : Json}
    {now : Session}
    (found : (after (onExit id code) desk).registry.get? id = some now) :
    now.state = .stopped := by
  obtain ⟨member, isId⟩ := entry_of_get? found
  obtain ⟨kept, stopped⟩ | ⟨entry, _, sameId, _, leaves⟩ := ledger_onExit numbered id code
  · rw [kept] at member
    exact stopped now.entry member isId
  · rw [leaves] at member
    obtain ⟨old, _, isEntry⟩ := List.mem_map.mp member
    have isOld : old.id = entry.id := by
      have sameNow := congrArg LedgerEntry.id isEntry
      split at sameNow
      · assumption
      · exact sameNow.trans (isId.trans sameId.symm)
    rw [if_pos isOld] at isEntry
    exact (congrArg LedgerEntry.state isEntry).symm

end Act

end

namespace Desk

variable {before after : Desk}

/-- All sessions stay armed when at most one of them changes and that one is armed again. -/
theorem ChangesOne.armed
    {α : Type}
    {id : Nat}
    {part : Session → Option α}
    (changes : before.ChangesOne id part after)
    (armed : before.registry.IsArmed)
    (isArmed : ∀ session, after.registry.get? id = some session → session.IsArmed) :
    after.registry.IsArmed := by
  intro other session found
  by_cases same : other = id
  · exact isArmed session (same ▸ found)
  · rw [changes.others other same] at found
    exact armed other session found

theorem group?_of_get?
    {desk : Desk}
    {id : Nat}
    {session : Session}
    (known : desk.registry.get? id = some session) :
    desk.registry.group? id = session.group := by
  rw [Registry.group?, known]
  rfl

/-- The triggers and the configuration of an armed desk are still there when the groups are kept. -/
theorem IsArmed.kept
    (isArmed : before.IsArmed)
    (kept : before.KeepsGroups after)
    (armed : after.registry.IsArmed) :
    after.IsArmed :=
  ⟨isArmed.toHoldsTriggers.spared kept.spares, armed, kept.setup ▸ isArmed.builtIn⟩

/-- The end of a session leaves a desk armed. -/
theorem IsArmed.onExit
    (isArmed : before.IsArmed)
    (numbered : before.ledger.Numbered)
    (id : Nat)
    (code : Json) :
    (Act.after (Act.onExit id code) before).IsArmed := by
  have changes := Act.changesOne_onExit id code before
  by_cases isOver : ∀ session, before.registry.get? id = some session → session.state = .stopped
  · -- Nothing is done about a session that is over, or about one that is not known.
    have same : Act.after (Act.onExit id code) before = before := by
      cases found : before.registry.get? id with
      | none =>
          unfold Act.onExit
          rw [Act.after_get_bind]
          simp only [found]
          rfl
      | some session =>
          exact Act.after_onExit_of_stopped found (isOver session found) code
    rwa [same]
  · push Not at isOver
    obtain ⟨session, found, present⟩ := isOver
    have halted : ∀ now, (Act.after (Act.onExit id code) before).registry.get? id = some now →
        now.IsArmed := by
      intro now isNow
      have stopped := Act.stopped_of_onExit numbered isNow
      exact Session.isArmed_of_halted (by rw [stopped]; nofun) (by rw [stopped]; nofun)
    have armed := changes.armed isArmed.armed halted
    cases grouped : before.registry.group? id with
    | none =>
        exact isArmed.kept (Act.keepsGroups_onExit grouped code) armed
    | some group =>
        have isThere : before.host.hasGroup group :=
          List.any_eq_true.mpr ⟨_, (isArmed.groups id group).mpr grouped, beq_self_eq_true group⟩
        have loses := Act.losesGroup_onExit found present
          ((group?_of_get? found).symm.trans grouped) isThere code
        exact ⟨isArmed.toHoldsTriggers.lost grouped loses, armed, loses.setup ▸ isArmed.builtIn⟩

/-- The beginning of a session that is connected with its client leaves a desk armed. -/
theorem IsArmed.onInit
    {id : Nat}
    (isArmed : before.IsArmed)
    (connected : ∀ session, before.registry.get? id = some session →
      session.client = some .client) :
    (Act.after (Act.onInit id) before).IsArmed := by
  have changes := Act.changesOne_onInit id before
  by_cases starts : ∃ session, before.registry.get? id = some session ∧ session.state = .starting
  · obtain ⟨session, found, starting⟩ := starts
    have ungrouped : before.registry.group? id = none :=
      (group?_of_get? found).trans ((isArmed.armed id session found).starting starting)
    obtain ⟨group, number, gains⟩ := Act.gainsGroup_onInit found starting isArmed.reloads
      fun group member => by
        rw [isArmed.groups, ungrouped] at member
        cases member
    refine ⟨isArmed.toHoldsTriggers.gained ungrouped gains, changes.armed isArmed.armed ?_,
      gains.setup ▸ isArmed.builtIn⟩
    intro now isNow
    obtain ⟨moment, tells, ⟨running, present, runs⟩, _⟩ :=
      Act.onInit_callsAll found starting isArmed.reloads.readsTools
    have isRunning : now = running := by
      rw [tells.same] at isNow
      exact Option.some.inj (isNow.symm.trans present)
    have isGrouped := gains.sessions id
    have sameClient := changes.part
    rw [if_pos rfl, group?_of_get? isNow] at isGrouped
    rw [isNow, found] at sameClient
    have nowRuns : now.state = .running := isRunning ▸ runs
    refine ⟨fun starts => ?_, fun _ => ?_⟩
    · cases starts.symm.trans nowRuns
    · exact ⟨Option.isSome_of_mem isGrouped, sameClient.trans (connected session found)⟩
  · push Not at starts
    have kept := Act.keepsGroups_onInit starts
    have same : (Act.after (Act.onInit id) before).registry = before.registry := by
      unfold Act.onInit
      rw [Act.after_get_bind]
      cases found : before.registry.get? id with
      | none =>
          rfl
      | some session =>
          simp only [if_neg (starts session found)]
          rfl
    exact isArmed.kept kept (same ▸ isArmed.armed)

/-- A session that is connected with its client and begins leaves a desk armed. -/
theorem IsArmed.welcomed
    (isArmed : before.IsArmed)
    (numbered : before.ledger.Numbered)
    (id : Nat) :
    (before.welcomed id).IsArmed := by
  have stays : Act.KeepsTo StaysArmed (Act.modifySession id fun current =>
      { current with client := some .client }) := by
    refine Act.staysArmed_modifySession id (fun _ => rfl) fun session armed => ?_
    exact ⟨armed.starting, fun runs => ⟨(armed.running runs).1, rfl⟩⟩
  have kept : Act.KeepsTo KeepsGroups (Act.modifySession id fun current =>
      { current with client := some .client }) := by
    refine Act.KeepsAspect.keepsGroups (Act.keepsAspect_modifySession _ id ?_ ?_)
    · exact fun _ => rfl
    · exact fun _ => rfl
  refine IsArmed.onInit (isArmed.kept (kept before)
    ((stays before).armed (Act.isCounted_of_numbered numbered) isArmed.armed)) ?_
  intro session found
  have changed := before.registry.get?_modify_any id id
    (show ∀ session : Session, ({ session with client := some .client } : Session).id = session.id
      from fun _ => rfl)
  obtain ⟨old, wasThere, isSession⟩ := Option.map_eq_some_iff.mp (changed.symm.trans found)
  rw [if_pos (Act.entry_of_get? wasThere).2] at isSession
  exact isSession ▸ rfl

/-- Whatever is done at a desk leaves it armed. -/
theorem Deed.armed
    (deed : before.Deed after)
    (isArmed : before.IsArmed)
    (numbered : before.ledger.Numbered) :
    after.IsArmed := by
  have counted := Act.isCounted_of_numbered numbered
  cases deed with
  | leaves leaves =>
      exact isArmed.kept leaves.keepsGroups (leaves.registry ▸ isArmed.armed)
  | revise id same =>
      refine isArmed.kept (Act.KeepsAspect.keepsGroups (Act.keepsAspect_modifySession _ id ?_ ?_) _)
        ((Act.staysArmed_revise id same before).armed counted isArmed.armed)
      · intro session
        have kept := congrArg Session.id (same session)
        exact kept
      · intro session
        have kept := congrArg Session.group (same session)
        exact kept
  | start overrides buffer =>
      exact isArmed.kept (Act.keepsGroups_startWith Act.keepsGroups_resolveRoot overrides buffer _)
        ((Act.staysArmed_start overrides buffer before).armed counted isArmed.armed)
  | stop buffer =>
      exact isArmed.kept (Act.keepsGroups_stop buffer _)
        ((Act.staysArmed_stop buffer before).armed counted isArmed.armed)
  | part id code =>
      exact isArmed.onExit numbered id code

end Desk

/-- What is done when a status is noted: the session is changed, and the log is written. -/
theorem Act.keepsTo_noteStatus
    {way : Desk → Desk → Prop}
    (isWay : Desk.IsWay way)
    (owner : Session)
    (params : Json)
    (logs : ∀ level text, KeepsTo way (say level text))
    (notes : ∀ status : ServerStatus, KeepsTo way (modifySession owner.id fun current =>
      { current with status := some status })) :
    KeepsTo way (noteStatus owner params) := by
  unfold noteStatus
  split
  · exact logs _ _
  · rename_i status _
    have noted : KeepsTo way
        (if (status.quiescent && !(owner.status.map ServerStatus.quiescent).getD false) = true then
          say .info ("Session " ++ toString owner.id ++ " is quiescent (health=" ++
            status.health.name ++ ")")
        else pure ()) := by
      split
      · exact logs _ _
      · exact keepsTo_pure isWay ()
    refine (notes _).bind isWay fun _ => ?_
    dsimp only
    split
    · exact (logs _ _).bind isWay fun _ => noted
    · exact (logs _ _).bind isWay fun _ => noted
    · exact noted

theorem Desk.IsArmed.noteStatus
    {desk : Desk}
    (isArmed : desk.IsArmed)
    (numbered : desk.ledger.Numbered)
    (owner : Session)
    (params : Json) :
    (Act.after (Act.noteStatus owner params) desk).IsArmed := by
  have kept := Act.keepsTo_noteStatus isWay_keepsGroups owner params Act.keepsGroups_say
    fun status => Act.KeepsAspect.keepsGroups (Act.keepsAspect_modifySession _ owner.id
      (fun _ => rfl)
      (fun _ => rfl : ∀ session : Session, _ = session.group))
  have stays := Act.keepsTo_noteStatus isWay_staysArmed owner params
    (fun level text => (Act.leavesSessions_say level text).staysArmed)
    fun status => Act.staysArmed_modifySession owner.id (fun _ => rfl)
      fun session armed => armed.of_same rfl rfl rfl
  exact isArmed.kept (kept desk)
    ((stays desk).armed (Act.isCounted_of_numbered numbered) isArmed.armed)

end AnalyzerSessions
