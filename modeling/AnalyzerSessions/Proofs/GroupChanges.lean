import AnalyzerSessions.Proofs.SpelledIntegers
import AnalyzerSessions.Proofs.GroupWays

namespace AnalyzerSessions

/-!
# Sessions that get a group and lose it

When the server of a starting session is initialized, the session gets a group on the
host with one auto-command in it, which reloads its workspace when a manifest is saved.
When its server has exited, the group goes with everything in it.  Both reports are
taken apart here into what changes the groups and what leaves them alone.  Either way
the groups on the host stay those of the sessions, with one auto-command for each.
-/

/-- The session whose workspace an action reloads. -/
def Action.reloads? : Action → Option Nat
  | .reload id => some id
  | _ => none

/-- The auto-commands that reload the workspace of a session. -/
def Host.triggers (host : Host Action) (id : Nat) : List (AutoCommand Action) :=
  host.autoCommands.filter fun command => command.action.reloads? == some id

/-- The auto-command that reloads the workspace of a session when a manifest is saved. -/
def reloadTrigger (number : Int) (id : Nat) (group : Int) : AutoCommand Action :=
  ⟨number, "BufWritePost", "*/Cargo.toml", .reload id, group⟩

/-- The configuration has the saving of a manifest reload workspaces. -/
def Desk.ReloadsManifests (desk : Desk) : Prop :=
  ∃ reloads, Config.sectionEntry desk.setup.config "tools" "reload_workspace_from_cargo_toml"
    (.bool true) = .ok reloads ∧ reloads.isTruthy

theorem Desk.ReloadsManifests.readsTools
    {desk : Desk}
    (reloads : desk.ReloadsManifests) :
    desk.ReadsTools :=
  reloads.imp fun _ read => read.1

/-- A session gets a group with its name, and an auto-command in it. -/
structure Desk.GainsGroup (id : Nat) (group number : Int) (before after : Desk) : Prop where
  turns : Relation.ReflTransGen Host.Turn before.host after.host
  groups : after.host.groups = before.host.groups ++ [⟨group, Act.groupName id⟩]
  autoCommands : after.host.autoCommands =
    before.host.autoCommands ++ [reloadTrigger number id group]
  sessions : ∀ other, after.registry.group? other =
    if other = id then some group else before.registry.group? other
  setup : after.setup = before.setup

/-- A session loses its group, which goes with everything in it. -/
structure Desk.LosesGroup (id : Nat) (group : Int) (before after : Desk) : Prop where
  turns : Relation.ReflTransGen Host.Turn before.host after.host
  groups : after.host.groups = before.host.groups.filter fun known => known.id != group
  autoCommands : after.host.autoCommands =
    before.host.autoCommands.filter fun command => command.group != group
  sessions : ∀ other, after.registry.group? other =
    if other = id then none else before.registry.group? other
  setup : after.setup = before.setup

section

variable {id : Nat} {group number : Int} {first before after last : Desk}

/-- What happens before and after does not matter as long as it leaves the groups alone. -/
theorem Desk.GainsGroup.between
    (gains : before.GainsGroup id group number after)
    (earlier : first.KeepsGroups before)
    (later : after.KeepsGroups last) :
    first.GainsGroup id group number last where
  turns := (earlier.host.turns.trans gains.turns).trans later.host.turns
  groups := by rw [later.host.groups, gains.groups, earlier.host.groups]
  autoCommands := by rw [later.host.autoCommands, gains.autoCommands, earlier.host.autoCommands]
  sessions other := by rw [later.sessions other, gains.sessions other, earlier.sessions other]
  setup := by rw [later.setup, gains.setup, earlier.setup]

theorem Desk.LosesGroup.between
    (loses : before.LosesGroup id group after)
    (earlier : first.KeepsGroups before)
    (later : after.KeepsGroups last) :
    first.LosesGroup id group last where
  turns := (earlier.host.turns.trans loses.turns).trans later.host.turns
  groups := by rw [later.host.groups, loses.groups, earlier.host.groups]
  autoCommands := by rw [later.host.autoCommands, loses.autoCommands, earlier.host.autoCommands]
  sessions other := by rw [later.sessions other, loses.sessions other, earlier.sessions other]
  setup := by rw [later.setup, loses.setup, earlier.setup]

end

/-- A session is given another group, or none. -/
theorem Registry.group?_modify
    (registry : Registry)
    {id : Nat}
    (known : (registry.get? id).isSome)
    (group : Option Int)
    (other : Nat) :
    (registry.modify id fun session => { session with group }).group? other =
      if other = id then group else registry.group? other := by
  obtain ⟨session, found⟩ := Option.isSome_iff_exists.mp known
  have changed := registry.get?_modify_any id other
    (show ∀ session : Session, ({ session with group } : Session).id = session.id from fun _ => rfl)
  unfold group?
  rw [changed, Option.bind_map]
  split
  · rename_i same
    subst same
    have isMeant : session.id = other := Registry.id_of_get? found
    rw [found]
    simp [isMeant]
  · rename_i apart
    cases isOther : registry.get? other with
    | none =>
        rfl
    | some current =>
        have isMeant : current.id = other := Registry.id_of_get? isOther
        have notMeant : current.id ≠ id := fun same => apart (isMeant.symm.trans same)
        simp [notMeant]

namespace Act

open Desk (isWay_keepsGroups)

/-! ## The beginning of a session -/

/-- A session gets a group when none has its name. -/
theorem gainsGroup_createReload
    {id : Nat}
    {desk : Desk}
    (known : (desk.registry.get? id).isSome)
    (unnamed : ∀ group, ⟨group, groupName id⟩ ∉ desk.host.groups) :
    desk.GainsGroup id desk.host.nextId (desk.host.nextId + 1) (after (createReload id) desk) := by
  have missing : desk.host.groupNamed? (groupName id) = none := by
    refine List.find?_eq_none.mpr fun group member named => ?_
    have isName : group.name = groupName id := beq_iff_eq.mp named
    exact unnamed group.id (isName ▸ member)
  -- The group takes the next identifier of the host, and the auto-command the one after it.
  have grouping : desk.host.createGroup (groupName id) true = (desk.host.nextId, { desk.host with
      groups := desk.host.groups ++ [⟨desk.host.nextId, groupName id⟩]
      nextId := desk.host.nextId + 1 }) := by
    unfold Host.createGroup
    rw [missing]
  have isThere := hasGroup_createGroup desk.host (groupName id) true
  have byGroup : Host.Turn desk.host (desk.host.createGroup (groupName id) true).2 :=
    .createGroup (groupName id) true
  rw [grouping] at isThere byGroup
  have left : after (createReload id) desk = { desk with
      host := { desk.host with
        groups := desk.host.groups ++ [⟨desk.host.nextId, groupName id⟩]
        autoCommands := desk.host.autoCommands ++
          [reloadTrigger (desk.host.nextId + 1) id desk.host.nextId]
        nextId := desk.host.nextId + 1 + 1 }
      registry := desk.registry.modify id fun session =>
        { session with group := some desk.host.nextId } } := by
    unfold createReload
    rw [after_get_bind]
    dsimp only
    rw [grouping]
    simp only [Host.createAutoCommand, isThere, if_true]
    rfl
  rw [left]
  refine ⟨.tail (.single byGroup) ?_, rfl, rfl, desk.registry.group?_modify known _, rfl⟩
  exact .createAutoCommand (if_pos isThere)

/-- Installing a transform leaves the sessions as they are. -/
theorem get?_installTransform
    (transform : Transform)
    {id : Nat}
    {session : Session}
    {desk : Desk}
    (known : desk.registry.get? id = some session) :
    (after (installTransform transform) desk).registry.get? id = some session := by
  obtain ⟨transforms, log, installed⟩ := after_installTransform transform desk
  rw [installed]
  exact known

/-- A session that offers commands is still there. -/
theorem isSome_get?_equip
    {id : Nat}
    {session : Session}
    {desk : Desk}
    (known : desk.registry.get? id = some session) :
    ((after (equip id) desk).registry.get? id).isSome := by
  have stillKnown : (after (createCommands desk.setup.bindings) desk).registry.get? id =
      some session :=
    known
  exact Option.isSome_of_mem (get?_modifySession
    (fun current => { current with commands := desk.setup.bindings.map CommandBinding.name })
    (fun _ => rfl) stillKnown)

/-- When the server of a starting session is initialized, the session gets a group. -/
theorem gainsGroup_onInit
    {id : Nat}
    {session : Session}
    {desk : Desk}
    (known : desk.registry.get? id = some session)
    (starting : session.state = .starting)
    (reloads : desk.ReloadsManifests)
    (unnamed : ∀ group, ⟨group, groupName id⟩ ∉ desk.host.groups) :
    ∃ group number, desk.GainsGroup id group number (after (onInit id) desk) := by
  obtain rfl : session.id = id := (entry_of_get? known).2
  obtain ⟨_, installs⟩ := succeeds_installTransform plainSnippets desk
  have installed := keepsGroups_installTransform plainSnippets desk
  have begunKnown := get?_installTransform plainSnippets known
  generalize isBegun : after (installTransform plainSnippets) desk = begun at installed begunKnown
  have equips : (perform (equip session.id) begun).1 = .ok () :=
    rfl
  have equipped := isWay_keepsGroups.trans installed (keepsGroups_equip session.id begun)
  have stillKnown := isSome_get?_equip begunKnown
  generalize isReady : after (equip session.id) begun = ready at equipped stillKnown
  have stillReloads : ready.ReloadsManifests := by
    rw [Desk.ReloadsManifests, equipped.setup]
    exact reloads
  have offers : after (offerReload session.id) ready = after (createReload session.id) ready := by
    obtain ⟨entry, read, truthy⟩ := stillReloads
    unfold offerReload
    rw [after_get_bind]
    simp only [read]
    show after (if entry.isTruthy then createReload session.id else pure ()) ready = _
    rw [if_pos truthy]
  have gains : ready.GainsGroup session.id ready.host.nextId (ready.host.nextId + 1)
      (after (offerReload session.id) ready) := by
    rw [offers]
    exact gainsGroup_createReload stillKnown fun group => equipped.host.groups ▸ unnamed group
  have ends : after (onInit session.id) desk =
      after (beginRunning session) (after (offerReload session.id) ready) := by
    unfold onInit
    rw [after_get_bind]
    simp only [known, starting, ↓reduceIte]
    unfold welcome
    rw [after_bind_of_ok installs, isBegun, after_bind_of_ok equips, isReady,
      after_bind_of_ok (perform_offerReload session.id stillReloads.readsTools)]
  rw [ends]
  exact ⟨_, _, gains.between equipped (keepsGroups_beginRunning session _)⟩

/-- At any other report that a server is initialized the groups stay as they are. -/
theorem keepsGroups_onInit
    {id : Nat}
    {desk : Desk}
    (notStarting : ∀ session, desk.registry.get? id = some session → session.state ≠ .starting) :
    desk.KeepsGroups (after (onInit id) desk) := by
  unfold onInit
  rw [after_get_bind]
  cases found : desk.registry.get? id with
  | none =>
      exact isWay_keepsGroups.refl desk
  | some session =>
      simp only [notStarting session found, if_false]
      exact keepsGroups_say _ _ desk

/-! ## The end of a session -/

/-- A session loses its group when it is there. -/
theorem losesGroup_removeGroup
    {session : Session}
    {group : Int}
    {desk : Desk}
    (known : (desk.registry.get? session.id).isSome)
    (grouped : session.group = some group)
    (isThere : desk.host.hasGroup group) :
    desk.LosesGroup session.id group (after (removeGroup session) desk) := by
  have deleted : desk.host.deleteGroup group = .ok { desk.host.clearGroup group with
      groups := desk.host.groups.filter fun known => known.id != group } :=
    if_pos isThere
  have left : after (removeGroup session) desk = { desk with
      host := { desk.host.clearGroup group with
        groups := desk.host.groups.filter fun known => known.id != group }
      registry := desk.registry.modify session.id fun current =>
        { current with group := none } } := by
    unfold removeGroup
    simp only [grouped]
    rw [after_get_bind]
    simp only [deleted]
    rfl
  rw [left]
  exact ⟨.single (.deleteGroup deleted), rfl, rfl, desk.registry.group?_modify known _, rfl⟩

/-- When the server of a session with a group has exited, the session loses its group. -/
theorem losesGroup_onExit
    {id : Nat}
    {session : Session}
    {group : Int}
    {desk : Desk}
    (known : desk.registry.get? id = some session)
    (present : session.state ≠ .stopped)
    (grouped : session.group = some group)
    (isThere : desk.host.hasGroup group)
    (code : Json) :
    desk.LosesGroup id group (after (onExit id code) desk) := by
  obtain rfl : session.id = id := (entry_of_get? known).2
  obtain ⟨_, installs⟩ := succeeds_installTransform plainSnippets desk
  have installed := keepsGroups_installTransform plainSnippets desk
  have begunKnown := get?_installTransform plainSnippets known
  generalize isBegun : after (installTransform plainSnippets) desk = begun at installed begunKnown
  obtain ⟨_, removes⟩ := succeeds_removeCommands session begun
  have removed := isWay_keepsGroups.trans installed (keepsGroups_removeCommands session begun)
  have stillKnown := get?_removeCommands begunKnown
  generalize isReady : after (removeCommands session) begun = ready at removed stillKnown
  obtain ⟨_, ungroups⟩ := succeeds_removeGroup session ready
  have stillThere : ready.host.hasGroup group := by
    rw [Host.hasGroup, removed.host.groups]
    exact isThere
  have loses := losesGroup_removeGroup (Option.isSome_of_mem stillKnown) grouped stillThere
  have ends : KeepsTo Desk.KeepsGroups (do
      conclude session code
      say .info ("Session " ++ toString session.id ++ " exited with code " ++ code.messageText)
      tellAll session.id [code] session.exitListeners) :=
    (keepsGroups_conclude session code).bind isWay_keepsGroups fun _ =>
      (keepsGroups_say _ _).bind isWay_keepsGroups fun _ => keepsGroups_tellAll _ _ _
  have left : after (onExit session.id code) desk = after (do
      conclude session code
      say .info ("Session " ++ toString session.id ++ " exited with code " ++ code.messageText)
      tellAll session.id [code] session.exitListeners) (after (removeGroup session) ready) := by
    unfold onExit
    rw [after_get_bind]
    simp only [known, present, ↓reduceIte]
    unfold farewell
    rw [after_bind_of_ok installs, isBegun, after_bind_of_ok removes, isReady,
      after_bind_of_ok ungroups]
  rw [left]
  exact loses.between removed (ends _)

/-- When the server of a session without a group has exited, the groups stay as they are. -/
theorem keepsGroups_onExit
    {id : Nat}
    {desk : Desk}
    (ungrouped : desk.registry.group? id = none)
    (code : Json) :
    desk.KeepsGroups (after (onExit id code) desk) := by
  unfold onExit
  rw [after_get_bind]
  cases found : desk.registry.get? id with
  | none =>
      exact isWay_keepsGroups.refl desk
  | some session =>
      have none : session.group = none := by
        simpa [Registry.group?, found] using ungrouped
      have leaves : KeepsTo Desk.KeepsGroups (farewell session code) := by
        unfold farewell removeGroup
        simp only [none]
        exact (keepsGroups_installTransform _).bind isWay_keepsGroups fun _ =>
          (keepsGroups_removeCommands session).bind isWay_keepsGroups fun _ =>
            (keepsTo_pure isWay_keepsGroups ()).bind isWay_keepsGroups fun _ =>
              (keepsGroups_conclude session code).bind isWay_keepsGroups fun _ =>
                (keepsGroups_say _ _).bind isWay_keepsGroups fun _ => keepsGroups_tellAll _ _ _
      dsimp only
      split
      · exact isWay_keepsGroups.refl desk
      · exact leaves desk

end Act

open Act (groupName)

/-! ## Hosts with the triggers of sessions -/

/-- Different sessions have groups of different names. -/
theorem Act.groupName_inj
    {first second : Nat} :
    groupName first = groupName second ↔ first = second := by
  refine ⟨fun same => ?_, fun same => same ▸ rfl⟩
  have digits : Nat.toDigits 10 first = Nat.toDigits 10 second := by
    simpa [groupName] using congrArg String.toList same
  rw [← decimalValue_toDigits first, digits, decimalValue_toDigits]

/-- Two groups of a sound host with one identifier are one group. -/
theorem Host.IsSound.eq_of_group
    {host : Host Action}
    {first second : AutoGroup}
    (sound : host.IsSound)
    (isFirst : first ∈ host.groups)
    (isSecond : second ∈ host.groups)
    (sameId : first.id = second.id) :
    first = second := by
  have sublist : (host.groups.map fun group => Host.Item.group group.id).Sublist host.items :=
    (List.sublist_append_left _ _).trans (List.sublist_append_left _ _)
  have distinct := sound.identified.distinct.sublist (sublist.map Host.Item.number)
  rw [List.map_map] at distinct
  exact List.inj_on_of_nodup_map distinct isFirst isSecond sameId

/-- The groups with the names of sessions are the groups that the sessions have, and each session
with a group has one auto-command, in that group. -/
structure Desk.HoldsTriggers (desk : Desk) : Prop where
  sound : desk.host.IsSound
  reloads : desk.ReloadsManifests
  groups : ∀ id group, ⟨group, groupName id⟩ ∈ desk.host.groups ↔
    desk.registry.group? id = some group
  triggered : ∀ id group, desk.registry.group? id = some group →
    ∃ number, desk.host.triggers id = [reloadTrigger number id group]
  untriggered : ∀ id, desk.registry.group? id = none → desk.host.triggers id = []

/-- The groups of sessions and their auto-commands stay as they are; whatever else is done to the
host is what may be done to a host. -/
structure Desk.SparesTriggers (before after : Desk) : Prop where
  turns : Relation.ReflTransGen Host.Turn before.host after.host
  groups : ∀ id group, ⟨group, groupName id⟩ ∈ after.host.groups ↔
    ⟨group, groupName id⟩ ∈ before.host.groups
  triggers : ∀ id, after.host.triggers id = before.host.triggers id
  sessions : before.registry.SharesGroups after.registry
  setup : after.setup = before.setup

section

variable {before after : Desk} {id : Nat} {group number : Int}

theorem Desk.KeepsGroups.spares
    (keeps : before.KeepsGroups after) :
    before.SparesTriggers after where
  turns := keeps.host.turns
  groups _ _ := by rw [keeps.host.groups]
  triggers _ := by rw [Host.triggers, keeps.host.autoCommands, Host.triggers]
  sessions := keeps.sessions
  setup := keeps.setup

/-- Two sessions with one group are one session. -/
theorem Desk.HoldsTriggers.eq_of_group
    (holds : before.HoldsTriggers)
    {first second : Nat}
    (isFirst : before.registry.group? first = some group)
    (isSecond : before.registry.group? second = some group) :
    first = second := by
  have same := holds.sound.eq_of_group ((holds.groups first group).mpr isFirst)
    ((holds.groups second group).mpr isSecond) rfl
  exact Act.groupName_inj.mp (congrArg AutoGroup.name same)

theorem Desk.HoldsTriggers.spared
    (holds : before.HoldsTriggers)
    (spares : before.SparesTriggers after) :
    after.HoldsTriggers where
  sound := (holds.sound.turns spares.turns).1
  reloads := by
    rw [Desk.ReloadsManifests, spares.setup]
    exact holds.reloads
  groups id group := by rw [spares.groups, holds.groups, spares.sessions]
  triggered id group grouped := by
    rw [spares.sessions] at grouped
    rw [spares.triggers]
    exact holds.triggered id group grouped
  untriggered id ungrouped := by
    rw [spares.sessions] at ungrouped
    rw [spares.triggers]
    exact holds.untriggered id ungrouped

theorem Desk.HoldsTriggers.gained
    (holds : before.HoldsTriggers)
    (ungrouped : before.registry.group? id = none)
    (gains : before.GainsGroup id group number after) :
    after.HoldsTriggers := by
  have split : ∀ other, after.host.triggers other = before.host.triggers other ++
      if other = id then [reloadTrigger number id group] else [] := by
    intro other
    rw [Host.triggers, gains.autoCommands, List.filter_append, List.filter_singleton]
    congr 1
    by_cases same : other = id
    · simp [reloadTrigger, Action.reloads?, same]
    · have differs : (some id == some other) = false := by
        simpa using Ne.symm same
      simp only [reloadTrigger, Action.reloads?, differs, cond_false, if_neg same]
  refine ⟨(holds.sound.turns gains.turns).1, ?_, fun other known => ?_, fun other known grouped => ?_,
    fun other none => ?_⟩
  · rw [Desk.ReloadsManifests, gains.setup]
    exact holds.reloads
  · rw [gains.groups, gains.sessions, List.mem_append, List.mem_singleton, holds.groups,
      AutoGroup.mk.injEq, Act.groupName_inj]
    by_cases same : other = id
    · simp [same, ungrouped, eq_comm]
    · simp [same]
  · rw [gains.sessions] at grouped
    rw [split]
    by_cases same : other = id
    · subst same
      simp only [if_true, Option.some.injEq] at grouped ⊢
      rw [holds.untriggered other ungrouped, grouped]
      exact ⟨number, rfl⟩
    · simp only [same, if_false, List.append_nil] at grouped ⊢
      exact holds.triggered other known grouped
  · rw [gains.sessions] at none
    rw [split]
    by_cases same : other = id
    · simp [same] at none
    · simp only [same, if_false, List.append_nil] at none ⊢
      exact holds.untriggered other none

theorem Desk.HoldsTriggers.lost
    (holds : before.HoldsTriggers)
    (grouped : before.registry.group? id = some group)
    (loses : before.LosesGroup id group after) :
    after.HoldsTriggers := by
  have fewer : ∀ other, after.host.triggers other =
      (before.host.triggers other).filter fun command => command.group != group := by
    intro other
    rw [Host.triggers, loses.autoCommands, Host.triggers, List.filter_filter, List.filter_filter]
    simp only [Bool.and_comm]
  have apart : ∀ other known, other ≠ id → before.registry.group? other = some known →
      known ≠ group := by
    rintro other known apart isKnown rfl
    exact apart (holds.eq_of_group isKnown grouped)
  refine ⟨(holds.sound.turns loses.turns).1, ?_, fun other known => ?_, fun other known has => ?_,
    fun other none => ?_⟩
  · rw [Desk.ReloadsManifests, loses.setup]
    exact holds.reloads
  · rw [loses.groups, loses.sessions, List.mem_filter, holds.groups]
    by_cases same : other = id
    · subst same
      rw [grouped, Option.some.injEq, if_pos rfl]
      simp only [bne_iff_ne, reduceCtorEq, iff_false, not_and, not_not]
      exact Eq.symm
    · simp only [same, if_false, bne_iff_ne, and_iff_left_iff_imp]
      exact apart other known same
  · rw [loses.sessions] at has
    by_cases same : other = id
    · simp [same] at has
    · simp only [same, if_false] at has
      obtain ⟨number, triggers⟩ := holds.triggered other known has
      refine ⟨number, ?_⟩
      rw [fewer, triggers]
      have kept := apart other known same has
      simp [reloadTrigger, kept]
  · rw [loses.sessions] at none
    rw [fewer]
    by_cases same : other = id
    · subst same
      obtain ⟨number, triggers⟩ := holds.triggered other group grouped
      simp [triggers, reloadTrigger]
    · simp only [same, if_false] at none
      rw [holds.untriggered other none]
      rfl

end

end AnalyzerSessions
