import AnalyzerSessions.Proofs.GroupChanges
import AnalyzerSessions.Proofs.LifecycleListeners

namespace AnalyzerSessions

open Act (groupName)

/-!
# Triggers of sessions

Each session that runs has a group on the host with one auto-command in it, which
reloads its workspace.  Over a run of a manager the groups with the names of sessions
and the auto-commands bound to sessions are those of the sessions that were initialized
and have not exited: what a report does to them is undone by another one, and nothing
else of what a manager does touches them.  What others have put on the host stays as it
is; they in turn are supposed to leave the groups of sessions alone.
-/

/-! ## What a call does -/

/-- A session was initialized at a visit, and no visit reported its exit. -/
def Visit.UnderWay (visits : List Visit) (id : Nat) : Prop :=
  (∃ visit ∈ visits, visit.Greets id) ∧ ∀ visit ∈ visits, ∀ code, visit.call ≠ .exited id code

/-- The sessions with a group are those that are under way. -/
def Desk.GroupsFollow (visits : List Visit) (desk : Desk) : Prop :=
  ∀ id, (desk.registry.group? id).isSome ↔ Visit.UnderWay visits id

section

variable {visits : List Visit} {visit : Visit} {id : Nat}

/-- A visit of another kind or for another session does not matter. -/
theorem Visit.underWay_concat
    (notGreeted : ¬visit.Greets id)
    (notExited : ∀ code, visit.call ≠ .exited id code) :
    UnderWay (visits ++ [visit]) id ↔ UnderWay visits id := by
  unfold UnderWay
  constructor
  · rintro ⟨⟨earlier, member, greets⟩, unexited⟩
    refine ⟨⟨earlier, ?_, greets⟩, fun other known => unexited other (List.mem_append_left _ known)⟩
    rcases List.mem_append.mp member with old | isNew
    · exact old
    · obtain rfl := List.mem_singleton.mp isNew
      exact (notGreeted greets).elim
  · rintro ⟨⟨earlier, member, greets⟩, unexited⟩
    refine ⟨⟨earlier, List.mem_append_left _ member, greets⟩, fun other known => ?_⟩
    rcases List.mem_append.mp known with old | isNew
    · exact unexited other old
    · obtain rfl := List.mem_singleton.mp isNew
      exact notExited

theorem Visit.not_underWay_of_exited
    {code : Json}
    (exits : visit.call = .exited id code) :
    ¬UnderWay (visits ++ [visit]) id :=
  fun underWay => underWay.2 visit (List.mem_append_right _ (List.mem_singleton_self _)) code exits

theorem Visit.Greets.underWay
    (greets : visit.Greets id)
    (unexited : ∀ earlier ∈ visits, ∀ code, earlier.call ≠ .exited id code) :
    UnderWay (visits ++ [visit]) id := by
  refine ⟨⟨visit, List.mem_append_right _ (List.mem_singleton_self _), greets⟩, fun other known => ?_⟩
  rcases List.mem_append.mp known with old | isNew
  · exact unexited other old
  · obtain rfl := List.mem_singleton.mp isNew
    intro code exits
    cases greets.reports.symm.trans exits

end

/-- A call leaves the groups alone, or one session gets a group, or one session loses its group. -/
inductive Visit.Regroups (around : Surroundings) (visit : Visit) : Prop where
  | keeps
      (kept : visit.desk.KeepsGroups (visit.after around))
      (greets : ∀ id, ¬visit.Greets id)
      (exits : ∀ id code, visit.call = .exited id code → visit.desk.registry.group? id = none) :
      Regroups around visit
  | gains
      {id : Nat}
      {group number : Int}
      (greets : visit.Greets id)
      (ungrouped : visit.desk.registry.group? id = none)
      (gained : visit.desk.GainsGroup id group number (visit.after around)) :
      Regroups around visit
  | loses
      {id : Nat}
      {group : Int}
      {code : Json}
      (exits : visit.call = .exited id code)
      (grouped : visit.desk.registry.group? id = some group)
      (lost : visit.desk.LosesGroup id group (visit.after around)) :
      Regroups around visit

/-- Finding a root and what happens between two calls leave the groups of sessions alone. -/
structure Surroundings.SparesTriggers (around : Surroundings) : Prop where
  resolves : ∀ path, Act.KeepsTo Desk.KeepsGroups (around.resolve path)
  outside : ∀ before after, around.outside before after → before.SparesTriggers after

section

variable {around : Surroundings} {initial desk : Desk} {visits : List Visit}

theorem VisitedRun.regroups
    (new : initial.IsNew)
    (spares : around.SparesTriggers)
    (run : VisitedRun around initial visits desk)
    (holds : desk.HoldsTriggers)
    (follows : desk.GroupsFollow visits)
    (call : Call)
    (possible : call.IsPossible desk) :
    Visit.Regroups around ⟨desk, call⟩ := by
  cases call with
  | start overrides buffer =>
      refine .keeps (Act.keepsGroups_startWith spares.resolves overrides buffer desk) ?_ ?_
      · exact fun id greets => by cases greets.reports
      · exact fun id code exits => by cases exits
  | stop buffer =>
      refine .keeps (Act.keepsGroups_stop buffer desk) ?_ ?_
      · exact fun id greets => by cases greets.reports
      · exact fun id code exits => by cases exits
  | initialized id =>
      obtain ⟨session, known⟩ := run.managerRun.session_of_launched new possible
      by_cases starting : session.state = .starting
      · have greets : Visit.Greets ⟨desk, .initialized id⟩ id :=
          ⟨rfl, ⟨session, known, starting⟩, holds.reloads.readsTools⟩
        -- A session with a group was greeted before, and that happens only once.
        have ungrouped : desk.registry.group? id = none := by
          rw [← Option.not_isSome_iff_eq_none]
          intro grouped
          obtain ⟨earlier, member, greeted⟩ := ((follows id).mp grouped).1
          have once := List.pairwise_append.mp ((run.call _ possible).greets_once new id)
          exact once.2.2 earlier member _ (List.mem_singleton_self _) ⟨greeted, greets⟩
        obtain ⟨group, number, gained⟩ := Act.gainsGroup_onInit known starting holds.reloads
          fun group member => by
            rw [holds.groups, ungrouped] at member
            cases member
        exact .gains greets ungrouped gained
      · refine .keeps (Act.keepsGroups_onInit fun other found => ?_) ?_ ?_
        · cases known.symm.trans found
          exact starting
        · intro other greets
          cases greets.reports
          obtain ⟨current, found, isStarting⟩ := greets.starting
          cases known.symm.trans found
          exact starting isStarting
        · exact fun other code exits => by cases exits
  | exited id code =>
      cases grouped : desk.registry.group? id with
      | none =>
          refine .keeps (Act.keepsGroups_onExit grouped code) ?_ ?_
          · exact fun other greets => by cases greets.reports
          · intro other otherCode exits
            cases exits
            exact grouped
      | some group =>
          obtain ⟨session, known, has⟩ := Registry.group?_eq_some_iff.mp grouped
          have present : session.state ≠ .stopped := by
            intro stopped
            obtain ⟨earlier, member, other, exited⟩ := (run.stopped_iff new known).mp stopped
            exact ((follows id).mp (Option.isSome_of_mem grouped)).2 earlier member other exited
          have isThere : desk.host.hasGroup group :=
            List.any_eq_true.mpr ⟨_, (holds.groups id group).mpr grouped, beq_self_eq_true group⟩
          exact .loses rfl grouped (Act.losesGroup_onExit known present has isThere code)

theorem Visit.Regroups.holds
    {visit : Visit}
    (regroups : visit.Regroups around)
    (holds : visit.desk.HoldsTriggers) :
    (visit.after around).HoldsTriggers := by
  cases regroups with
  | keeps kept _ _ =>
      exact holds.spared kept.spares
  | gains _ ungrouped gained =>
      exact holds.gained ungrouped gained
  | loses _ grouped lost =>
      exact holds.lost grouped lost

theorem Desk.GroupsFollow.call
    {visit : Visit}
    (follows : visit.desk.GroupsFollow visits)
    (regroups : visit.Regroups around)
    (unexited : ∀ id, visit.Greets id →
      ∀ earlier ∈ visits, ∀ code, earlier.call ≠ .exited id code) :
    (visit.after around).GroupsFollow (visits ++ [visit]) := by
  intro other
  cases regroups with
  | keeps kept greets exits =>
      rw [kept.sessions]
      by_cases exited : ∃ code, visit.call = .exited other code
      · obtain ⟨code, exited⟩ := exited
        rw [exits other code exited]
        exact iff_of_false Bool.false_ne_true (Visit.not_underWay_of_exited exited)
      · rw [Visit.underWay_concat (greets other) (not_exists.mp exited)]
        exact follows other
  | @gains id group number greets ungrouped gained =>
      rw [gained.sessions]
      by_cases same : other = id
      · subst same
        rw [if_pos rfl]
        exact iff_of_true rfl (greets.underWay (unexited other greets))
      · rw [if_neg same, Visit.underWay_concat]
        · exact follows other
        · intro greetsOther
          cases greets.reports.symm.trans greetsOther.reports
          exact same rfl
        · intro code exits
          cases greets.reports.symm.trans exits
  | @loses id group code exits grouped lost =>
      rw [lost.sessions]
      by_cases same : other = id
      · subst same
        rw [if_pos rfl]
        exact iff_of_false Bool.false_ne_true (Visit.not_underWay_of_exited exits)
      · rw [if_neg same, Visit.underWay_concat]
        · exact follows other
        · intro greets
          cases exits.symm.trans greets.reports
        · intro otherCode exitsOther
          cases exits.symm.trans exitsOther
          exact same rfl

/-! ## Runs -/

/-- A desk at which everything is ready and no session has left a trace yet. -/
structure Desk.IsUntriggered (desk : Desk) : Prop where
  sound : desk.host.IsSound
  reloads : desk.ReloadsManifests
  unnamed : ∀ id group, ⟨group, groupName id⟩ ∉ desk.host.groups
  unbound : ∀ command ∈ desk.host.autoCommands, command.action.reloads? = none

theorem Desk.IsUntriggered.holds
    (new : desk.IsNew)
    (untriggered : desk.IsUntriggered) :
    desk.HoldsTriggers ∧ desk.GroupsFollow [] := by
  have ungrouped : ∀ id, desk.registry.group? id = none := by
    intro id
    rw [new.vacant]
    rfl
  have unbound : ∀ id, desk.host.triggers id = [] := by
    intro id
    refine List.filter_eq_nil_iff.mpr fun command member => ?_
    simp [untriggered.unbound command member]
  refine ⟨⟨untriggered.sound, untriggered.reloads, fun id group => ?_, fun id group grouped => ?_,
    fun id _ => unbound id⟩, fun id => ?_⟩
  · simp [untriggered.unnamed id group, ungrouped]
  · rw [ungrouped] at grouped
    cases grouped
  · simp [ungrouped, Visit.UnderWay]

/-- The groups and the auto-commands of sessions are well at every desk of a run. -/
theorem VisitedRun.holdsTriggers
    (new : initial.IsNew)
    (untriggered : initial.IsUntriggered)
    (spares : around.SparesTriggers)
    (run : VisitedRun around initial visits desk) :
    desk.HoldsTriggers ∧ desk.GroupsFollow visits := by
  induction run with
  | begin =>
      exact untriggered.holds new
  | call earlier call possible inductionHypothesis =>
      obtain ⟨holds, follows⟩ := inductionHypothesis
      have regroups := earlier.regroups new spares holds follows call possible
      refine ⟨regroups.holds holds, follows.call regroups fun id greets => ?_⟩
      intro old member code exited
      obtain ⟨session, known, starting⟩ := greets.starting
      have stopped := (earlier.stopped_iff new known).mpr ⟨old, member, code, exited⟩
      cases starting.symm.trans stopped
  | outside _ happened inductionHypothesis =>
      obtain ⟨holds, follows⟩ := inductionHypothesis
      have spared := spares.outside _ _ happened
      refine ⟨holds.spared spared, fun id => ?_⟩
      rw [spared.sessions]
      exact follows id

/-- What every visit of a run does to the groups. -/
theorem VisitedRun.regroups_of_mem
    (new : initial.IsNew)
    (untriggered : initial.IsUntriggered)
    (spares : around.SparesTriggers)
    (run : VisitedRun around initial visits desk)
    {visit : Visit}
    (member : visit ∈ visits) :
    visit.desk.HoldsTriggers ∧ visit.Regroups around := by
  obtain ⟨earlier, later, split⟩ := List.append_of_mem member
  obtain ⟨before, possible⟩ := run.before split
  obtain ⟨holds, follows⟩ := before.holdsTriggers new untriggered spares
  exact ⟨holds, before.regroups new spares holds follows visit.call possible⟩

end

/-! ## What others have on the host -/

/-- An auto-command that is bound to no session and in the group of none. -/
def Host.IsForeign (host : Host Action) (command : AutoCommand Action) : Prop :=
  command.action.reloads? = none ∧ ∀ id, ⟨command.group, groupName id⟩ ∉ host.groups

/-- The groups of sessions hold nothing but auto-commands that are bound to sessions. -/
def Desk.OnlyTriggers (desk : Desk) : Prop :=
  ∀ command ∈ desk.host.autoCommands, ∀ id, ⟨command.group, groupName id⟩ ∈ desk.host.groups →
    command.action.reloads? ≠ none

/-- Others put no auto-commands into the groups of sessions. -/
def Surroundings.LeavesGroups (around : Surroundings) : Prop :=
  ∀ before after, around.outside before after → ∀ command ∈ after.host.autoCommands,
    command ∈ before.host.autoCommands ∨
      ∀ id, ⟨command.group, groupName id⟩ ∉ after.host.groups

/-- Others leave all groups and auto-commands as they are. -/
def Surroundings.LeavesHost (around : Surroundings) : Prop :=
  ∀ before after, around.outside before after →
    after.host.groups = before.host.groups ∧ after.host.autoCommands = before.host.autoCommands

theorem Surroundings.LeavesHost.leavesGroups
    {around : Surroundings}
    (leaves : around.LeavesHost) :
    around.LeavesGroups := by
  intro before after happened command member
  rw [(leaves before after happened).2] at member
  exact .inl member

section

variable {around : Surroundings} {initial desk : Desk} {visits : List Visit}

/-- An auto-command that is bound to a session is in the group of that session. -/
theorem Desk.HoldsTriggers.group_of_reloads
    (holds : desk.HoldsTriggers)
    {command : AutoCommand Action}
    {id : Nat}
    (member : command ∈ desk.host.autoCommands)
    (bound : command.action.reloads? = some id) :
    desk.registry.group? id = some command.group := by
  have isTrigger : command ∈ desk.host.triggers id :=
    List.mem_filter.mpr ⟨member, beq_iff_eq.mpr bound⟩
  cases grouped : desk.registry.group? id with
  | none =>
      rw [holds.untriggered id grouped] at isTrigger
      cases isTrigger
  | some group =>
      obtain ⟨number, triggers⟩ := holds.triggered id group grouped
      rw [triggers, List.mem_singleton] at isTrigger
      rw [isTrigger]
      rfl

/-- The group of a session holds nothing but its trigger when others put nothing into it. -/
theorem Desk.HoldsTriggers.commands_of_group
    (holds : desk.HoldsTriggers)
    (only : desk.OnlyTriggers)
    {id : Nat}
    {group : Int}
    (grouped : desk.registry.group? id = some group) :
    desk.host.autoCommands.filter (fun command => command.group == group) =
      desk.host.triggers id := by
  refine List.filter_congr fun command member => Bool.eq_iff_iff.mpr ?_
  rw [beq_iff_eq, beq_iff_eq]
  constructor
  · rintro rfl
    obtain ⟨other, bound⟩ := Option.ne_none_iff_exists'.mp
      (only command member id ((holds.groups id _).mpr grouped))
    rw [bound, holds.eq_of_group (holds.group_of_reloads member bound) grouped]
  · intro bound
    exact Option.some.inj ((holds.group_of_reloads member bound).symm.trans grouped)

/-- Groups with other names stay as they are. -/
theorem Visit.Regroups.filter_groups
    {visit : Visit}
    (holds : visit.desk.HoldsTriggers)
    (regroups : visit.Regroups around)
    {keep : AutoGroup → Bool}
    (foreign : ∀ group, keep group → ∀ id, group.name ≠ groupName id) :
    (visit.after around).host.groups.filter keep = visit.desk.host.groups.filter keep := by
  cases regroups with
  | keeps kept _ _ =>
      rw [kept.host.groups]
  | gains _ _ gained =>
      have isOwn : ∀ id group, keep ⟨group, groupName id⟩ = false := by
        intro id group
        exact Bool.eq_false_iff.mpr fun kept => foreign _ kept id rfl
      rw [gained.groups, List.filter_append, List.filter_singleton, isOwn, cond_false,
        List.append_nil]
  | @loses id group code _ grouped lost =>
      rw [lost.groups, List.filter_filter]
      refine List.filter_congr fun known member => ?_
      rw [Bool.and_eq_left_iff_imp, bne_iff_ne]
      rintro kept rfl
      have isOwn := holds.sound.eq_of_group member ((holds.groups id _).mpr grouped) rfl
      exact foreign known kept id (congrArg AutoGroup.name isOwn)

/-- Auto-commands of others stay as they are. -/
theorem Visit.Regroups.filter_autoCommands
    {visit : Visit}
    (holds : visit.desk.HoldsTriggers)
    (regroups : visit.Regroups around)
    {keep : AutoCommand Action → Bool}
    (foreign : ∀ command ∈ visit.desk.host.autoCommands, keep command →
      ∀ id, ⟨command.group, groupName id⟩ ∉ visit.desk.host.groups)
    (unbound : ∀ command, keep command → command.action.reloads? = none) :
    (visit.after around).host.autoCommands.filter keep =
      visit.desk.host.autoCommands.filter keep := by
  cases regroups with
  | keeps kept _ _ =>
      rw [kept.host.autoCommands]
  | @gains id group number _ _ gained =>
      have isOwn : keep (reloadTrigger number id group) = false := by
        refine Bool.eq_false_iff.mpr fun kept => ?_
        cases unbound _ kept
      rw [gained.autoCommands, List.filter_append, List.filter_singleton, isOwn, cond_false,
        List.append_nil]
  | @loses id group code _ grouped lost =>
      rw [lost.autoCommands, List.filter_filter]
      refine List.filter_congr fun command member => ?_
      rw [Bool.and_eq_left_iff_imp, bne_iff_ne]
      rintro kept rfl
      exact foreign command member kept id ((holds.groups id _).mpr grouped)

theorem Desk.OnlyTriggers.call
    {visit : Visit}
    (only : visit.desk.OnlyTriggers)
    (holds : visit.desk.HoldsTriggers)
    (regroups : visit.Regroups around) :
    (visit.after around).OnlyTriggers := by
  have holdsAfter := regroups.holds holds
  intro command member other
  cases regroups with
  | keeps kept _ _ =>
      rw [kept.host.autoCommands] at member
      rw [kept.host.groups]
      exact only command member other
  | @gains id group number _ _ gained =>
      rw [gained.autoCommands] at member
      rcases List.mem_append.mp member with old | isNew
      · intro own
        refine only command old other ?_
        -- The new group has an identifier that no group had.
        obtain ⟨known, isKnown, sameId⟩ := List.mem_map.mp (holds.sound.grouped command old)
        have stillKnown : known ∈ (visit.after around).host.groups := by
          rw [gained.groups]
          exact List.mem_append_left _ isKnown
        rwa [← holdsAfter.sound.eq_of_group stillKnown own sameId]
      · obtain rfl := List.mem_singleton.mp isNew
        exact fun _ none => by cases none
  | loses _ _ lost =>
      rw [lost.autoCommands] at member
      rw [lost.groups]
      exact fun own => only command (List.mem_filter.mp member).1 other (List.mem_filter.mp own).1

theorem VisitedRun.onlyTriggers
    (new : initial.IsNew)
    (untriggered : initial.IsUntriggered)
    (spares : around.SparesTriggers)
    (leaves : around.LeavesGroups)
    (run : VisitedRun around initial visits desk) :
    desk.OnlyTriggers := by
  induction run with
  | begin =>
      exact fun command _ id own => (untriggered.unnamed id _ own).elim
  | call earlier call possible inductionHypothesis =>
      obtain ⟨holds, follows⟩ := earlier.holdsTriggers new untriggered spares
      have regroups := earlier.regroups new spares holds follows call possible
      exact inductionHypothesis.call holds regroups
  | outside _ happened inductionHypothesis =>
      intro command member id own
      rcases leaves _ _ happened command member with old | apart
      · exact inductionHypothesis command old id
          (((spares.outside _ _ happened).groups id _).mp own)
      · exact (apart id own).elim

/-- When others leave the host alone, what is not of sessions is what was there in the beginning. -/
theorem VisitedRun.foreign_eq
    (new : initial.IsNew)
    (untriggered : initial.IsUntriggered)
    (spares : around.SparesTriggers)
    (leaves : around.LeavesHost)
    (run : VisitedRun around initial visits desk) :
    (∀ keep : AutoGroup → Bool, (∀ group, keep group → ∀ id, group.name ≠ groupName id) →
      desk.host.groups.filter keep = initial.host.groups.filter keep) ∧
    desk.host.autoCommands.filter (fun command => command.action.reloads?.isNone) =
      initial.host.autoCommands.filter fun command => command.action.reloads?.isNone := by
  induction run with
  | begin =>
      exact ⟨fun _ _ => rfl, rfl⟩
  | call earlier call possible inductionHypothesis =>
      obtain ⟨sameGroups, sameCommands⟩ := inductionHypothesis
      obtain ⟨holds, follows⟩ := earlier.holdsTriggers new untriggered spares
      have regroups := earlier.regroups new spares holds follows call possible
      have only := earlier.onlyTriggers new untriggered spares leaves.leavesGroups
      refine ⟨fun keep foreign => ?_, ?_⟩
      · exact (regroups.filter_groups holds foreign).trans (sameGroups keep foreign)
      · refine (regroups.filter_autoCommands holds ?_ ?_).trans sameCommands
        · intro command member unbound id own
          exact only command member id own (Option.isNone_iff_eq_none.mp unbound)
        · intro command unbound
          exact Option.isNone_iff_eq_none.mp unbound
  | outside _ happened inductionHypothesis =>
      obtain ⟨keptGroups, keptCommands⟩ := leaves _ _ happened
      rw [keptGroups, keptCommands]
      exact inductionHypothesis

end

/-! ## Whole runs -/

/-- How the groups and the auto-commands of sessions are after the visits of a run. -/
structure HasReloadTriggers
    (around : Surroundings)
    (initial : Desk)
    (visits : List Visit)
    (desk : Desk) : Prop where
  /-- The groups with the names of sessions are the groups that the sessions have. -/
  groups : ∀ id group, ⟨group, groupName id⟩ ∈ desk.host.groups ↔
    ∃ session, desk.registry.get? id = some session ∧ session.group = some group
  /-- The sessions with a group are those that were initialized while they were starting, and are
  not stopped. -/
  grouped : ∀ id session, desk.registry.get? id = some session →
    (session.group.isSome ↔ (∃ visit ∈ visits, visit.Greets id) ∧ session.state ≠ .stopped)
  /-- Different sessions have different groups. -/
  distinct : ∀ first second session other, desk.registry.get? first = some session →
    desk.registry.get? second = some other → session.group.isSome →
    session.group = other.group → first = second
  /-- One auto-command is bound to a session with a group; it is in that group, and when others put
  nothing into it nothing else is. -/
  trigger : ∀ id session group, desk.registry.get? id = some session →
    session.group = some group →
    ∃ number, desk.host.triggers id = [reloadTrigger number id group] ∧
      (around.LeavesGroups → desk.host.autoCommands.filter (fun command => command.group == group) =
        [reloadTrigger number id group])
  /-- No auto-command is bound to a stopped session. -/
  bound : ∀ command ∈ desk.host.autoCommands, ∀ id, command.action = .reload id →
    ∃ session, desk.registry.get? id = some session ∧ session.state ≠ .stopped
  /-- No call touches the groups of others. -/
  otherGroups : ∀ visit ∈ visits, ∀ keep : AutoGroup → Bool,
    (∀ group, keep group → ∀ id, group.name ≠ groupName id) →
    (visit.after around).host.groups.filter keep = visit.desk.host.groups.filter keep
  /-- No call touches the auto-commands of others. -/
  otherCommands : ∀ visit ∈ visits, ∀ keep : AutoCommand Action → Bool,
    (∀ command, keep command → visit.desk.host.IsForeign command) →
    (visit.after around).host.autoCommands.filter keep = visit.desk.host.autoCommands.filter keep
  /-- When all sessions have stopped, nothing of them is left; unless others have changed the groups
  and the auto-commands, they are those of the beginning. -/
  emptied : (∀ session ∈ desk.registry.sessions, session.state = .stopped) →
    (∀ id group, ⟨group, groupName id⟩ ∉ desk.host.groups) ∧
    (∀ command ∈ desk.host.autoCommands, command.action.reloads? = none) ∧
    (around.LeavesHost → desk.host.groups = initial.host.groups ∧
      desk.host.autoCommands = initial.host.autoCommands)

/-- Where nothing is left of sessions, the host has what it had in the beginning. -/
theorem VisitedRun.host_eq_of_emptied
    {around : Surroundings}
    {initial desk : Desk}
    {visits : List Visit}
    (new : initial.IsNew)
    (untriggered : initial.IsUntriggered)
    (spares : around.SparesTriggers)
    (leaves : around.LeavesHost)
    (run : VisitedRun around initial visits desk)
    (noGroups : ∀ id group, ⟨group, groupName id⟩ ∉ desk.host.groups)
    (noTriggers : ∀ command ∈ desk.host.autoCommands, command.action.reloads? = none) :
    desk.host.groups = initial.host.groups ∧
      desk.host.autoCommands = initial.host.autoCommands := by
  classical
  obtain ⟨sameGroups, sameCommands⟩ := run.foreign_eq new untriggered spares leaves
  constructor
  · have same := sameGroups (fun group => decide (∀ id, group.name ≠ groupName id))
      fun group => of_decide_eq_true
    rwa [List.filter_eq_self.mpr, List.filter_eq_self.mpr] at same
    · intro group member
      refine decide_eq_true fun id named => untriggered.unnamed id group.id ?_
      rwa [← named]
    · intro group member
      refine decide_eq_true fun id named => noGroups id group.id ?_
      rwa [← named]
  · rwa [List.filter_eq_self.mpr, List.filter_eq_self.mpr] at sameCommands
    · intro command member
      exact Option.isNone_iff_eq_none.mpr (untriggered.unbound command member)
    · intro command member
      exact Option.isNone_iff_eq_none.mpr (noTriggers command member)

/-- The reload triggers of sessions are set up and torn down exactly, whatever a manager is asked and
however the reports of the transport come. -/
theorem VisitedRun.hasReloadTriggers
    {around : Surroundings}
    {initial desk : Desk}
    {visits : List Visit}
    (new : initial.IsNew)
    (untriggered : initial.IsUntriggered)
    (spares : around.SparesTriggers)
    (run : VisitedRun around initial visits desk) :
    HasReloadTriggers around initial visits desk := by
  obtain ⟨holds, follows⟩ := run.holdsTriggers new untriggered spares
  have group?_of : ∀ {id session}, desk.registry.get? id = some session →
      desk.registry.group? id = session.group := by
    intro id session known
    rw [Registry.group?, known]
    rfl
  have grouped : ∀ id session, desk.registry.get? id = some session →
      (session.group.isSome ↔
        (∃ visit ∈ visits, visit.Greets id) ∧ session.state ≠ .stopped) := by
    intro id session known
    rw [← group?_of known, follows id, Visit.UnderWay, Ne, run.stopped_iff new known]
    push Not
    rfl
  have running : ∀ {id group}, desk.registry.group? id = some group →
      ∃ session, desk.registry.get? id = some session ∧ session.state ≠ .stopped := by
    intro id group has
    obtain ⟨session, known, isGroup⟩ := Registry.group?_eq_some_iff.mp has
    exact ⟨session, known, ((grouped id session known).mp (Option.isSome_of_mem isGroup)).2⟩
  refine ⟨fun id group => ?_, grouped, ?_, ?_, ?_, ?_, ?_, ?_⟩
  · rw [holds.groups, Registry.group?_eq_some_iff]
  · intro first second session other isFirst isSecond has same
    obtain ⟨group, isGroup⟩ := Option.isSome_iff_exists.mp has
    exact holds.eq_of_group ((group?_of isFirst).trans isGroup)
      ((group?_of isSecond).trans (same.symm.trans isGroup))
  · intro id session group known isGroup
    have has := (group?_of known).trans isGroup
    obtain ⟨number, triggers⟩ := holds.triggered id group has
    refine ⟨number, triggers, fun leaves => ?_⟩
    rw [holds.commands_of_group (run.onlyTriggers new untriggered spares leaves) has, triggers]
  · intro command member id bound
    have reloads : command.action.reloads? = some id := by
      rw [bound]
      rfl
    exact running (holds.group_of_reloads member reloads)
  · intro visit member keep foreign
    obtain ⟨before, regroups⟩ := run.regroups_of_mem new untriggered spares member
    exact regroups.filter_groups before foreign
  · intro visit member keep foreign
    obtain ⟨before, regroups⟩ := run.regroups_of_mem new untriggered spares member
    exact regroups.filter_autoCommands before (fun command _ kept => (foreign command kept).2)
      fun command kept => (foreign command kept).1
  · intro stopped
    have ungrouped : ∀ id, desk.registry.group? id = none := by
      intro id
      rw [Option.eq_none_iff_forall_ne_some]
      intro group has
      obtain ⟨session, known, present⟩ := running has
      exact present (stopped session (List.mem_of_find?_eq_some known))
    have noGroups : ∀ id group, ⟨group, groupName id⟩ ∉ desk.host.groups := by
      intro id group member
      rw [holds.groups, ungrouped] at member
      cases member
    have noTriggers : ∀ command ∈ desk.host.autoCommands, command.action.reloads? = none := by
      intro command member
      rw [Option.eq_none_iff_forall_ne_some]
      intro id reloads
      have has := holds.group_of_reloads member reloads
      rw [ungrouped] at has
      cases has
    exact ⟨noGroups, noTriggers, fun leaves =>
      run.host_eq_of_emptied new untriggered spares leaves noGroups noTriggers⟩

/-- A manager that finds roots by itself, with nothing else happening, spares the groups. -/
theorem Surroundings.alone_sparesTriggers : Surroundings.alone.SparesTriggers where
  resolves := Act.keepsGroups_resolveRoot
  outside := by
    rintro before after rfl
    exact (Desk.isWay_keepsGroups.refl after).spares

/-- Two sessions that overlap, of which the first exits: its group is gone and the other is there. -/
theorem bare_run_hasReloadTriggers :
    let calls : List Call := [.start [] none, .initialized 1, .stop none, .start [] none,
      .initialized 2, .exited 1 (.nat 0)]
    let desk := Call.afterAll .alone .bare calls
    Desk.bare.IsNew ∧ Desk.bare.IsUntriggered ∧
      desk.host.groups = [⟨4, "FerrisAutoCmds2"⟩] ∧
      desk.host.autoCommands.map (fun command => (command.id, command.action.reloads?)) =
        [(5, some 2)] ∧
      ∃ visits, visits.map Visit.call = calls ∧ VisitedRun .alone .bare visits desk ∧
        HasReloadTriggers .alone .bare visits desk := by
  intro calls desk
  have new : Desk.bare.IsNew := ⟨rfl, rfl⟩
  have untriggered : Desk.bare.IsUntriggered := by
    refine ⟨Host.isSound_empty, ⟨.bool true, by decide +kernel, by decide⟩, fun _ _ member => ?_,
      fun _ member => ?_⟩
    · exact (List.not_mem_nil member).elim
    · exact (List.not_mem_nil member).elim
  have run := ManagerRun.begin.of_possible calls
    (by decide +kernel : Call.ArePossible .alone .bare calls)
  obtain ⟨visits, sameCalls, visited⟩ := ManagerRun.exists_visits run
  exact ⟨new, untriggered, by decide +kernel, by decide +kernel, visits, sameCalls, visited,
    VisitedRun.hasReloadTriggers new untriggered Surroundings.alone_sparesTriggers visited⟩

end AnalyzerSessions
