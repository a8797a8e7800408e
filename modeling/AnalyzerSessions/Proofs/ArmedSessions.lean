import AnalyzerSessions.Proofs.InformedStations

namespace AnalyzerSessions

/-!
# Armed sessions

A session that is starting has no group on the host yet, and one that runs has a group and
talks to its server through its client.  Starting and stopping sessions leaves all of them
so.
-/

/-- How a session stands with its group and its client. -/
structure Session.IsArmed (session : Session) : Prop where
  starting : session.state = .starting → session.group = none
  running : session.state = .running → session.group.isSome ∧ session.client = some .client

/-- Whether a session is armed depends on its state, its group and its client. -/
theorem Session.IsArmed.of_same
    {session old : Session}
    (armed : old.IsArmed)
    (state : session.state = old.state)
    (group : session.group = old.group)
    (client : session.client = old.client) :
    session.IsArmed where
  starting starts := group.trans (armed.starting (state.symm.trans starts))
  running runs := by
    rw [group, client]
    exact armed.running (state.symm.trans runs)

/-- A session that neither starts nor runs is armed. -/
theorem Session.isArmed_of_halted
    {session : Session}
    (notStarting : session.state ≠ .starting)
    (notRunning : session.state ≠ .running) :
    session.IsArmed :=
  ⟨fun starts => (notStarting starts).elim, fun runs => (notRunning runs).elim⟩

/-- All sessions of a registry are armed. -/
def Registry.IsArmed (registry : Registry) : Prop :=
  ∀ id session, registry.get? id = some session → session.IsArmed

/-- The numbers of all sessions have been given out. -/
def Desk.IsCounted (desk : Desk) : Prop :=
  ∀ id, (desk.registry.get? id).isSome → id < desk.nextSession

theorem Act.isCounted_of_numbered
    {desk : Desk}
    (numbered : desk.ledger.Numbered) :
    desk.IsCounted := by
  intro id known
  exact numbered.below id ((desk.isSome_get?_iff id).mp known)

/-! ## What leaves all sessions armed -/

/-- Sessions that were armed are armed, and no number is given out twice. -/
structure Desk.StaysArmed (before after : Desk) : Prop where
  counted : before.IsCounted → after.IsCounted
  armed : before.IsCounted → before.registry.IsArmed → after.registry.IsArmed

theorem Desk.isWay_staysArmed : Desk.IsWay Desk.StaysArmed where
  refl _ := ⟨id, fun _ => id⟩
  trans first second :=
    ⟨fun counted => second.counted (first.counted counted), fun counted armed =>
      second.armed (first.counted counted) (first.armed counted armed)⟩

theorem Desk.staysArmed_of_registry
    {before after : Desk}
    (registry : after.registry = before.registry)
    (nextSession : after.nextSession = before.nextSession) :
    before.StaysArmed after := by
  refine ⟨fun counted => ?_, fun _ armed => registry ▸ armed⟩
  unfold IsCounted
  rw [registry, nextSession]
  exact counted

namespace Act

open Desk (isWay_staysArmed isWay_leavesSessions)

variable {α : Type} {desk : Desk}

theorem LeavesSessions.staysArmed
    {act : Act α}
    (leaves : LeavesSessions act) :
    KeepsTo Desk.StaysArmed act :=
  fun desk => Desk.staysArmed_of_registry (leaves desk).registry (leaves desk).nextSession

/-- A session is changed in a way that leaves it armed. -/
theorem staysArmed_modifySession
    (id : Nat)
    {change : Session → Session}
    (sameId : ∀ session, (change session).id = session.id)
    (arms : ∀ session : Session, session.IsArmed → (change session).IsArmed) :
    KeepsTo Desk.StaysArmed (modifySession id change) := by
  refine keepsTo_modify fun desk => ?_
  have found : ∀ other, ({ desk with registry := desk.registry.modify id change } : Desk).registry.get?
      other = (desk.registry.get? other).map fun session =>
        if session.id = id then change session else session :=
    fun other => desk.registry.get?_modify_any id other sameId
  refine ⟨fun counted other known => ?_, fun _ armed other session isThere => ?_⟩
  · rw [found, Option.isSome_map] at known
    exact counted other known
  · rw [found] at isThere
    obtain ⟨old, wasThere, rfl⟩ := Option.map_eq_some_iff.mp isThere
    split
    · exact arms old (armed other old wasThere)
    · exact armed other old wasThere

/-- Whatever is noted of its server leaves a session armed. -/
theorem isArmed_of_essence
    {session old : Session}
    (same : session.essence = old.essence)
    (armed : old.IsArmed) :
    session.IsArmed := by
  have state := congrArg Session.state same
  have group := congrArg Session.group same
  have client := congrArg Session.client same
  exact armed.of_same state group client

theorem staysArmed_revise
    (id : Nat)
    {change : Session → Session}
    (same : ∀ session, (change session).essence = session.essence) :
    KeepsTo Desk.StaysArmed (modifySession id change) := by
  refine staysArmed_modifySession id (fun session => ?_) fun session =>
    isArmed_of_essence (same session)
  have kept := congrArg Session.id (same session)
  exact kept

theorem staysArmed_halt (id : Nat) : KeepsTo Desk.StaysArmed (transition id .stopping) := by
  refine keepsTo_look fun desk => ?_
  split
  · exact keepsTo_pure isWay_staysArmed ()
  · refine KeepsTo.bind isWay_staysArmed (leavesSessions_note _).staysArmed fun _ => ?_
    exact staysArmed_modifySession id (fun _ => rfl)
      fun _ _ => Session.isArmed_of_halted nofun nofun

theorem staysArmed_order (given : Order) : KeepsTo Desk.StaysArmed (order given) :=
  fun _ => Desk.staysArmed_of_registry rfl rfl

theorem staysArmed_say
    (level : Level)
    (text : String) :
    KeepsTo Desk.StaysArmed (say level text) :=
  (leavesSessions_say level text).staysArmed

theorem staysArmed_chosenBuffer (chosen : Option Int) :
    KeepsTo Desk.StaysArmed (chosenBuffer chosen) :=
  (leavesSessions_chosenBuffer chosen).staysArmed

theorem staysArmed_stop (buffer : Option Int) : KeepsTo Desk.StaysArmed (stop buffer) :=
  keepsTo_stop_of isWay_staysArmed staysArmed_say staysArmed_chosenBuffer staysArmed_halt
    staysArmed_order buffer

/-! ## Starts -/

theorem leavesSessions_resolveRoot (path : Path) : LeavesSessions (resolveRoot path) :=
  keepsTo_resolveRoot_of
    (fun desk _ _ => ⟨.refl desk.host, rfl, rfl, rfl, List.Subset.refl _⟩) path

/-- When a session is changed that keeps its number, the others are found as they were. -/
theorem get?_modifySession_of_ne
    {id other : Nat}
    {change : Session → Session}
    (sameId : ∀ session, (change session).id = session.id)
    (different : other ≠ id)
    (desk : Desk) :
    (after (modifySession id change) desk).registry.get? other = desk.registry.get? other := by
  have changed := desk.registry.get?_modify_any id other sameId
  refine changed.trans ?_
  cases found : desk.registry.get? other with
  | none =>
      rfl
  | some session =>
      have isOther : session.id = other := (entry_of_get? found).2
      rw [Option.map_some, if_neg fun same => different (isOther.symm.trans same)]

theorem get?_transition_of_ne
    {id other : Nat}
    (state : SessionState)
    (different : other ≠ id)
    (desk : Desk) :
    (after (transition id state) desk).registry.get? other = desk.registry.get? other := by
  unfold transition
  rw [after_get_bind]
  split
  · rfl
  · rename_i session _
    exact get?_modifySession_of_ne (fun current => (rfl : (current.transition state).1.id = _))
      different (after (note (session.transition state).2) desk)

/-- A session with a new number is entered, and is found as one that is starting; the others are found
as they were. -/
theorem get?_enlist
    {session : Session}
    (unknown : desk.registry.get? session.id = none)
    (other : Nat) :
    (after (enlist session) desk).registry.get? other =
      if session.id = other then some (session.transition .starting).1
      else desk.registry.get? other := by
  obtain ⟨_, registers⟩ := succeeds_register session
    { desk with registry := desk.registry.add session }
  have listed : (after (register session)
      { desk with registry := desk.registry.add session }).registry.get? other =
        if session.id = other then some session else desk.registry.get? other := by
    have registered : (after (register session)
        { desk with registry := desk.registry.add session }).registry =
          (desk.registry.add session).register session.id := by
      unfold register
      rw [after_get_bind]
      dsimp only
      rw [after_modify_bind]
      split <;> rfl
    rw [registered, Registry.get?_register, Registry.get?_add]
    split
    · rename_i same
      rw [← same, unknown, Option.none_or]
    · exact Option.or_none
  unfold enlist
  rw [after_modify_bind, after_bind_of_ok registers]
  by_cases same : session.id = other
  · subst same
    rw [get?_transition, listed, if_pos rfl, if_pos rfl]
    rfl
  · rw [get?_transition_of_ne _ (Ne.symm same), listed, if_neg same, if_neg same]

theorem nextSession_enlist
    (session : Session)
    (desk : Desk) :
    (after (enlist session) desk).nextSession = desk.nextSession := by
  have isWay : Desk.IsWay fun before after => after.nextSession = before.nextSession :=
    ⟨fun _ => rfl, fun first second => second.trans first⟩
  have moved : KeepsTo (fun before after => after.nextSession = before.nextSession)
      (transition session.id .starting) := by
    refine keepsTo_look fun desk => ?_
    split <;> exact fun _ => rfl
  have registered : KeepsTo (fun before after => after.nextSession = before.nextSession)
      (register session) := by
    refine keepsTo_look fun desk => KeepsTo.bind isWay (fun _ => rfl) fun _ => ?_
    split <;> exact fun _ => rfl
  exact KeepsTo.bind isWay (fun _ => rfl) (fun _ => registered.bind isWay fun _ => moved) desk

/-- A session that is launched has a new number, and begins without a group. -/
theorem staysArmed_launch
    (server : Config.Entries Setting)
    (root : Option Path)
    (number : Int) :
    KeepsTo Desk.StaysArmed (launch server root number) := by
  intro desk
  unfold launch
  rcases perform_newSession server root desk with ⟨failure, refused⟩ | ⟨fresh, made, isFresh⟩
  · unfold after
    rw [perform_bind, refused]
    exact isWay_staysArmed.refl desk
  · have gave : (perform (newSession server root) desk).1 = .ok fresh := by
      rw [made]
    have counts : after (newSession server root) desk =
        { desk with nextSession := desk.nextSession + 1 } :=
      congrArg Prod.snd made
    have isNext : (fresh.attach number).id = desk.nextSession :=
      (Aspect.attach .groups fresh number).2.trans (congrArg LedgerEntry.id isFresh)
    have ungrouped : (fresh.attach number).group = none :=
      (Aspect.attach .groups fresh number).1.trans (group_newSession gave)
    rw [after_bind_of_ok gave, counts]
    generalize isAttached : fresh.attach number = session at isNext ungrouped
    generalize isCounting : { desk with nextSession := desk.nextSession + 1 } = counting
    have found : ∀ id, counting.registry.get? id = desk.registry.get? id := by
      rw [← isCounting]
      exact fun _ => rfl
    have next : (after (enlist session) counting).nextSession = desk.nextSession + 1 := by
      rw [nextSession_enlist, ← isCounting]
    have enlisted : desk.StaysArmed (after (enlist session) counting) := by
      have unknown : desk.IsCounted → counting.registry.get? session.id = none := by
        intro counted
        rw [found]
        cases isThere : desk.registry.get? session.id with
        | none => rfl
        | some known =>
            have below := counted session.id (Option.isSome_of_mem isThere)
            exact absurd (isNext ▸ below) (Nat.lt_irrefl _)
      refine ⟨fun counted id known => ?_, fun counted armed id now isThere => ?_⟩
      · rw [next]
        rw [get?_enlist (unknown counted)] at known
        split at known
        · omega
        · exact Nat.lt_succ_of_lt (counted id (found id ▸ known))
      · rw [get?_enlist (unknown counted)] at isThere
        split at isThere
        · cases isThere
          exact ⟨fun _ => ungrouped, nofun⟩
        · exact armed id now (found id ▸ isThere)
    obtain ⟨_, enlists⟩ := succeeds_enlist session counting
    dsimp only
    rw [after_bind_of_ok enlists]
    refine isWay_staysArmed.trans enlisted ?_
    exact KeepsTo.bind isWay_staysArmed (reads_joinWords _).leavesSessions.staysArmed (fun _ =>
      (leavesSessions_say _ _).staysArmed.bind isWay_staysArmed fun _ =>
        (staysArmed_order _).bind isWay_staysArmed fun _ => keepsTo_pure isWay_staysArmed _) _

theorem staysArmed_startAt
    (server : Config.Entries Setting)
    (root : Option Path)
    (number : Int) :
    KeepsTo Desk.StaysArmed (startAt server root number) := by
  refine keepsTo_look fun desk => ?_
  split
  · refine KeepsTo.bind isWay_staysArmed ?_ fun _ =>
      (leavesSessions_say _ _).staysArmed.bind isWay_staysArmed fun _ =>
        keepsTo_pure isWay_staysArmed _
    refine staysArmed_modifySession _ (fun current => (Aspect.attach .groups current number).2)
      fun current armed => ?_
    unfold Session.attach
    split
    · exact armed
    · exact armed.of_same rfl rfl rfl
  · exact staysArmed_launch server root number

theorem staysArmed_start
    (overrides : Config.Entries Setting)
    (buffer : Option Int) :
    KeepsTo Desk.StaysArmed (start overrides buffer) :=
  keepsTo_startWith_of isWay_staysArmed staysArmed_say staysArmed_chosenBuffer
    (fun path => (leavesSessions_resolveRoot path).staysArmed) staysArmed_startAt overrides buffer

end Act

end AnalyzerSessions
