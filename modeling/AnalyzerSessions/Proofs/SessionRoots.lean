import AnalyzerSessions.Proofs.ManagerRuns

namespace AnalyzerSessions

/-!
# One serving session for each root

The registry does not keep two sessions from serving the same root.  It is the
manager who looks for a serving session before it enters a new one, and no other
turn makes a session serve that did not.
-/

namespace Ledger

/-- No two serving sessions have the same root. -/
def Unshared (ledger : Ledger) : Prop :=
  ∀ first ∈ ledger.entries, ∀ second ∈ ledger.entries,
    ledger.IsServing first → ledger.IsServing second → first.root = second.root →
      first.id = second.id

/-- A session served the same root before. -/
def WasServing (before : Ledger) (entry : LedgerEntry) : Prop :=
  ∃ old ∈ before.entries, before.IsServing old ∧ old.id = entry.id ∧ old.root = entry.root

/-- When every session that serves did so before, no two of them share a root. -/
theorem Unshared.of_wasServing
    {before after : Ledger}
    (unshared : before.Unshared)
    (wasServing : ∀ entry ∈ after.entries, after.IsServing entry → before.WasServing entry) :
    after.Unshared := by
  intro first firstMember second secondMember firstServing secondServing sameRoot
  obtain ⟨old, oldMember, oldServing, oldId, oldRoot⟩ :=
    wasServing first firstMember firstServing
  obtain ⟨other, otherMember, otherServing, otherId, otherRoot⟩ :=
    wasServing second secondMember secondServing
  rw [← oldId, ← otherId]
  apply unshared old oldMember other otherMember oldServing otherServing
  rw [oldRoot, otherRoot, sameRoot]

variable {ledger : Ledger}

/-- When a change makes the entry that it revises serve only if it did, the same holds of all
entries. -/
theorem Numbered.wasServing_of_change
    (numbered : ledger.Numbered)
    {known : LedgerEntry}
    (isKnown : known ∈ ledger.entries)
    {revise : LedgerEntry → LedgerEntry}
    (revised : ledger.IsServing (revise known) → ledger.WasServing (revise known)) :
    ∀ entry ∈ (ledger.change known.id revise).entries, ledger.IsServing entry →
      ledger.WasServing entry := by
  refine numbered.forall_change ?_ isKnown revised
  exact fun entry member serving => ⟨entry, member, serving, rfl, rfl⟩

/-- Entering a session for a root that no session serves keeps serving sessions from sharing one. -/
theorem Unshared.enroll
    (unshared : ledger.Unshared)
    (orderly : ledger.Orderly)
    (root : Option Path)
    (buffer : Int)
    (vacant : ∀ entry ∈ ledger.entries, ledger.IsServing entry → entry.root ≠ root) :
    (ledger.enroll root buffer).Unshared := by
  have servedBefore : ∀ entry ∈ ledger.entries, (ledger.enroll root buffer).IsServing entry →
      ledger.IsServing entry := by
    rintro entry member ⟨listed, serving⟩
    rcases List.mem_append.mp listed with old | new
    · exact ⟨old, serving⟩
    · exact (orderly.id_ne_nextId member (List.mem_singleton.mp new)).elim
  intro first firstMember second secondMember firstServing secondServing sameRoot
  rcases List.mem_append.mp firstMember with firstOld | firstNew
  · rcases List.mem_append.mp secondMember with secondOld | secondNew
    · exact unshared first firstOld second secondOld (servedBefore first firstOld firstServing)
        (servedBefore second secondOld secondServing) sameRoot
    · rw [List.mem_singleton.mp secondNew] at sameRoot
      exact (vacant first firstOld (servedBefore first firstOld firstServing) sameRoot).elim
  · rw [List.mem_singleton.mp firstNew] at sameRoot ⊢
    rcases List.mem_append.mp secondMember with secondOld | secondNew
    · exact (vacant second secondOld (servedBefore second secondOld secondServing)
        sameRoot.symm).elim
    · rw [List.mem_singleton.mp secondNew]

/-- Every turn keeps serving sessions from sharing a root. -/
theorem Unshared.turn
    (unshared : ledger.Unshared)
    (orderly : ledger.Orderly)
    {after : Ledger}
    (turn : ledger.Turn after) :
    after.Unshared := by
  cases turn with
  | enroll root buffer vacant =>
      exact unshared.enroll orderly root buffer vacant
  | attach known isKnown buffer =>
      apply unshared.of_wasServing
      refine orderly.wasServing_of_change isKnown fun serving => ?_
      exact ⟨known, isKnown, serving, rfl, rfl⟩
  | launch known isKnown =>
      exact unshared
  | halt known isKnown active moving =>
      apply unshared.of_wasServing
      refine orderly.wasServing_of_change isKnown ?_
      rintro ⟨_, _, serving⟩
      cases serving
  | equip known isKnown starting =>
      apply unshared.of_wasServing
      refine orderly.wasServing_of_change isKnown fun serving => ?_
      exact ⟨known, isKnown, serving, rfl, rfl⟩
  | welcome known isKnown starting equipped =>
      apply unshared.of_wasServing
      refine orderly.wasServing_of_change isKnown fun serving => ?_
      refine ⟨known, isKnown, ⟨serving.1, serving.2.1, ?_⟩, rfl, rfl⟩
      rw [starting]
      rfl

/-- A session's leaving keeps serving sessions from sharing a root. -/
theorem Unshared.leave
    (unshared : ledger.Unshared)
    (orderly : ledger.Orderly)
    {entry : LedgerEntry}
    (known : entry ∈ ledger.entries)
    (code : Json) :
    (ledger.leave entry code).Unshared := by
  have gone : ∀ other ∈ (ledger.change entry.id (·.departed code)).entries,
      ledger.IsServing other → ledger.WasServing other := by
    refine orderly.wasServing_of_change known ?_
    rintro ⟨_, _, serving⟩
    cases serving
  apply unshared.of_wasServing
  intro other member serving
  exact gone other member ⟨List.mem_of_mem_filter serving.1, serving.2⟩

/-- What happens elsewhere keeps serving sessions from sharing a root. -/
theorem Unshared.undisturbed
    {after : Ledger}
    (unshared : ledger.Unshared)
    (apart : ledger.Undisturbed after) :
    after.Unshared := by
  rw [apart.same]
  exact unshared

end Ledger

section

variable {around : Surroundings} {initial desk : Desk} {calls : List Call}

/-- In a run no two serving sessions share a root. -/
theorem ManagerRun.unshared
    (new : initial.IsNew)
    (run : ManagerRun around initial calls desk) :
    desk.ledger.Unshared := by
  refine (run.ledger_induction new Ledger.Unshared ?_ ?_ ?_ ?_).2
  · simp [Ledger.Unshared, Desk.ledger, new.vacant, Registry.empty]
  · exact fun before after orderly unshared turn => unshared.turn orderly turn
  · exact fun before entry code orderly unshared known _ => unshared.leave orderly known code
  · exact fun before after _ unshared apart => unshared.undisturbed apart

/-- A session serves, whatever its name, when its entry does on the ledger. -/
theorem mem_serving_iff
    (orderly : desk.ledger.Orderly)
    {session : Session} :
    session ∈ desk.registry.serving none ↔
      session ∈ desk.registry.sessions ∧ desk.ledger.IsServing session.entry := by
  have sameServing : session ∈ desk.registry.serving none ↔
      session ∈ desk.registry.sessions ∧ session.id ∈ desk.ledger.listed ∧
        session.state.isServing := by
    simp only [Registry.serving, Registry.active, List.mem_filter,
      Act.mem_registered orderly.toNumbered, Registry.fits, Option.all_none,
      SessionState.isServing, Bool.and_eq_true, and_true]
    simp only [Desk.ledger]
    tauto
  rw [sameServing]
  refine and_congr_right fun known => ?_
  have named := (orderly.sound session.entry (List.mem_map_of_mem known)).named
  exact ⟨fun both => ⟨both.1, named, both.2⟩, fun all => ⟨all.1, all.2.2⟩⟩

/-- A serving entry on the ledger is that of a serving session. -/
theorem exists_serving_of_entry
    (orderly : desk.ledger.Orderly)
    {entry : LedgerEntry}
    (member : entry ∈ desk.ledger.entries)
    (serving : desk.ledger.IsServing entry) :
    ∃ session ∈ desk.registry.serving none, session.entry = entry := by
  obtain ⟨session, known, rfl⟩ := List.mem_map.mp member
  exact ⟨session, (mem_serving_iff orderly).mpr ⟨known, serving⟩, rfl⟩

/-- Serving sessions come in the order in which they are listed. -/
theorem serving_ids_sublist (registry : Registry) :
    ((registry.serving none).map Session.id).Sublist registry.listed := by
  unfold Registry.serving Registry.active
  rw [List.filter_filter]
  exact (List.filter_sublist.map Session.id).trans (Act.registered_ids_sublist registry)

end

/-- What a start comes to that gives a session of a number for a buffer whose file has a root. -/
structure Desk.StartsAt
    (desk later : Desk)
    (number : Int)
    (root : Option Path)
    (id : Nat) : Prop where
  /-- The session serves the root and has the buffer. -/
  serves : ∃ session ∈ later.registry.serving none,
    session.id = id ∧ session.root = root ∧ number ∈ session.buffers
  /-- If a session served the root it is that session, and no server is launched. -/
  joins : ∀ old ∈ desk.registry.serving none, old.root = root →
    old.id = id ∧ later.orders = desk.orders
  /-- If none did the session is a new one, and only its server is launched. -/
  launches : (∀ old ∈ desk.registry.serving none, old.root ≠ root) →
    (∀ old ∈ desk.registry.sessions, old.id ≠ id) ∧ later.orders = desk.orders ++ [.launch id]

/-- A session that takes on a buffer for its root. -/
theorem startsAt_of_joined
    {desk later : Desk}
    (orderly : desk.ledger.Orderly)
    (unshared : desk.ledger.Unshared)
    (orderlyLater : later.ledger.Orderly)
    {entry : LedgerEntry}
    (member : entry ∈ desk.ledger.entries)
    (serving : desk.ledger.IsServing entry)
    {number : Int}
    (joined : later.ledger = desk.ledger.change entry.id (·.attached number)) :
    desk.StartsAt later number entry.root entry.id := by
  have memberLater : entry.attached number ∈ later.ledger.entries := by
    rw [joined]
    exact List.mem_map.mpr ⟨entry, member, by simp⟩
  have servingLater : later.ledger.IsServing (entry.attached number) := by
    rw [joined]
    exact serving
  refine ⟨?_, ?_, ?_⟩
  · obtain ⟨session, isServing, same⟩ :=
      exists_serving_of_entry orderlyLater memberLater servingLater
    refine ⟨session, isServing, congrArg LedgerEntry.id same, congrArg LedgerEntry.root same, ?_⟩
    have sameBuffers : session.buffers = (entry.attached number).buffers :=
      congrArg LedgerEntry.buffers same
    rw [sameBuffers]
    exact entry.mem_attached_buffers number
  · intro old oldServing sameRoot
    obtain ⟨known, entryServing⟩ := (mem_serving_iff orderly).mp oldServing
    have sameOrders : later.orders = desk.orders := congrArg Ledger.orders joined
    exact ⟨unshared old.entry (List.mem_map_of_mem known) entry member entryServing serving
      sameRoot, sameOrders⟩
  · intro vacant
    obtain ⟨old, oldServing, same⟩ := exists_serving_of_entry orderly member serving
    exact (vacant old oldServing (congrArg LedgerEntry.root same)).elim

/-- A new session that was launched for a buffer and a root. -/
theorem startsAt_of_launched
    {desk later : Desk}
    (orderly : desk.ledger.Orderly)
    (orderlyLater : later.ledger.Orderly)
    {root : Option Path}
    {number : Int}
    (vacant : ∀ entry ∈ desk.ledger.entries, desk.ledger.IsServing entry → entry.root ≠ root)
    (launched : later.ledger =
      (desk.ledger.enroll root number).tell (.launch desk.ledger.nextId)) :
    desk.StartsAt later number root desk.ledger.nextId := by
  have memberLater : .starting desk.ledger.nextId root number ∈ later.ledger.entries := by
    rw [launched]
    exact List.mem_append_right _ (List.mem_singleton_self _)
  have servingLater : later.ledger.IsServing (.starting desk.ledger.nextId root number) := by
    rw [launched]
    exact ⟨List.mem_append_right _ (List.mem_singleton_self _), rfl, rfl⟩
  refine ⟨?_, ?_, ?_⟩
  · obtain ⟨session, isServing, same⟩ :=
      exists_serving_of_entry orderlyLater memberLater servingLater
    refine ⟨session, isServing, congrArg LedgerEntry.id same, congrArg LedgerEntry.root same, ?_⟩
    have sameBuffers : session.buffers = [number] := congrArg LedgerEntry.buffers same
    rw [sameBuffers]
    exact List.mem_singleton_self number
  · intro old oldServing sameRoot
    obtain ⟨known, entryServing⟩ := (mem_serving_iff orderly).mp oldServing
    exact (vacant old.entry (List.mem_map_of_mem known) entryServing sameRoot).elim
  · intro _
    have moreOrders : later.orders = desk.orders ++ [.launch desk.ledger.nextId] :=
      congrArg Ledger.orders launched
    exact ⟨fun old known => orderly.id_ne_nextId (List.mem_map_of_mem known), moreOrders⟩

/-- The sessions of a manager serve one root each, and every start that gives a session gives the
one that serves the root of the file in the buffer. -/
theorem ManagerRun.one_session_for_each_root
    {around : Surroundings}
    {initial desk : Desk}
    {calls : List Call}
    (new : initial.IsNew)
    (run : ManagerRun around initial calls desk) :
    ((desk.registry.serving none).Pairwise fun first second => first.root ≠ second.root) ∧
      ∀ overrides buffer id,
        (Act.perform (Act.startWith around.resolve overrides buffer) desk).1 = .ok (some id) →
        ∃ number root, Act.Finds around.resolve buffer desk number root ∧
          desk.StartsAt ((Call.start overrides buffer).after around desk) number root id := by
  have orderly := run.orderly new
  have unshared := run.unshared new
  constructor
  · have distinct : ((desk.registry.serving none).map Session.id).Nodup :=
      (serving_ids_sublist desk.registry).nodup orderly.listedDistinct
    refine List.Pairwise.imp_of_mem ?_ (List.pairwise_map.mp distinct)
    intro first second firstMember secondMember different sameRoot
    obtain ⟨firstKnown, firstServing⟩ := (mem_serving_iff orderly).mp firstMember
    obtain ⟨secondKnown, secondServing⟩ := (mem_serving_iff orderly).mp secondMember
    exact different (unshared first.entry (List.mem_map_of_mem firstKnown) second.entry
      (List.mem_map_of_mem secondKnown) firstServing secondServing sameRoot)
  · intro overrides buffer id gave
    have orderlyLater := (run.call (.start overrides buffer) trivial).orderly new
    obtain ⟨number, root, finds, came⟩ :=
      Act.ledger_startWith around.quiet orderly.toNumbered gave
    refine ⟨number, root, finds, ?_⟩
    obtain ⟨entry, member, serving, rfl, rfl, joined⟩ | ⟨vacant, rfl, launched⟩ := came
    · exact startsAt_of_joined orderly unshared orderlyLater member serving joined
    · exact startsAt_of_launched orderly orderlyLater vacant launched

/-- A second start gives the session of the first one, until that is being stopped. -/
theorem bare_run_one_session_for_each_root :
    let twice := Call.afterAll .alone .bare [.start [] none]
    let anew := Call.afterAll .alone .bare [.start [] none, .stop none]
    Desk.bare.IsNew ∧ ManagerRun .alone .bare [.start [] none] twice ∧
      ManagerRun .alone .bare [.start [] none, .stop none] anew ∧
      (∃ number root, Act.Finds Act.resolveRoot none twice number root ∧
        twice.StartsAt ((Call.start [] none).after .alone twice) number root 1) ∧
      ∃ number root, Act.Finds Act.resolveRoot none anew number root ∧
        anew.StartsAt ((Call.start [] none).after .alone anew) number root 2 := by
  intro twice anew
  have new : Desk.bare.IsNew := ⟨rfl, rfl⟩
  have runTwice : ManagerRun .alone .bare [.start [] none] twice :=
    ManagerRun.begin.of_possible _ (by decide +kernel)
  have runAnew : ManagerRun .alone .bare [.start [] none, .stop none] anew :=
    ManagerRun.begin.of_possible _ (by decide +kernel)
  exact ⟨new, runTwice, runAnew,
    (ManagerRun.one_session_for_each_root new runTwice).2 [] none 1 rfl,
    (ManagerRun.one_session_for_each_root new runAnew).2 [] none 2 rfl⟩

end AnalyzerSessions
