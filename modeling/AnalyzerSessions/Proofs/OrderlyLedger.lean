import AnalyzerSessions.Proofs.SessionLedger

namespace AnalyzerSessions

/-!
# Orderly ledgers

What holds of every ledger that a manager makes: each session has gone through
the states of one of two lives, it offers all commands or none, and it is
registered exactly as long as it is active.  Each kind of turn keeps a ledger
orderly, and so does a session's leaving.
-/

namespace SessionState

/-- The states of a session whose server was initialized before it was stopped. -/
def fullLife : List SessionState :=
  [unstarted, starting, initialized, running, stopping, stopped]

/-- The states of a session whose server was not initialized before it was stopped. -/
def shortLife : List SessionState :=
  [unstarted, starting, stopping, stopped]

/-- The states between the calls of a manager, with the states that lead there. -/
inductive Lived : SessionState → List SessionState → Prop where
  | starting :
      Lived starting [unstarted, starting]
  | running :
      Lived running [unstarted, starting, initialized, running]
  | stopping :
      Lived stopping [unstarted, starting, initialized, running, stopping]
  | stoppingEarly :
      Lived stopping [unstarted, starting, stopping]
  | stopped :
      Lived stopped [unstarted, starting, initialized, running, stopping, stopped]
  | stoppedEarly :
      Lived stopped [unstarted, starting, stopping, stopped]

namespace Lived

variable {state : SessionState} {trail : List SessionState}

/-- A session has gone some way through one of the two lives. -/
theorem isPrefix
    (lived : Lived state trail) :
    trail <+: fullLife ∨ trail <+: shortLife := by
  cases lived with
  | starting =>
      exact .inl (by decide)
  | running =>
      exact .inl (by decide)
  | stopping =>
      exact .inl (by decide)
  | stoppingEarly =>
      exact .inr (by decide)
  | stopped =>
      exact .inl (by decide)
  | stoppedEarly =>
      exact .inr (by decide)

/-- The present state is the last one of the trail. -/
theorem getLast?_eq
    (lived : Lived state trail) :
    trail.getLast? = some state := by
  cases lived <;> rfl

/-- Between calls a session is active unless it is stopped. -/
theorem isActive_iff
    (lived : Lived state trail) :
    state.isActive ↔ state ≠ .stopped := by
  cases lived <;> decide

/-- Between calls a session has been started. -/
theorem ne_unstarted
    (lived : Lived state trail) :
    state ≠ .unstarted := by
  cases lived <;> decide

/-- An active session that is not stopping may be stopped. -/
theorem halt
    (lived : Lived state trail)
    (active : state.isActive)
    (moving : state ≠ .stopping) :
    Lived .stopping (trail ++ [.stopping]) := by
  cases lived with
  | starting =>
      exact .stoppingEarly
  | running =>
      exact .stopping
  | stopping =>
      exact (moving rfl).elim
  | stoppingEarly =>
      exact (moving rfl).elim
  | stopped =>
      cases active
  | stoppedEarly =>
      cases active

/-- A starting session may run. -/
theorem welcome
    (lived : Lived state trail)
    (isStarting : state = .starting) :
    Lived .running ((trail ++ [.initialized]) ++ [.running]) := by
  cases lived with
  | starting =>
      exact .running
  | _ =>
      cases isStarting

/-- A stopping session may be stopped for good. -/
theorem finish
    (lived : Lived state trail)
    (isStopping : state = .stopping) :
    Lived .stopped (trail ++ [.stopped]) := by
  cases lived with
  | stopping =>
      exact .stopped
  | stoppingEarly =>
      exact .stoppedEarly
  | _ =>
      cases isStopping

end Lived

end SessionState

namespace LedgerEntry

/-- What holds of a session between the calls of a manager with commands of given names. -/
structure Sound (names : List String) (entry : LedgerEntry) : Prop where
  named : entry.name = serverName
  lived : SessionState.Lived entry.state entry.trail
  equipped : entry.commands = [] ∨ entry.commands = names
  running : entry.state = .running → entry.commands = names
  withdrawn : entry.state = .stopped → entry.commands = []
  pending : entry.state ≠ .stopped → entry.exitCode = .null

namespace Sound

variable {names : List String} {entry : LedgerEntry}

/-- A session that was just started is sound. -/
theorem starting
    (names : List String)
    (id : Nat)
    (root : Option Path)
    (buffer : Int) :
    (LedgerEntry.starting id root buffer).Sound names where
  named := rfl
  lived := .starting
  equipped := .inl rfl
  running := by
    intro isRunning
    cases isRunning
  withdrawn := fun _ => rfl
  pending := fun _ => rfl

/-- A session may take on a buffer. -/
theorem attached
    (sound : entry.Sound names)
    (buffer : Int) :
    (entry.attached buffer).Sound names :=
  ⟨sound.named, sound.lived, sound.equipped, sound.running, sound.withdrawn, sound.pending⟩

/-- An active session that is not stopping may be stopped. -/
theorem halt
    (sound : entry.Sound names)
    (active : entry.state.isActive)
    (moving : entry.state ≠ .stopping) :
    (entry.enter .stopping).Sound names where
  named := sound.named
  lived := sound.lived.halt active moving
  equipped := sound.equipped
  running := by
    intro isRunning
    cases isRunning
  withdrawn := by
    intro isStopped
    cases isStopped
  pending := fun _ => sound.pending (sound.lived.isActive_iff.mp active)

/-- A starting session may offer the commands. -/
theorem equip
    (sound : entry.Sound names)
    (isStarting : entry.state = .starting) :
    (entry.equipped names).Sound names where
  named := sound.named
  lived := sound.lived
  equipped := .inr rfl
  running := fun _ => rfl
  withdrawn := by
    intro isStopped
    exact absurd (isStarting.symm.trans isStopped) (by decide)
  pending := sound.pending

/-- A starting session that offers the commands may be welcomed. -/
theorem welcome
    (sound : entry.Sound names)
    (isStarting : entry.state = .starting)
    (equipped : entry.commands = names) :
    entry.welcomed.Sound names where
  named := sound.named
  lived := sound.lived.welcome isStarting
  equipped := sound.equipped
  running := fun _ => equipped
  withdrawn := by
    intro isStopped
    cases isStopped
  pending := by
    intro _
    exact sound.pending (by simp [isStarting])

/-- A session that is not stopped may leave. -/
theorem depart
    (sound : entry.Sound names)
    (present : entry.state ≠ .stopped)
    (code : Json) :
    (entry.departed code).Sound names where
  named := (departed_name entry code).trans sound.named
  lived := by
    by_cases isStopping : entry.state = .stopping
    · simpa [departed, concluded, stopping, enter, LedgerEntry.equipped, isStopping]
        using sound.lived.finish isStopping
    · have halted := sound.lived.halt (sound.lived.isActive_iff.mpr present) isStopping
      simpa [departed, concluded, stopping, enter, LedgerEntry.equipped, isStopping]
        using halted.finish rfl
  equipped := .inl (departed_commands entry code)
  running := by
    intro isRunning
    cases isRunning
  withdrawn := fun _ => departed_commands entry code
  pending := by
    intro gone
    exact (gone rfl).elim

end Sound

end LedgerEntry

namespace Ledger

/-- What holds of every ledger that a manager makes. -/
structure Orderly (ledger : Ledger) : Prop extends ledger.Numbered where
  sound : ∀ entry ∈ ledger.entries, entry.Sound ledger.names
  listedExactly : ∀ entry ∈ ledger.entries, entry.id ∈ ledger.listed ↔ entry.state.isActive

/-- A change that keeps numbers keeps the list of them. -/
theorem change_ids
    {ledger : Ledger}
    {id : Nat}
    {revise : LedgerEntry → LedgerEntry}
    (sameId : ∀ entry, (revise entry).id = entry.id) :
    (ledger.change id revise).ids = ledger.ids := by
  simp only [ids, change, List.map_map]
  apply List.map_congr_left
  intro entry _
  by_cases changed : entry.id = id
  · simp [changed, sameId]
  · simp [changed]

/-- What holds of every entry, and of the one that a change revises after it was revised, holds of
every entry after the change. -/
theorem Numbered.forall_change
    {ledger : Ledger}
    (numbered : ledger.Numbered)
    {holds : LedgerEntry → Prop}
    (all : ∀ entry ∈ ledger.entries, holds entry)
    {known : LedgerEntry}
    (isKnown : known ∈ ledger.entries)
    {revise : LedgerEntry → LedgerEntry}
    (revised : holds (revise known)) :
    ∀ entry ∈ (ledger.change known.id revise).entries, holds entry := by
  intro entry member
  obtain ⟨old, oldMember, rfl⟩ := List.mem_map.mp member
  by_cases changed : old.id = known.id
  · rw [if_pos changed, numbered.eq_of_id_eq oldMember isKnown changed]
    exact revised
  · rw [if_neg changed]
    exact all old oldMember

namespace Numbered

variable {ledger : Ledger} (numbered : ledger.Numbered)

include numbered

/-- The user commands of the host do not matter to numbers. -/
theorem host
    (commands : List (UserCommand Action)) :
    ({ ledger with hostCommands := commands } : Ledger).Numbered :=
  ⟨numbered.distinct, numbered.below, numbered.listedDistinct, numbered.listedKnown,
    numbered.launchedKnown⟩

/-- A session that is entered has a number of its own. -/
theorem enroll
    (root : Option Path)
    (buffer : Int) :
    (ledger.enroll root buffer).Numbered := by
  have idsAfter : (ledger.enroll root buffer).ids = ledger.ids ++ [ledger.nextId] := by
    simp [ids, Ledger.enroll, LedgerEntry.starting]
  have unused : ledger.nextId ∉ ledger.ids :=
    fun used => Nat.lt_irrefl _ (numbered.below _ used)
  refine ⟨?_, ?_, ?_, ?_, ?_⟩
  · rw [idsAfter]
    exact List.nodup_append.mpr ⟨numbered.distinct, by simp, by
      intro id used other isNext same
      rw [List.mem_singleton.mp isNext] at same
      exact unused (same ▸ used)⟩
  · intro id used
    show id < ledger.nextId + 1
    rw [idsAfter] at used
    rcases List.mem_append.mp used with old | new
    · have below := numbered.below id old
      omega
    · rw [List.mem_singleton.mp new]
      omega
  · exact List.nodup_append.mpr ⟨numbered.listedDistinct, by simp, by
      intro id listed other isNext same
      rw [List.mem_singleton.mp isNext] at same
      exact unused (numbered.listedKnown _ (same ▸ listed))⟩
  · intro id listed
    rw [idsAfter]
    rcases List.mem_append.mp listed with old | new
    · exact List.mem_append_left _ (numbered.listedKnown id old)
    · exact List.mem_append_right _ new
  · intro id launched
    rw [idsAfter]
    exact List.mem_append_left _ (numbered.launchedKnown id launched)

/-- The transport may be told to launch the server of a session that is there. -/
theorem tell
    {order : Order}
    (known : ∀ id, order = .launch id → id ∈ ledger.ids) :
    (ledger.tell order).Numbered := by
  refine ⟨numbered.distinct, numbered.below, numbered.listedDistinct, numbered.listedKnown, ?_⟩
  intro id launched
  rcases List.mem_append.mp launched with old | new
  · exact numbered.launchedKnown id old
  · exact known id (List.mem_singleton.mp new).symm

/-- A change that keeps numbers keeps a ledger numbered. -/
theorem change
    (id : Nat)
    {revise : LedgerEntry → LedgerEntry}
    (sameId : ∀ entry, (revise entry).id = entry.id) :
    (ledger.change id revise).Numbered := by
  have idsSame : (ledger.change id revise).ids = ledger.ids := change_ids sameId
  refine ⟨?_, ?_, numbered.listedDistinct, ?_, ?_⟩
  · rw [idsSame]
    exact numbered.distinct
  · rw [idsSame]
    exact numbered.below
  · rw [idsSame]
    exact numbered.listedKnown
  · rw [idsSame]
    exact numbered.launchedKnown

/-- A session that leaves is not listed any more and keeps its number. -/
theorem leave
    (entry : LedgerEntry)
    (code : Json) :
    (ledger.leave entry code).Numbered := by
  have changed := numbered.change entry.id fun entry => entry.departed_id code
  exact ⟨changed.distinct, changed.below, changed.listedDistinct.filter _,
    fun id listed => changed.listedKnown id (List.mem_of_mem_filter listed),
    changed.launchedKnown⟩

/-- Every turn keeps a ledger numbered. -/
theorem turn
    {after : Ledger}
    (turn : ledger.Turn after) :
    after.Numbered := by
  cases turn with
  | enroll root buffer vacant =>
      exact numbered.enroll root buffer
  | attach entry known buffer =>
      exact numbered.change entry.id fun _ => rfl
  | launch entry known =>
      refine numbered.tell fun id same => ?_
      cases same
      exact id_mem_ids known
  | halt entry known active moving =>
      have halted : (ledger.change entry.id (·.enter .stopping)).Numbered :=
        numbered.change entry.id fun _ => rfl
      exact halted.tell nofun
  | equip entry known starting =>
      have equipped : (ledger.change entry.id (·.equipped ledger.names)).Numbered :=
        numbered.change entry.id fun _ => rfl
      exact equipped.host _
  | welcome entry known starting equipped =>
      exact numbered.change entry.id fun _ => rfl

end Numbered

namespace Orderly

variable {ledger : Ledger} (orderly : ledger.Orderly)

include orderly

/-- The user commands of the host do not matter. -/
theorem host
    (commands : List (UserCommand Action)) :
    ({ ledger with hostCommands := commands } : Ledger).Orderly :=
  ⟨orderly.toNumbered.host commands, orderly.sound, orderly.listedExactly⟩

/-- A session may be entered. -/
theorem enroll
    (root : Option Path)
    (buffer : Int) :
    (ledger.enroll root buffer).Orderly := by
  refine ⟨orderly.toNumbered.enroll root buffer, ?_, ?_⟩
  · intro entry member
    rcases List.mem_append.mp member with old | new
    · exact orderly.sound entry old
    · rw [List.mem_singleton.mp new]
      exact .starting _ _ _ _
  · intro entry member
    rcases List.mem_append.mp member with old | new
    · have different := orderly.id_ne_nextId old
      rw [← orderly.listedExactly entry old]
      simp [Ledger.enroll, different]
    · rw [List.mem_singleton.mp new]
      simp [Ledger.enroll, LedgerEntry.starting, SessionState.isActive]

/-- The server of a session may be launched. -/
theorem tellLaunch
    {entry : LedgerEntry}
    (known : entry ∈ ledger.entries) :
    (ledger.tell (.launch entry.id)).Orderly := by
  refine ⟨orderly.toNumbered.tell fun id same => ?_, orderly.sound, orderly.listedExactly⟩
  cases same
  exact id_mem_ids known

/-- A server may be terminated. -/
theorem tellTerminate
    (id : Nat) :
    (ledger.tell (.terminate id)).Orderly :=
  ⟨orderly.toNumbered.tell nofun, orderly.sound, orderly.listedExactly⟩

/-- A session may be revised soundly, as long as it stays active or inactive. -/
theorem change
    {entry : LedgerEntry}
    (known : entry ∈ ledger.entries)
    {revise : LedgerEntry → LedgerEntry}
    (sameId : ∀ entry, (revise entry).id = entry.id)
    (sound : (revise entry).Sound ledger.names)
    (sameActive : (revise entry).state.isActive = entry.state.isActive) :
    (ledger.change entry.id revise).Orderly := by
  refine ⟨orderly.toNumbered.change entry.id sameId, ?_, ?_⟩
  · exact orderly.forall_change orderly.sound known sound
  · refine orderly.forall_change orderly.listedExactly known ?_
    rw [sameId, sameActive]
    exact orderly.listedExactly entry known

/-- A session that is not stopped may leave. -/
theorem leave
    {entry : LedgerEntry}
    (known : entry ∈ ledger.entries)
    (present : entry.state ≠ .stopped)
    (code : Json) :
    (ledger.leave entry code).Orderly := by
  refine ⟨orderly.toNumbered.leave entry code, ?_, ?_⟩
  · exact orderly.forall_change orderly.sound known
      ((orderly.sound entry known).depart present code)
  · intro other member
    obtain ⟨old, oldMember, rfl⟩ := List.mem_map.mp member
    by_cases changed : old.id = entry.id
    · simp [changed, Ledger.leave, unlist, SessionState.isActive]
    · simpa [changed, Ledger.leave, unlist, Ledger.change] using orderly.listedExactly old oldMember

/-- Every turn keeps a ledger orderly. -/
theorem turn
    {after : Ledger}
    (turn : ledger.Turn after) :
    after.Orderly := by
  cases turn with
  | enroll root buffer vacant =>
      exact orderly.enroll root buffer
  | attach entry known buffer =>
      exact orderly.change known (fun _ => rfl) ((orderly.sound entry known).attached buffer) rfl
  | launch entry known =>
      exact orderly.tellLaunch known
  | halt entry known active moving =>
      have halted : (ledger.change entry.id (·.enter .stopping)).Orderly :=
        orderly.change known (fun _ => rfl) ((orderly.sound entry known).halt active moving)
          active.symm
      exact halted.tellTerminate entry.id
  | equip entry known starting =>
      have equipped : (ledger.change entry.id (·.equipped ledger.names)).Orderly :=
        orderly.change known (fun _ => rfl) ((orderly.sound entry known).equip starting) rfl
      exact equipped.host _
  | welcome entry known starting equipped =>
      refine orderly.change known (fun _ => rfl)
        ((orderly.sound entry known).welcome starting equipped) ?_
      rw [starting]
      rfl

/-- What happens elsewhere keeps a ledger orderly. -/
theorem undisturbed
    {after : Ledger}
    (apart : ledger.Undisturbed after) :
    after.Orderly := by
  rw [apart.same]
  exact orderly.host _

end Orderly

end Ledger

end AnalyzerSessions
