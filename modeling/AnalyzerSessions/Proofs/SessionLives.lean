import AnalyzerSessions.Proofs.ManagerRuns

namespace AnalyzerSessions

/-!
# Lives of sessions

Whatever the reports of the transport, a session goes through the states of one
of two lives and never back, it is registered from its start until it is
stopped, and its exit code is that of the first report of its exit.
-/

namespace LedgerEntry

/-- An entry may become another one: it goes on through its life, and it stays what it is once it
is stopped. -/
structure Leads (old entry : LedgerEntry) : Prop where
  sameId : entry.id = old.id
  onward : old.trail <+: entry.trail
  final : old.state = .stopped → entry.state = .stopped ∧ entry.exitCode = old.exitCode

theorem Leads.refl (entry : LedgerEntry) : entry.Leads entry :=
  ⟨rfl, List.prefix_rfl, fun stopped => ⟨stopped, rfl⟩⟩

theorem Leads.trans
    {first second third : LedgerEntry}
    (before : first.Leads second)
    (after : second.Leads third) :
    first.Leads third where
  sameId := after.sameId.trans before.sameId
  onward := before.onward.trans after.onward
  final := by
    intro stopped
    obtain ⟨still, sameCode⟩ := before.final stopped
    obtain ⟨last, lastCode⟩ := after.final still
    exact ⟨last, lastCode.trans sameCode⟩

/-- An entry that is not stopped may go on to other states. -/
theorem leads_of_ne_stopped
    {old entry : LedgerEntry}
    (present : old.state ≠ .stopped)
    (sameId : entry.id = old.id)
    (onward : old.trail <+: entry.trail) :
    old.Leads entry :=
  ⟨sameId, onward, fun stopped => (present stopped).elim⟩

/-- The trail of an entry that leaves goes on. -/
theorem prefix_departed
    (entry : LedgerEntry)
    (code : Json) :
    entry.trail <+: (entry.departed code).trail := by
  by_cases isStopping : entry.state = .stopping
  · simp [departed, concluded, stopping, equipped, enter, isStopping]
  · simp [departed, concluded, stopping, equipped, enter, isStopping]

end LedgerEntry

namespace Ledger

/-- Every entry of a ledger leads to an entry of another one. -/
def Leads (before after : Ledger) : Prop :=
  ∀ old ∈ before.entries, ∃ entry ∈ after.entries, old.Leads entry

theorem Leads.trans
    {first second third : Ledger}
    (before : first.Leads second)
    (after : second.Leads third) :
    first.Leads third := by
  intro old member
  obtain ⟨entry, entryMember, leads⟩ := before old member
  obtain ⟨last, lastMember, leadsLast⟩ := after entry entryMember
  exact ⟨last, lastMember, leads.trans leadsLast⟩

/-- A ledger leads to one with the same entries. -/
theorem leads_of_entries_eq
    {before after : Ledger}
    (same : after.entries = before.entries) :
    before.Leads after :=
  fun old member => ⟨old, same ▸ member, .refl old⟩

variable {ledger : Ledger}

/-- A change leads on when it does so for the entry that it revises. -/
theorem Numbered.leads_change
    (numbered : ledger.Numbered)
    {entry : LedgerEntry}
    (known : entry ∈ ledger.entries)
    {revise : LedgerEntry → LedgerEntry}
    (leads : entry.Leads (revise entry)) :
    ledger.Leads (ledger.change entry.id revise) := by
  intro old member
  refine ⟨_, List.mem_map_of_mem member, ?_⟩
  by_cases changed : old.id = entry.id
  · rw [if_pos changed, numbered.eq_of_id_eq member known changed]
    exact leads
  · rw [if_neg changed]
    exact .refl old

/-- Every turn leads on. -/
theorem Orderly.turn_leads
    (orderly : ledger.Orderly)
    {after : Ledger}
    (turn : ledger.Turn after) :
    ledger.Leads after := by
  cases turn with
  | enroll root buffer vacant =>
      exact fun old member => ⟨old, List.mem_append_left _ member, .refl old⟩
  | attach entry known buffer =>
      exact orderly.leads_change known ⟨rfl, List.prefix_rfl, fun stopped => ⟨stopped, rfl⟩⟩
  | launch entry known =>
      exact leads_of_entries_eq rfl
  | halt entry known active moving =>
      have present := (orderly.sound entry known).lived.isActive_iff.mp active
      have leads : ledger.Leads (ledger.change entry.id (·.enter .stopping)) :=
        orderly.leads_change known
          (entry.leads_of_ne_stopped present rfl (List.prefix_append _ _))
      exact leads
  | equip entry known starting =>
      have leads : ledger.Leads (ledger.change entry.id (·.equipped ledger.names)) :=
        orderly.leads_change known ⟨rfl, List.prefix_rfl, fun stopped => ⟨stopped, rfl⟩⟩
      exact leads
  | welcome entry known starting equipped =>
      refine orderly.leads_change known (entry.leads_of_ne_stopped ?_ rfl ?_)
      · simp [starting]
      · exact (List.prefix_append _ _).trans (List.prefix_append _ _)

/-- A session's leaving leads on. -/
theorem Orderly.leave_leads
    (orderly : ledger.Orderly)
    {entry : LedgerEntry}
    (known : entry ∈ ledger.entries)
    (present : entry.state ≠ .stopped)
    (code : Json) :
    ledger.Leads (ledger.leave entry code) := by
  have leads : ledger.Leads (ledger.change entry.id (·.departed code)) :=
    orderly.leads_change known (entry.leads_of_ne_stopped present (entry.departed_id code)
      (entry.prefix_departed code))
  exact leads

/-- A stopped entry was there before, with the same exit code. -/
def WasStopped (before : Ledger) (entry : LedgerEntry) : Prop :=
  ∃ old ∈ before.entries, old.id = entry.id ∧ old.state = .stopped ∧ old.exitCode = entry.exitCode

/-- A change stops no session for good when it does not do so to the entry that it revises. -/
theorem Numbered.wasStopped_of_change
    (numbered : ledger.Numbered)
    {known : LedgerEntry}
    (isKnown : known ∈ ledger.entries)
    {revise : LedgerEntry → LedgerEntry}
    (revised : (revise known).state = .stopped → ledger.WasStopped (revise known))
    {entry : LedgerEntry}
    (member : entry ∈ (ledger.change known.id revise).entries)
    (stopped : entry.state = .stopped) :
    ledger.WasStopped entry := by
  obtain ⟨old, oldMember, rfl⟩ := List.mem_map.mp member
  by_cases changed : old.id = known.id
  · rw [if_pos changed, numbered.eq_of_id_eq oldMember isKnown changed] at stopped ⊢
    exact revised stopped
  · rw [if_neg changed] at stopped ⊢
    exact ⟨old, oldMember, rfl, stopped, rfl⟩

/-- No turn stops a session for good. -/
theorem Orderly.wasStopped_of_turn
    (orderly : ledger.Orderly)
    {after : Ledger}
    (turn : ledger.Turn after)
    {entry : LedgerEntry}
    (member : entry ∈ after.entries)
    (stopped : entry.state = .stopped) :
    ledger.WasStopped entry := by
  cases turn with
  | enroll root buffer vacant =>
      rcases List.mem_append.mp member with old | new
      · exact ⟨entry, old, rfl, stopped, rfl⟩
      · rw [List.mem_singleton.mp new] at stopped
        cases stopped
  | attach known isKnown buffer =>
      refine orderly.wasStopped_of_change isKnown (fun isStopped => ?_) member stopped
      exact ⟨known, isKnown, rfl, isStopped, rfl⟩
  | launch known isKnown =>
      exact ⟨entry, member, rfl, stopped, rfl⟩
  | halt known isKnown active moving =>
      refine orderly.wasStopped_of_change isKnown ?_ member stopped
      exact fun isStopped => nomatch isStopped
  | equip known isKnown starting =>
      refine orderly.wasStopped_of_change isKnown (fun isStopped => ?_) member stopped
      exact ⟨known, isKnown, rfl, isStopped, rfl⟩
  | welcome known isKnown starting equipped =>
      refine orderly.wasStopped_of_change isKnown ?_ member stopped
      exact fun isStopped => nomatch isStopped

/-- Turns lead on, and stop no session for good. -/
theorem Orderly.turns_leads
    (orderly : ledger.Orderly)
    {after : Ledger}
    (turns : ledger.Turns after) :
    after.Orderly ∧ ledger.Leads after ∧
      ∀ entry ∈ after.entries, entry.state = .stopped → ledger.WasStopped entry := by
  induction turns with
  | refl =>
      exact ⟨orderly, leads_of_entries_eq rfl,
        fun entry member stopped => ⟨entry, member, rfl, stopped, rfl⟩⟩
  | tail _ last inductionHypothesis =>
      obtain ⟨orderlyFirst, leads, wasStopped⟩ := inductionHypothesis
      refine ⟨orderlyFirst.turn last, leads.trans (orderlyFirst.turn_leads last), ?_⟩
      intro entry member stopped
      obtain ⟨middle, middleMember, sameId, middleStopped, sameCode⟩ :=
        orderlyFirst.wasStopped_of_turn last member stopped
      obtain ⟨old, oldMember, oldId, oldStopped, oldCode⟩ :=
        wasStopped middle middleMember middleStopped
      exact ⟨old, oldMember, oldId.trans sameId, oldStopped, oldCode.trans sameCode⟩

end Ledger

/-! ## Reports of exits -/

/-- The exit code that a call reports for a session. -/
def Call.exitCode? (id : Nat) : Call → Option Json
  | exited other code => if other = id then some code else none
  | _ => none

/-- The exit code that is reported first for a session. -/
def firstExitCode? (id : Nat) (calls : List Call) : Option Json :=
  calls.findSome? (Call.exitCode? id)

/-- A first report stays the first one. -/
theorem firstExitCode?_append
    (id : Nat)
    (calls : List Call)
    (call : Call) :
    firstExitCode? id (calls ++ [call]) = (firstExitCode? id calls).or (call.exitCode? id) := by
  simp [firstExitCode?, List.findSome?_append]

/-- The sessions that are stopped are those whose exit was reported, and they have the exit codes
that were reported first. -/
structure Ledger.Reported (ledger : Ledger) (calls : List Call) : Prop where
  told : ∀ entry ∈ ledger.entries, entry.state = .stopped →
    firstExitCode? entry.id calls = some entry.exitCode
  heard : ∀ id, (firstExitCode? id calls).isSome →
    ∃ entry ∈ ledger.entries, entry.id = id ∧ entry.state = .stopped

/-- A call that reports an exit code for a session reports its exit. -/
theorem exited_of_exitCode?_isSome
    {id : Nat}
    {call : Call}
    (reports : (call.exitCode? id).isSome) :
    ∃ code, call = .exited id code := by
  cases call with
  | exited other code =>
      by_cases same : other = id
      · exact ⟨code, same ▸ rfl⟩
      · simp [Call.exitCode?, same] at reports
  | _ =>
      cases reports

namespace Ledger.Reported

variable {before after : Ledger} {calls : List Call}

/-- A stopped session stays stopped when a ledger leads on. -/
theorem stillHeard
    (reported : before.Reported calls)
    (leads : before.Leads after)
    {id : Nat}
    (heard : (firstExitCode? id calls).isSome) :
    ∃ entry ∈ after.entries, entry.id = id ∧ entry.state = .stopped := by
  obtain ⟨old, oldMember, oldId, stopped⟩ := reported.heard id heard
  obtain ⟨entry, member, onward⟩ := leads old oldMember
  exact ⟨entry, member, onward.sameId.trans oldId, (onward.final stopped).1⟩

/-- The exit of a session that is not stopped has not been reported. -/
theorem unheard
    (reported : before.Reported calls)
    (numbered : before.Numbered)
    {entry : LedgerEntry}
    (member : entry ∈ before.entries)
    (present : entry.state ≠ .stopped) :
    firstExitCode? entry.id calls = none := by
  cases first : firstExitCode? entry.id calls with
  | none =>
      rfl
  | some code =>
      obtain ⟨other, otherMember, sameId, stopped⟩ := reported.heard entry.id (by simp [first])
      rw [numbered.eq_of_id_eq otherMember member sameId] at stopped
      exact (present stopped).elim

/-- A call that makes turns leaves the reports in order, if it reports no exit of a session that
is not stopped. -/
theorem turns
    (reported : before.Reported calls)
    (orderly : before.Orderly)
    (turns : before.Turns after)
    (call : Call)
    (late : ∀ id code, call = .exited id code →
      ∃ entry ∈ before.entries, entry.id = id ∧ entry.state = .stopped) :
    after.Reported (calls ++ [call]) := by
  obtain ⟨_, leads, wasStopped⟩ := orderly.turns_leads turns
  constructor
  · intro entry member stopped
    obtain ⟨old, oldMember, sameId, oldStopped, sameCode⟩ := wasStopped entry member stopped
    rw [firstExitCode?_append, ← sameId, reported.told old oldMember oldStopped, sameCode]
    rfl
  · intro id heard
    rw [firstExitCode?_append] at heard
    cases first : firstExitCode? id calls with
    | some code =>
        exact reported.stillHeard leads (by simp [first])
    | none =>
        rw [first, Option.none_or] at heard
        obtain ⟨code, same⟩ := exited_of_exitCode?_isSome heard
        obtain ⟨old, oldMember, oldId, stopped⟩ := late id code same
        obtain ⟨entry, member, onward⟩ := leads old oldMember
        exact ⟨entry, member, onward.sameId.trans oldId, (onward.final stopped).1⟩

/-- A report with which a session leaves leaves the reports in order. -/
theorem leave
    (reported : before.Reported calls)
    (orderly : before.Orderly)
    {entry : LedgerEntry}
    (known : entry ∈ before.entries)
    (present : entry.state ≠ .stopped)
    (code : Json) :
    (before.leave entry code).Reported (calls ++ [.exited entry.id code]) := by
  constructor
  · intro other member stopped
    obtain ⟨old, oldMember, rfl⟩ := List.mem_map.mp member
    rw [firstExitCode?_append]
    by_cases same : old.id = entry.id
    · rw [if_pos same, LedgerEntry.departed_id, LedgerEntry.departed_exitCode, same,
        reported.unheard orderly.toNumbered known present]
      simp [Call.exitCode?]
    · rw [if_neg same] at stopped ⊢
      rw [reported.told old oldMember stopped]
      rfl
  · intro id heard
    rw [firstExitCode?_append] at heard
    by_cases same : entry.id = id
    · exact ⟨entry.departed code, List.mem_map.mpr ⟨entry, known, by simp⟩, by simp [same], rfl⟩
    · simp only [Call.exitCode?, same, ↓reduceIte, Option.or_none] at heard
      exact reported.stillHeard (orderly.leave_leads known present code) heard

end Ledger.Reported

section

variable {around : Surroundings} {initial desk : Desk} {calls : List Call}

/-- In a run the stopped sessions are those whose exit was reported. -/
theorem ManagerRun.reported
    (new : initial.IsNew)
    (run : ManagerRun around initial calls desk) :
    desk.ledger.Reported calls := by
  induction run with
  | begin =>
      have noEntries : initial.ledger.entries = [] := by
        simp [Desk.ledger, new.vacant, Registry.empty]
      constructor
      · simp [noEntries]
      · simp [firstExitCode?]
  | call earlier call possible inductionHypothesis =>
      have orderly := earlier.orderly new
      obtain ⟨turns, late⟩ | ⟨entry, known, code, rfl, present, left⟩ :=
        ledger_call orderly.toNumbered around call
      · refine inductionHypothesis.turns orderly turns call ?_
        rintro id code rfl
        obtain ⟨entry, member, sameId⟩ := List.mem_map.mp (orderly.launchedKnown id possible)
        exact ⟨entry, member, sameId, late id code rfl entry member sameId⟩
      · rw [left]
        exact inductionHypothesis.leave orderly known present code
  | outside earlier happened inductionHypothesis =>
      have sameEntries := congrArg Ledger.entries (around.apart _ _ happened).same
      constructor
      · rw [sameEntries]
        exact inductionHypothesis.told
      · rw [sameEntries]
        exact inductionHypothesis.heard

/-- A run leads on from any desk that a manager comes to. -/
theorem ManagerRun.leads
    {later : Desk}
    {more : List Call}
    (orderly : desk.ledger.Orderly)
    (run : ManagerRun around desk more later) :
    later.ledger.Orderly ∧ desk.ledger.Leads later.ledger := by
  induction run with
  | begin =>
      exact ⟨orderly, Ledger.leads_of_entries_eq rfl⟩
  | call _ call possible inductionHypothesis =>
      obtain ⟨orderlyHere, leadsHere⟩ := inductionHypothesis
      obtain ⟨turns, _⟩ | ⟨entry, known, code, _, present, left⟩ :=
        ledger_call orderlyHere.toNumbered around call
      · obtain ⟨orderlyAfter, leads, _⟩ := orderlyHere.turns_leads turns
        exact ⟨orderlyAfter, leadsHere.trans leads⟩
      · rw [left]
        exact ⟨orderlyHere.leave known present code,
          leadsHere.trans (orderlyHere.leave_leads known present code)⟩
  | outside _ happened inductionHypothesis =>
      obtain ⟨orderlyHere, leadsHere⟩ := inductionHypothesis
      have apart := around.apart _ _ happened
      have sameEntries := congrArg Ledger.entries apart.same
      refine ⟨orderlyHere.undisturbed apart, leadsHere.trans ?_⟩
      exact Ledger.leads_of_entries_eq sameEntries

end

/-- The life of a session at a desk that a manager came to by a list of calls. -/
structure Session.LivesWell
    (session : Session)
    (around : Surroundings)
    (calls : List Call)
    (desk : Desk) : Prop where
  /-- It has gone some way through one of the two lives. -/
  way : session.trail <+: SessionState.fullLife ∨ session.trail <+: SessionState.shortLife
  /-- It is where that way has led. -/
  present : session.trail.getLast? = some session.state
  /-- It is registered from its start until it is stopped. -/
  registered : session ∈ desk.registry.registered ↔
    session.state ≠ .unstarted ∧ session.state ≠ .stopped
  /-- Its exit code is the one that was reported first. -/
  exitCode : session.exitCode = (firstExitCode? session.id calls).getD .null
  /-- It only goes on along its way, and once it is stopped it stays so, with its exit code. -/
  onward : ∀ more later, ManagerRun around desk more later → ∃ same ∈ later.registry.sessions,
    same.id = session.id ∧ session.trail <+: same.trail ∧
      (session.state = .stopped → same.state = .stopped ∧ same.exitCode = session.exitCode)

/-- Every session of a manager lives well, whatever the manager is asked and however the reports of
the transport come. -/
theorem ManagerRun.sessions_live_well
    {around : Surroundings}
    {initial desk : Desk}
    {calls : List Call}
    (new : initial.IsNew)
    (run : ManagerRun around initial calls desk) :
    ∀ session ∈ desk.registry.sessions, session.LivesWell around calls desk := by
  intro session known
  have orderly := run.orderly new
  have reported := run.reported new
  have member : session.entry ∈ desk.ledger.entries := List.mem_map_of_mem known
  have sound := orderly.sound session.entry member
  refine ⟨sound.lived.isPrefix, sound.lived.getLast?_eq, ?_, ?_, ?_⟩
  · rw [mem_registered_iff orderly known]
    exact ⟨fun still => ⟨sound.lived.ne_unstarted, still⟩, fun both => both.2⟩
  · by_cases stopped : session.state = .stopped
    · have told := reported.told session.entry member stopped
      rw [Session.entry_id] at told
      rw [told]
      rfl
    · have unheard := reported.unheard orderly.toNumbered member stopped
      rw [Session.entry_id] at unheard
      rw [unheard]
      exact sound.pending stopped
  · intro more later continued
    obtain ⟨_, leads⟩ := continued.leads orderly
    obtain ⟨entry, entryMember, onward⟩ := leads session.entry member
    obtain ⟨same, sameMember, rfl⟩ := List.mem_map.mp entryMember
    exact ⟨same, sameMember, onward.sameId, onward.onward, onward.final⟩

/-- A session that is stopped before its server is initialized, with every report made twice. -/
theorem bare_run_sessions_live_well :
    let calls : List Call := [.start [] none, .stop none, .initialized 1, .exited 1 (.nat 0),
      .initialized 1, .exited 1 (.nat 3)]
    let desk := Call.afterAll .alone .bare calls
    Desk.bare.IsNew ∧ ManagerRun .alone .bare calls desk ∧
      desk.registry.sessions.map Session.trail = [SessionState.shortLife] ∧
      ∀ session ∈ desk.registry.sessions, session.LivesWell .alone calls desk := by
  intro calls desk
  have new : Desk.bare.IsNew := ⟨rfl, rfl⟩
  have run := ManagerRun.begin.of_possible calls
    (by decide +kernel : Call.ArePossible .alone .bare calls)
  exact ⟨new, run, by decide +kernel, ManagerRun.sessions_live_well new run⟩

end AnalyzerSessions
