import AnalyzerSessions.Proofs.StationEdits

namespace AnalyzerSessions

/-!
# Flags and edits

Edits leave the flags of a station as they are, with three exceptions: the start of a
session is settled, a server has nothing left to do when its status says so, and whoever
begins to wait for a flag does so with a new promise.
-/

namespace Station

variable {scope : Scope} {known : Nat} {before after station : Station} {session : Nat}
  {signpost : Signpost}

/-! ## Flags after a change -/

theorem flag_congr
    (runs : after.runs = before.runs)
    (signpost : Signpost) :
    after.flag signpost = before.flag signpost := by
  cases signpost <;> simp only [flag, client?, run?, runs]

theorem flag_settled
    (station : Station)
    (session : Nat) :
    station.flag (.settled session) =
      ((station.run? session).map Run.settled).getD .lowered :=
  rfl

theorem flag_quiescent
    (station : Station)
    (session : Nat) :
    station.flag (.quiescent session) =
      ((station.client? session).map Client.quiescent).getD .lowered :=
  rfl

theorem settledFlag_modifyRun
    (station : Station)
    (chosen session : Nat)
    {change : Run → Run}
    (sameSession : ∀ run, (change run).session = run.session) :
    (station.modifyRun chosen change).flag (.settled session) =
      ((station.run? session).map fun run =>
        if session = chosen then (change run).settled else run.settled).getD .lowered := by
  rw [flag_settled, run?_modifyRun _ _ _ sameSession, Option.map_map]
  congr 2
  funext run
  simp only [Function.comp]
  split <;> rfl

theorem quiescentFlag_modifyClient
    (station : Station)
    (chosen session : Nat)
    (change : Client → Client) :
    (station.modifyClient chosen change).flag (.quiescent session) =
      ((station.client? session).map fun client =>
        if session = chosen then (change client).quiescent else client.quiescent).getD .lowered := by
  rw [flag_quiescent, client?_modifyClient, Option.map_map]
  congr 2
  funext client
  simp only [Function.comp]
  split <;> rfl

/-- A change of a run that keeps its flag and its client keeps all flags. -/
theorem flag_modifyRun
    (station : Station)
    (chosen : Nat)
    {change : Run → Run}
    (sameSession : ∀ run, (change run).session = run.session)
    (sameFlag : ∀ run, (change run).settled = run.settled)
    (sameClient : ∀ run, (change run).client = run.client)
    (signpost : Signpost) :
    (station.modifyRun chosen change).flag signpost = station.flag signpost := by
  cases signpost with
  | settled session =>
      rw [settledFlag_modifyRun _ _ _ sameSession]
      simp only [sameFlag, ite_self]
      rfl
  | quiescent session =>
      have sameClients : (station.modifyRun chosen change).client? session =
          station.client? session := by
        rw [client?_modifyRun _ _ _ sameSession]
        simp only [sameClient, ite_self]
        rfl
      rw [flag_quiescent, sameClients]
      rfl

/-- A change of a client keeps the flags of the starts of all sessions. -/
theorem settledFlag_modifyClient
    (station : Station)
    (chosen session : Nat)
    (change : Client → Client) :
    (station.modifyClient chosen change).flag (.settled session) =
      station.flag (.settled session) := by
  unfold modifyClient
  rw [settledFlag_modifyRun]
  · simp only [ite_self]
    rfl
  · exact fun _ => rfl

/-- A change of a client that keeps its flag keeps all flags. -/
theorem flag_modifyClient
    (station : Station)
    (chosen : Nat)
    {change : Client → Client}
    (sameFlag : ∀ client, (change client).quiescent = client.quiescent)
    (signpost : Signpost) :
    (station.modifyClient chosen change).flag signpost = station.flag signpost := by
  cases signpost with
  | settled session =>
      exact settledFlag_modifyClient station chosen session change
  | quiescent session =>
      rw [quiescentFlag_modifyClient]
      simp only [sameFlag, ite_self]
      rfl

/-- Another flag stays as it is when a flag is changed. -/
theorem flag_setFlag_of_ne
    {other : Signpost}
    (different : other ≠ signpost)
    (flag : Flag) :
    (station.setFlag signpost flag).flag other = station.flag other := by
  cases signpost with
  | settled session =>
      cases other with
      | settled given =>
          have apart : given ≠ session := fun same => different (congrArg _ same)
          show (station.modifyRun session _).flag _ = _
          rw [settledFlag_modifyRun]
          · simp only [apart, if_false]
            rfl
          · exact fun _ => rfl
      | quiescent given =>
          have sameClients : (station.modifyRun session fun run =>
              { run with settled := flag }).client? given = station.client? given := by
            rw [client?_modifyRun]
            · simp only [ite_self]
              rfl
            · exact fun _ => rfl
          show (((station.modifyRun session _).client? given).map _).getD _ = _
          rw [sameClients]
          rfl
  | quiescent session =>
      cases other with
      | settled given =>
          exact settledFlag_modifyClient station session given _
      | quiescent given =>
          have apart : given ≠ session := fun same => different (congrArg _ same)
          show (station.modifyClient session _).flag _ = _
          rw [quiescentFlag_modifyClient]
          simp only [apart, if_false]
          rfl

/-- A flag that is changed is what it was changed to, unless it is not there. -/
theorem flag_setFlag_self
    (station : Station)
    (signpost : Signpost)
    (flag : Flag) :
    (station.setFlag signpost flag).flag signpost = flag ∨
      (station.setFlag signpost flag).flag signpost = station.flag signpost := by
  cases signpost with
  | settled session =>
      have sameSession : ∀ run : Run, ({ run with settled := flag } : Run).session = run.session :=
        fun _ => rfl
      have changed : (station.setFlag (.settled session) flag).flag (.settled session) = _ :=
        station.settledFlag_modifyRun session session sameSession
      rw [changed, flag_settled]
      cases station.run? session with
      | none => exact .inr rfl
      | some run => exact .inl (by simp)
  | quiescent session =>
      have changed : (station.setFlag (.quiescent session) flag).flag (.quiescent session) = _ :=
        station.quiescentFlag_modifyClient session session _
      rw [changed, flag_quiescent]
      cases station.client? session with
      | none => exact .inr rfl
      | some client => exact .inl (by simp)

/-! ## Flags after an edit -/

/-- Flags have come from others: only some of them may have been raised, and whoever waits for one
waited before or does so with a new promise. -/
structure FlagsFollow
    (known : Nat)
    (mayRise : Signpost → Prop)
    (before after : Station) : Prop where
  waiters : ∀ signpost promise, promise < known →
    promise ∈ (after.flag signpost).waiters → promise ∈ (before.flag signpost).waiters
  isSet : ∀ signpost, (after.flag signpost).isSet = true →
    (before.flag signpost).isSet = true ∨ mayRise signpost

variable {mayRise : Signpost → Prop}

theorem flagsFollow_of_eq
    (same : ∀ signpost, after.flag signpost = before.flag signpost) :
    FlagsFollow known mayRise before after where
  waiters signpost _ _ waits := same signpost ▸ waits
  isSet signpost raised := .inl (same signpost ▸ raised)

theorem flagsFollow_of_lowered
    (same : ∀ signpost, after.flag signpost = before.flag signpost ∨
      after.flag signpost = .lowered) :
    FlagsFollow known mayRise before after where
  waiters signpost promise _ waits := by
    rcases same signpost with kept | lowered
    · exact kept ▸ waits
    · rw [lowered] at waits
      cases waits
  isSet signpost raised := by
    rcases same signpost with kept | lowered
    · exact .inl (kept ▸ raised)
    · rw [lowered] at raised
      cases raised

theorem flagsFollow_setFlag
    {flag : Flag}
    (waiters : ∀ promise, promise < known → promise ∈ flag.waiters →
      promise ∈ (station.flag signpost).waiters)
    (isSet : flag.isSet = true → (station.flag signpost).isSet = true ∨ mayRise signpost) :
    FlagsFollow known mayRise station (station.setFlag signpost flag) := by
  refine ⟨fun other promise isOld waits => ?_, fun other raised => ?_⟩
  · by_cases same : other = signpost
    · subst same
      rcases flag_setFlag_self station other flag with changed | kept
      · exact waiters promise isOld (changed ▸ waits)
      · exact kept ▸ waits
    · rwa [flag_setFlag_of_ne same] at waits
  · by_cases same : other = signpost
    · subst same
      rcases flag_setFlag_self station other flag with changed | kept
      · exact isSet (changed ▸ raised)
      · exact .inl (kept ▸ raised)
    · rw [flag_setFlag_of_ne same] at raised
      exact .inl raised

theorem flagsFollow_raise
    (rises : mayRise signpost) :
    FlagsFollow known mayRise station (station.raise signpost) := by
  have followed : FlagsFollow known mayRise station (station.setFlag signpost ⟨true, []⟩) :=
    flagsFollow_setFlag (fun _ _ => nofun) fun _ => .inr rises
  have same : ∀ other, (station.raise signpost).flag other =
      (station.setFlag signpost ⟨true, []⟩).flag other :=
    flag_congr rfl
  exact ⟨fun other promise isOld waits => followed.waiters other promise isOld (same other ▸ waits),
    fun other raised => followed.isSet other (same other ▸ raised)⟩

/-- The flags that may be raised at a station: those of starts, and those of servers whose status says
that they are quiet. -/
inductive MayRise (station : Station) : Signpost → Prop where
  | settled {session : Nat} :
      MayRise station (.settled session)
  | quiescent {session : Nat}
      (quiet : Move.isSettledStatus ((station.session? session).bind Session.status) = true) :
      MayRise station (.quiescent session)

theorem flagsFollow_seat
    (session number : Nat)
    {process : ServerProcess}
    {client : Client}
    (lowered : client.quiescent = .lowered) :
    FlagsFollow known mayRise station (station.seat session number process client) := by
  refine flagsFollow_of_lowered fun signpost => ?_
  cases signpost with
  | settled other =>
      have sameSession : ∀ run : Run,
          ({ run with client := some client, isAttached := true } : Run).session = run.session :=
        fun _ => rfl
      have changed : (station.seat session number process client).flag (.settled other) = _ :=
        station.settledFlag_modifyRun session other sameSession
      refine .inl (changed.trans ?_)
      simp only [ite_self]
      rfl
  | quiescent other =>
      rw [flag_quiescent, flag_quiescent, client?_seat]
      unfold client?
      cases station.run? other with
      | none =>
          exact .inl rfl
      | some run =>
          by_cases same : other = session
          · exact .inr (by simp [same, lowered])
          · exact .inl (by simp [same])

theorem flagsFollow_enlist
    {run : Run}
    (lowered : run.settled = .lowered)
    (noClient : run.client = none) :
    FlagsFollow known mayRise station { station with runs := station.runs ++ [run] } := by
  refine flagsFollow_of_lowered fun signpost => ?_
  cases signpost with
  | settled session =>
      rw [flag_settled, flag_settled]
      unfold run?
      dsimp only
      rw [List.find?_append]
      cases station.runs.find? fun run => run.session == session with
      | some old =>
          exact .inl rfl
      | none =>
          rw [Option.none_or, List.find?_singleton]
          split
          · exact .inr lowered
          · exact .inl rfl
  | quiescent session =>
      rw [flag_quiescent, client?_enterRun _ noClient]
      exact .inl rfl

/-- The flags after an edit. -/
theorem EditWithin.flags (edit : before.EditWithin scope known after) :
    FlagsFollow known before.MayRise before after := by
  have sameRuns : after.runs = before.runs → FlagsFollow known before.MayRise before after :=
    fun runs => flagsFollow_of_eq (flag_congr runs)
  cases edit with
  | output number change => exact sameRuns (agrees_changeOutput _ _ _).runs
  | errors number change => exact sameRuns (agrees_changeErrors _ _ _).runs
  | exit number code => exact sameRuns (agrees_exitProcess _ _ _).runs
  | seat number starts ignores silent lowered => exact flagsFollow_seat _ number lowered
  | enlist session task => exact flagsFollow_enlist rfl rfl
  | run session sameSession sameFlag sameClient =>
      exact flagsFollow_of_eq (flag_modifyRun before session sameSession sameFlag sameClient)
  | client session pending sameFlag =>
      exact flagsFollow_of_eq (flag_modifyClient before session sameFlag)
  | @issue session promise number told =>
      have sameFlag : ∀ client : Client, (client.enter promise).quiescent = client.quiescent :=
        fun _ => rfl
      exact flagsFollow_of_eq fun signpost =>
        (flag_congr rfl signpost).trans (flag_modifyClient before session sameFlag signpost)
  | settled session => exact flagsFollow_raise .settled
  | calm quiet => exact flagsFollow_raise (.quiescent quiet)
  | stir restless => exact flagsFollow_setFlag (fun _ _ => id) nofun
  | await signpost isNew =>
      refine flagsFollow_setFlag (fun promise isOld waits => ?_) .inl
      rcases List.mem_append.mp waits with old | new
      · exact old
      · cases List.mem_singleton.mp new
        exact absurd isNew (Nat.not_le_of_lt isOld)
  | _ => exact sameRuns rfl

end Station

end AnalyzerSessions
