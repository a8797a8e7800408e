import AnalyzerSessions.Proofs.StationRuns

namespace AnalyzerSessions

/-!
# Ends of runs

Each run has one token, which is spent when the manager is told that the session is
over, or when the run is forsaken.  So the manager is told at most once, and it has
been told when the task of the run is finished, unless the run was forsaken: it was
cancelled before its first turn, or there was no home directory to look up programs
in.  By the time when the manager is told the server has exited with the code that
it is told, with two exceptions where no code is told.  A run that was cancelled when
its server had just exited, or again while the server was being killed, does not wait
for the code.  And a run that fails otherwise than a start is expected to fail leaves
its server to itself.
-/

deriving instance DecidableEq for Occurrence

namespace Occurrence

/-- The exit code with which the manager was told that a session is over. -/
def codeFor? (session : Nat) : Occurrence → Option Json
  | parted other code _ => if other = session then some code else none
  | _ => none

/-- The failure for which the run of a session was forsaken. -/
def giveUpFor? (session : Nat) : Occurrence → Option Failure
  | forsaken other failure => if other = session then some failure else none
  | _ => none

end Occurrence

namespace Station

/-- The exit codes with which the manager was told that a session is over, in order. -/
def farewells (station : Station) (session : Nat) : List Json :=
  station.chronicle.filterMap (Occurrence.codeFor? session)

/-- The failures for which the run of a session was forsaken, in order. -/
def giveUps (station : Station) (session : Nat) : List Failure :=
  station.chronicle.filterMap (Occurrence.giveUpFor? session)

variable {station : Station}

/-- No token is spent twice. -/
theorem Sound.count_spent_le_one
    {hand : List Token}
    (sound : station.Sound hand)
    (token : Token) :
    station.spent.count token ≤ 1 := by
  have sublist : station.spent.Sublist (hand ++ (station.held ++ station.spent)) :=
    (List.sublist_append_right _ _).trans (List.sublist_append_right _ _)
  exact List.nodup_iff_count_le_one.mp (sound.nodup.sublist sublist) token

/-- A farewell is on record. -/
theorem mem_farewells
    {session : Nat}
    {code : Json} :
    code ∈ station.farewells session ↔
      ∃ outcome, .parted session code outcome ∈ station.chronicle := by
  refine ⟨fun isCode => ?_, fun ⟨outcome, member⟩ => ?_⟩
  · obtain ⟨occurrence, member, told⟩ := List.mem_filterMap.mp isCode
    cases occurrence with
    | parted other known outcome =>
        obtain ⟨rfl, rfl⟩ : other = session ∧ known = code := by
          simpa [Occurrence.codeFor?] using told
        exact ⟨outcome, member⟩
    | _ =>
        cases told
  · exact List.mem_filterMap.mpr ⟨_, member, by simp [Occurrence.codeFor?]⟩

/-- The run of a session whose task is finished has come to its end. -/
theorem Sound.isOver
    {hand : List Token}
    {run : Run}
    {task : Nat}
    (sound : station.Sound hand)
    (member : run ∈ station.runs)
    (isTask : run.task = some task)
    (finished : station.loop.isSettled task = true) :
    station.IsOver run.session := by
  obtain ⟨outcome, settled⟩ := Option.isSome_iff_exists.mp finished
  exact sound.loop.outcomes ((sound.runs.each run member).task task isTask) settled

/-- A session was started at a vacant station, and its server has exited. -/
def exited (code : Int) : Station :=
  ((launched .bare []).doServerAct 1 (.exit code)).settle

/-- A session was started at a vacant station, and its run was cancelled while its server was there. -/
def dropped : Station :=
  ((launched .bare []).modifyLoop fun loop => loop.cancel 0).settle

/-- The cancellation of a run is part of a run. -/
theorem dropped_run : StationRun (vacant .bare []) dropped :=
  ((launched_run .bare []).next (.cancel 0)).settle

/-- An answer to the handshake with capabilities that are no object. -/
def malformedAnswer : Json :=
  .obj [("jsonrpc", .str "2.0"), ("id", .int 1), ("result", .obj [("capabilities", .int 5)])]

/-- A session was started at a vacant station, and its server has sent a malformed answer to the
handshake. -/
def refused : Station :=
  ((launched .bare []).doServerAct 1 (.send (Wire.frame malformedAnswer))).settle

/-- The malformed answer of a server is part of a run. -/
theorem refused_run : StationRun (vacant .bare []) refused :=
  ((launched_run .bare []).next (.server 1 (.send (Wire.frame malformedAnswer)))).settle

end Station

namespace StationRun

variable {initial station : Station}

/-- Nor does a run that finds no home directory to look up programs in. -/
theorem homeless_run_tells_nobody :
    StationRun (Station.vacant .homeless []) (Station.launched .homeless []) ∧
      (Station.launched .homeless []).loop.isSettled 0 = true ∧
      (Station.launched .homeless []).farewells 1 = [] ∧
      (Station.launched .homeless []).giveUps 1 = [.load .noHome] :=
  ⟨Station.launched_run .homeless [], by decide +kernel⟩

/-! ## Servers -/

/-- By the time when the manager is told that a session is over, the server that was started for it
has exited with the code that the manager is told.  Only a run that was cancelled tells no code of a
server that has exited or was killed, and only a run that failed neither by a cancellation nor as a
start is expected to fail leaves its server to itself. -/
theorem reaps_servers
    (isNew : initial.IsNew)
    (reached : StationRun initial station) :
    ∀ session process code outcome,
      .spawned session process ∈ station.chronicle →
      .parted session code outcome ∈ station.chronicle →
        station.PartsWith process code outcome := by
  intro session process code outcome spawned parted
  have tale := (reached.poised isNew).1.toSound.tale
  exact (tale.partings _ _ _ parted).parts process (tale.starts _ _ spawned)

/-- The server of a run that is cancelled is killed, and gone when the manager is told its code. -/
theorem dropped_server_is_reaped :
    (Station.vacant .bare []).IsNew ∧
      StationRun (Station.vacant .bare []) Station.dropped ∧
      (.spawned 1 1 ∈ Station.dropped.chronicle ∧
        .parted 1 (.int (-9)) .cancelled ∈ Station.dropped.chronicle) ∧
      ∀ session process code outcome,
        .spawned session process ∈ Station.dropped.chronicle →
        .parted session code outcome ∈ Station.dropped.chronicle →
          Station.dropped.PartsWith process code outcome :=
  ⟨Station.isNew_vacant .bare [], Station.dropped_run, by decide +kernel,
    Station.dropped_run.reaps_servers (Station.isNew_vacant .bare [])⟩

/-- Not every server is reaped: one whose answer to the handshake is not accepted is still there when
the manager is told that its session is over. -/
theorem refused_server_outlives_its_session :
    ¬∀ station, StationRun (Station.vacant .bare []) station →
      ∀ session process code outcome,
        .spawned session process ∈ station.chronicle →
        .parted session code outcome ∈ station.chronicle →
          ∃ exitCode, station.HasExited process exitCode := by
  intro reaped
  have spawned : .spawned 1 1 ∈ Station.refused.chronicle := by decide +kernel
  have told : .null ∈ Station.refused.farewells 1 := by decide +kernel
  have stillThere : (Station.refused.process? 1).map ServerProcess.exitCode = some none := by
    decide +kernel
  obtain ⟨outcome, parted⟩ := Station.mem_farewells.mp told
  obtain ⟨exitCode, process, found, exited⟩ :=
    reaped _ Station.refused_run 1 1 .null outcome spawned parted
  rw [found, Option.map_some, exited] at stillThere
  cases stillThere

end StationRun

end AnalyzerSessions
