import AnalyzerSessions.Proofs.RunEnds

namespace AnalyzerSessions

/-!
# Stops of clients

A stop asks the server to shut down and to exit, waits, terminates it, and kills it in
the end.  Each of its moves leads to another one, or ends the stop, and then its
outcome is on record.  By then the server has exited or was sent a signal, unless the
stop failed in a way that it does not expect.
-/

namespace Occurrence

/-- The outcome of a stop of the client of a session. -/
def stopFor? (session : Nat) : Occurrence → Option Outcome
  | stopped other outcome => if other = session then some outcome else none
  | _ => none

/-- A stop whose outcome is found is on record. -/
theorem mem_of_stopFor?
    {chronicle : List Occurrence}
    {session : Nat}
    {outcome : Outcome}
    (found : outcome ∈ chronicle.filterMap (stopFor? session)) :
    .stopped session outcome ∈ chronicle := by
  obtain ⟨occurrence, member, isOutcome⟩ := List.mem_filterMap.mp found
  cases occurrence with
  | stopped other known =>
      obtain ⟨rfl, rfl⟩ : other = session ∧ known = outcome := by
        simpa [stopFor?] using isOutcome
      exact member
  | _ =>
      cases isOutcome

end Occurrence

/-- A frame of the stop of a client. -/
inductive Frame.Stops (session : Nat) : Frame → Prop where
  | shutDown : Stops session (.shutDown session)
  | grace : Stops session (.grace session)
  | lastGrace : Stops session (.lastGrace session)

namespace Move

variable {hand : List Token} {station : Station}

/-- A move of a stop goes on in a frame of the stop, or it ends the stop with an outcome that is on
record. -/
inductive Concludes (session : Nat) (move : Move Next) (station : Station) : Prop where
  | goesOn {next : Next} {frame : Frame} {after : Station}
      (made : make move station = (next.into frame, after))
      (isOfStop : frame.Stops session)
  | ends {outcome : Outcome} {after : Station}
      (made : make move station = (.give outcome, after))
      (recorded : .stopped session outcome ∈ after.chronicle)

/-- Ending a stop puts its outcome on record. -/
theorem concludes_endStop
    (session : Nat)
    (outcome : Outcome)
    (station : Station) :
    Concludes session (endStop session outcome) station :=
  .ends rfl (List.mem_append_right _ (List.mem_singleton_self _))

/-- A stop goes on in a frame of it. -/
theorem concludes_into
    {session : Nat}
    {frame : Frame}
    (isOfStop : frame.Stops session)
    (move : Move Next)
    (station : Station) :
    Concludes session (into move frame) station :=
  .goesOn (make_into move frame station) isOfStop

/-- A move that never fails goes before a move of a stop. -/
theorem Keeps.then_concludes
    {α : Type}
    {session : Nat}
    {move : Move α}
    {next : α → Move Next}
    {gives : α → Station → Prop}
    (first : Keeps hand station move gives fun _ => False)
    (second : ∀ value mid, Comes hand station mid → gives value mid →
      Concludes session (next value) mid) :
    Concludes session (move >>= next) station := by
  obtain ⟨value, mid, comes, given, same⟩ := first.make_bind next
  cases second value mid comes given with
  | goesOn made isOfStop =>
      exact .goesOn (same.trans made) isOfStop
  | ends made recorded =>
      exact .ends (same.trans made) recorded

/-- Waiting until a server has exited ends a stop, or goes on with it. -/
theorem concludes_awaitDeparture
    {session : Nat}
    (sound : station.Sound hand)
    (present : station.HasClient session) :
    Concludes session (awaitDeparture session) station := by
  refine (keeps_client_of sound present).then_concludes fun client mid comes _ => ?_
  refine (keeps_serverHasExited comes.sound session).then_concludes fun exited after _ _ => ?_
  split
  · exact concludes_endStop session .done after
  · exact concludes_into .grace _ after

/-- A stop begins with one of its moves. -/
theorem concludes_stopClient
    {session : Nat}
    (sound : station.Sound hand)
    (present : station.HasClient session) :
    Concludes session (stopClient session) station := by
  refine (keeps_client_of sound present).then_concludes ?_
  rintro client mid comes ⟨rfl, _⟩
  refine (keeps_serverHasExited comes.sound session).then_concludes ?_
  rintro exited after later ⟨rfl, _⟩
  split
  · exact concludes_into .shutDown _ after
  · exact concludes_awaitDeparture later.sound present

/-- After the shutdown a stop goes on or ends. -/
theorem concludes_leaveShutdown
    {session : Nat}
    (sound : station.Sound hand)
    (present : station.HasClient session)
    (failed : Option Failure) :
    Concludes session (leaveShutdown session failed) station := by
  cases failed with
  | none =>
      exact concludes_awaitDeparture sound present
  | some failure =>
      dsimp only [leaveShutdown]
      split
      · exact (keeps_say sound _ _).then_concludes fun _ mid comes _ =>
          concludes_awaitDeparture comes.sound (comes.onward.hasClient present)
      · exact concludes_endStop session _ station

/-- Each frame of a stop goes on with it or ends it, whatever it is told. -/
theorem concludes_resume
    {session : Nat}
    {frame : Frame}
    (sound : station.Sound hand)
    (present : station.HasClient session)
    (isOfStop : frame.Stops session)
    (outcome : Outcome) :
    Concludes session (resume frame outcome) station := by
  have signalled : ∀ sent (next : Unit → Move Next),
      (∀ mid, Concludes session (next ()) mid) →
        Concludes session (signal session sent >>= next) station := by
    intro sent next later
    obtain ⟨client, found⟩ := present
    exact (keeps_signal sound ⟨client, found, rfl⟩ sent).then_concludes fun _ mid _ _ => later mid
  cases isOfStop with
  | shutDown =>
      show Concludes session (afterShutdown session outcome) station
      unfold afterShutdown
      split
      · exact (keeps_askToExit sound session).then_concludes fun failed mid comes _ =>
          concludes_leaveShutdown comes.sound (comes.onward.hasClient present) failed
      · exact concludes_leaveShutdown sound present _
  | grace =>
      show Concludes session (afterGrace session outcome) station
      unfold afterGrace
      split
      · exact concludes_endStop session _ station
      · refine (keeps_client_of sound present).then_concludes ?_
        rintro client mid _ ⟨rfl, _⟩
        exact signalled .terminate _ fun after => concludes_into .lastGrace _ after
      · exact concludes_endStop session _ station
  | lastGrace =>
      show Concludes session (afterLastGrace session outcome) station
      unfold afterLastGrace
      split
      · exact concludes_endStop session _ station
      · exact signalled .kill _ fun after => concludes_endStop session _ after
      · exact concludes_endStop session _ station

end Move

namespace Station

/-- An attended station where the client was stopped and its server had to be terminated. -/
def terminated : Station :=
  (attended.complete (.stopClient 1)).2

/-- Stopping the client of an attended station is a run. -/
theorem terminated_run : StationRun attended terminated :=
  StationRun.begin.complete trivial id

/-- An answer to the handshake that is accepted. -/
def acceptedAnswer : Json :=
  .obj [("jsonrpc", .str "2.0"), ("id", .int 1), ("result", .obj [])]

/-- A vacant station where a session was started and its server was accepted. -/
def accepted : Station :=
  ((launched .bare []).doServerAct 1 (.send (Wire.frame acceptedAnswer))).settle

/-- The acceptance of a server is part of a run. -/
theorem accepted_run : StationRun (vacant .bare []) accepted :=
  ((launched_run .bare []).next (.server 1 (.send (Wire.frame acceptedAnswer)))).settle

/-- A message with a body that is no value. -/
def malformedBytes : List UInt8 :=
  Wire.asciiBytes (Wire.header 1 ++ ['x'])

/-- An accepted server answers with something malformed when its client is stopped. -/
def interrupted : Station :=
  ((accepted.undertake (.stopClient 1)).2.doServerAct 1 (.send malformedBytes)).settle

/-- The interruption of a stop is part of a run. -/
theorem interrupted_run : StationRun (vacant .bare []) interrupted := by
  have begun : StationRun (vacant .bare []) (accepted.undertake (.stopClient 1)).2 :=
    accepted_run.undertake trivial id
  exact (begun.next (.server 1 (.send malformedBytes))).settle

end Station

namespace Station

/-- Every stop that is over has brought its server down, or failed in a way that it does not expect,
and no stop comes to an end that is not on record. -/
structure ConcludesStops (station : Station) : Prop where
  down : ∀ session outcome, .stopped session outcome ∈ station.chronicle →
    station.HasStopped session outcome
  begun : ∀ session, station.HasClient session →
    Move.Concludes session (Move.begin (.stopClient session)) station
  resumed : ∀ session frame outcome, station.HasClient session → frame.Stops session →
    Move.Concludes session (Move.resume frame outcome) station

end Station

namespace StationRun

variable {initial station : Station}

/-- When a stop is over the server has exited, or it was sent a signal, unless the stop failed in a
way that it does not expect. -/
theorem stops_bring_servers_down
    (isNew : initial.IsNew)
    (reached : StationRun initial station) :
    station.ConcludesStops := by
  have sound := (reached.poised isNew).1.toSound
  exact ⟨sound.tale.stops, fun session present => Move.concludes_stopClient sound present,
    fun session frame outcome present isOfStop =>
      Move.concludes_resume sound present isOfStop outcome⟩

/-- A server that does not exit when its client stops is terminated. -/
theorem silent_server_is_terminated :
    Station.attended.IsNew ∧ StationRun Station.attended Station.terminated ∧
      (.stopped 1 .done ∈ Station.terminated.chronicle ∧
        (Station.terminated.process? 1).map ServerProcess.received = some [.terminate]) ∧
      Station.terminated.ConcludesStops :=
  ⟨Station.isNew_attended, Station.terminated_run, by decide +kernel,
    Station.terminated_run.stops_bring_servers_down Station.isNew_attended⟩

/-- Not every stop brings the server down: one that is answered with something malformed ends while
the server is there and has been sent no signal. -/
theorem interrupted_stop_leaves_the_server :
    ¬∀ station, StationRun (Station.vacant .bare []) station →
      ∀ session process outcome,
        .spawned session process ∈ station.chronicle →
        .stopped session outcome ∈ station.chronicle →
          (∃ code, station.HasExited process code) ∨ station.WasSignalled process := by
  intro down
  have spawned : .spawned 1 1 ∈ Station.interrupted.chronicle := by decide +kernel
  have someStop : Station.interrupted.chronicle.filterMap (Occurrence.stopFor? 1) ≠ [] := by
    decide +kernel
  have untouched : (Station.interrupted.process? 1).map
      (fun process => (process.exitCode, process.received)) = some (none, []) := by
    decide +kernel
  obtain ⟨outcome, isOutcome⟩ := List.exists_mem_of_ne_nil _ someStop
  rcases down _ Station.interrupted_run 1 1 outcome spawned (Occurrence.mem_of_stopFor? isOutcome)
    with ⟨code, process, found, exited⟩ | ⟨process, found, received⟩
  · rw [found, Option.map_some, exited] at untouched
    cases untouched
  · rw [found, Option.map_some] at untouched
    exact received (congrArg Prod.snd (Option.some.inj untouched))

end StationRun

end AnalyzerSessions
