import AnalyzerSessions.Proofs.ArmedDesks
import AnalyzerSessions.Proofs.ManagerRuns
import AnalyzerSessions.Proofs.StartWays

namespace AnalyzerSessions

/-!
# Connected sessions

A transport connects a session with its server before it reports that the server is
initialized.  No manager looks whether it did: that a running session is connected is kept by
what comes before it runs and by what ends it.
-/

/-- A running session is connected with its server. -/
def Session.IsConnected (session : Session) : Prop :=
  session.state = .running → session.client.isSome

/-- A session that does not run need not be connected. -/
theorem Session.isConnected_of_ne_running
    {session : Session}
    (notRunning : session.state ≠ .running) :
    session.IsConnected :=
  fun runs => (notRunning runs).elim

/-- All running sessions of a registry are connected. -/
def Registry.IsConnected (registry : Registry) : Prop :=
  ∀ session ∈ registry.sessions, session.IsConnected

/-- Running sessions that were connected are connected. -/
def Desk.StaysConnected (before after : Desk) : Prop :=
  before.registry.IsConnected → after.registry.IsConnected

theorem Desk.isWay_staysConnected : Desk.IsWay Desk.StaysConnected where
  refl _ := id
  trans first second := second ∘ first

theorem Desk.staysConnected_of_sessions
    {before after : Desk}
    (same : after.registry.sessions = before.registry.sessions) :
    before.StaysConnected after := by
  intro connected session member
  rw [same] at member
  exact connected session member

namespace Act

/-- Sessions are changed in a way that leaves them connected. -/
theorem staysConnected_modifySession
    (id : Nat)
    {change : Session → Session}
    (connects : ∀ session : Session, session.IsConnected → (change session).IsConnected) :
    KeepsTo Desk.StaysConnected (modifySession id change) := by
  refine keepsTo_modify fun desk connected session member => ?_
  obtain ⟨old, wasThere, rfl⟩ := List.mem_map.mp member
  split
  · exact connects old (connected old wasThere)
  · exact connected old wasThere

end Act

/-- Sessions that start and stop are left connected: the states that they go on to are none in which
they run. -/
theorem Desk.allowsStarts_staysConnected : Desk.AllowsStarts Desk.StaysConnected where
  toIsWay := isWay_staysConnected
  spares same := staysConnected_of_sessions same.sessions
  attach desk id number := by
    refine Act.staysConnected_modifySession id (fun session connected => ?_) desk
    unfold Session.attach
    split
    · exact connected
    · exact connected
  enter desk id state early := by
    have notRunning : state ≠ .running := by
      rcases early with rfl | rfl <;> nofun
    exact Act.staysConnected_modifySession id (fun session _ =>
      (Session.isConnected_of_ne_running notRunning :
        (session.transition state).1.IsConnected)) desk
  add desk session unstarted _ connected other member := by
    rcases List.mem_append.mp member with old | new
    · exact connected other old
    · rw [List.mem_singleton.mp new]
      exact Session.isConnected_of_ne_running (by rw [unstarted]; nofun)

/-! ## Reports -/

namespace Desk

variable {before after : Desk} {id : Nat}

/-- All running sessions stay connected when at most one session changes and that one is
connected. -/
theorem ChangesOne.connected
    {α : Type}
    {part : Session → Option α}
    (changes : before.ChangesOne id part after)
    (numbered : after.ledger.Numbered)
    (connected : before.registry.IsConnected)
    (isConnected : ∀ session, after.registry.get? id = some session → session.IsConnected) :
    after.registry.IsConnected := by
  intro session member
  have found := Act.get?_eq_some numbered member
  by_cases same : session.id = id
  · exact isConnected session (same ▸ found)
  · rw [changes.others session.id same] at found
    exact connected session (List.mem_of_find?_eq_some found)

end Desk

/-! ## Runs -/

/-- What happens around a manager takes no connection away from a session that runs. -/
structure Surroundings.SpareConnections (around : Surroundings) : Prop where
  resolve : ∀ path, Act.KeepsTo Desk.StaysConnected (around.resolve path)
  outside : ∀ before after, around.outside before after → before.StaysConnected after

/-- The transport has connected a session when it reports that its server is initialized. -/
def Call.IsConnected (desk : Desk) : Call → Prop
  | .initialized id => ((desk.registry.get? id).bind Session.client).isSome
  | _ => True

/-- The desks that a manager may come to with a transport that connects sessions first. -/
inductive ConnectedRun (around : Surroundings) (initial : Desk) : List Call → Desk → Prop where
  | begin :
      ConnectedRun around initial [] initial
  | call
      {calls : List Call}
      {desk : Desk}
      (earlier : ConnectedRun around initial calls desk)
      (call : Call)
      (possible : call.IsPossible desk)
      (connected : call.IsConnected desk) :
      ConnectedRun around initial (calls ++ [call]) (call.after around desk)
  | outside
      {calls : List Call}
      {desk other : Desk}
      (earlier : ConnectedRun around initial calls desk)
      (happened : around.outside desk other) :
      ConnectedRun around initial calls other

section

variable {around : Surroundings} {initial desk : Desk} {calls : List Call}

theorem ConnectedRun.managed
    (run : ConnectedRun around initial calls desk) :
    ManagerRun around initial calls desk := by
  induction run with
  | begin => exact .begin
  | call _ call possible _ inductionHypothesis => exact inductionHypothesis.call call possible
  | outside _ happened inductionHypothesis => exact inductionHypothesis.outside happened

/-- A call leaves all running sessions connected. -/
theorem Call.keeps_connected
    {call : Call}
    (spare : around.SpareConnections)
    (numbered : desk.ledger.Numbered)
    (numberedAfter : (call.after around desk).ledger.Numbered)
    (isConnected : call.IsConnected desk)
    (connected : desk.registry.IsConnected) :
    (call.after around desk).registry.IsConnected := by
  cases call with
  | start overrides buffer =>
      exact Act.keepsTo_startWith Desk.allowsStarts_staysConnected spare.resolve overrides buffer desk
        connected
  | stop buffer =>
      exact Act.keepsTo_stop Desk.allowsStarts_staysConnected buffer desk connected
  | initialized id =>
      have changes := Act.changesOne_onInit id desk
      refine changes.connected numberedAfter connected fun session found _ => ?_
      have isClient : session.client = (desk.registry.get? id).bind Session.client :=
        (congrArg (Option.bind · Session.client) found).symm.trans changes.part
      rw [isClient]
      exact isConnected
  | exited id code =>
      refine (Act.changesOne_onExit id code desk).connected numberedAfter connected ?_
      intro session found
      refine Session.isConnected_of_ne_running ?_
      rw [Act.stopped_of_onExit numbered found]
      nofun

/-- Every running session is connected when the transport connects sessions first. -/
theorem ConnectedRun.isConnected
    (new : initial.IsNew)
    (spare : around.SpareConnections)
    (run : ConnectedRun around initial calls desk) :
    desk.registry.IsConnected := by
  induction run with
  | begin =>
      intro session member
      rw [new.vacant] at member
      cases member
  | call earlier call possible isConnected inductionHypothesis =>
      have numbered := (earlier.managed.orderly new).toNumbered
      have numberedAfter := ((earlier.managed.call call possible).orderly new).toNumbered
      exact call.keeps_connected spare numbered numberedAfter isConnected inductionHypothesis
  | outside earlier happened inductionHypothesis =>
      exact spare.outside _ _ happened inductionHypothesis

end

end AnalyzerSessions
