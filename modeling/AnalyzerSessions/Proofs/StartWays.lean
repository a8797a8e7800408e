import AnalyzerSessions.Proofs.LedgerActs
import AnalyzerSessions.Proofs.SessionStarts

namespace AnalyzerSessions

/-!
# Ways of starts and stops

Starting and stopping does little to the sessions that are there: they take on buffers, and
they go on to the states in which they start and stop.  Besides, new ones are entered that
have been in no other state.  Every start and every stop keeps to a way that allows this
much, whatever it comes to.
-/

/-- The sessions and the installed transforms are as they were. -/
structure Desk.SparesSessions (before after : Desk) : Prop where
  sessions : after.registry.sessions = before.registry.sessions
  transforms : after.transforms = before.transforms

/-- A way that starts and stops may go. -/
structure Desk.AllowsStarts (way : Desk → Desk → Prop) : Prop extends Desk.IsWay way where
  spares : ∀ {before after}, before.SparesSessions after → way before after
  attach : ∀ desk id number, way desk
    { desk with registry := desk.registry.modify id fun session => session.attach number }
  enter : ∀ desk id state, state = .starting ∨ state = .stopping → way desk
    { desk with registry := desk.registry.modify id fun session => (session.transition state).1 }
  add : ∀ desk session, session.state = .unstarted → session.trail = [.unstarted] → way desk
    { desk with registry := desk.registry.add session }

namespace Act

variable {α : Type} {way : Desk → Desk → Prop}

section

variable (allows : Desk.AllowsStarts way)

include allows

theorem keepsTo_note (record : Record) : KeepsTo way (note record) :=
  fun _ => allows.spares ⟨rfl, rfl⟩

theorem keepsTo_say
    (level : Level)
    (text : String) :
    KeepsTo way (say level text) :=
  keepsTo_note allows ⟨level, text⟩

theorem keepsTo_order (given : Order) : KeepsTo way (order given) :=
  fun _ => allows.spares ⟨rfl, rfl⟩

theorem keepsTo_chosenBuffer (buffer : Option Int) : KeepsTo way (chosenBuffer buffer) := by
  cases buffer with
  | none => exact fun _ => allows.spares ⟨rfl, rfl⟩
  | some number => exact keepsTo_pure allows.toIsWay number

/-- A session goes on to a state in which it starts or stops. -/
theorem keepsTo_transition
    (id : Nat)
    {state : SessionState}
    (early : state = .starting ∨ state = .stopping) :
    KeepsTo way (transition id state) := by
  refine keepsTo_look fun desk => ?_
  split
  · exact keepsTo_pure allows.toIsWay ()
  · exact (keepsTo_note allows _).bind allows.toIsWay fun _ =>
      keepsTo_modify fun desk => allows.enter desk id state early

theorem keepsTo_stop (buffer : Option Int) : KeepsTo way (stop buffer) :=
  keepsTo_stop_of allows.toIsWay (keepsTo_say allows) (keepsTo_chosenBuffer allows)
    (fun _ => keepsTo_transition allows _ (.inr rfl)) (keepsTo_order allows) buffer

/-! ## Starts -/

theorem keepsTo_register (session : Session) : KeepsTo way (register session) := by
  refine keepsTo_get fun desk => ?_
  dsimp only
  rw [after_modify_bind]
  have same : (desk.registry.register session.id).sessions = desk.registry.sessions := by
    unfold Registry.register
    split <;> rfl
  have registered : way desk { desk with registry := desk.registry.register session.id } :=
    allows.spares ⟨same, rfl⟩
  refine allows.trans registered ?_
  split
  · exact keepsTo_note allows _ _
  · exact allows.refl _

/-- A session is entered that has been in no other state. -/
theorem keepsTo_enlist
    {session : Session}
    (unstarted : session.state = .unstarted)
    (untried : session.trail = [.unstarted]) :
    KeepsTo way (enlist session) :=
  KeepsTo.bind allows.toIsWay
    (keepsTo_modify fun desk => allows.add desk session unstarted untried) fun _ =>
      (keepsTo_register allows session).bind allows.toIsWay fun _ =>
        keepsTo_transition allows _ (.inl rfl)

theorem keepsTo_launch
    (server : Config.Entries Setting)
    (root : Option Path)
    (number : Int) :
    KeepsTo way (launch server root number) := by
  intro desk
  unfold launch
  obtain ⟨failure, refused⟩ | ⟨fresh, made, isFresh⟩ := perform_newSession server root desk
  · unfold after
    rw [perform_bind, refused]
    exact allows.refl desk
  · have attached := entry_attach fresh number
    rw [isFresh] at attached
    have unstarted : (fresh.attach number).state = .unstarted :=
      congrArg LedgerEntry.state attached
    have untried : (fresh.attach number).trail = [.unstarted] :=
      congrArg LedgerEntry.trail attached
    have counts : after (newSession server root) desk =
        { desk with nextSession := desk.nextSession + 1 } :=
      congrArg Prod.snd made
    rw [after_bind_of_ok (congrArg Prod.fst made), counts]
    have counted : way desk { desk with nextSession := desk.nextSession + 1 } :=
      allows.spares ⟨rfl, rfl⟩
    refine allows.trans counted ?_
    exact (keepsTo_enlist allows unstarted untried).bind allows.toIsWay (fun _ =>
      ((reads_joinWords _).keepsTo allows.toIsWay).bind allows.toIsWay fun _ =>
        (keepsTo_say allows _ _).bind allows.toIsWay fun _ =>
          (keepsTo_order allows _).bind allows.toIsWay fun _ =>
            keepsTo_pure allows.toIsWay _) _

theorem keepsTo_startAt
    (server : Config.Entries Setting)
    (root : Option Path)
    (number : Int) :
    KeepsTo way (startAt server root number) := by
  refine keepsTo_look fun desk => ?_
  split
  · exact KeepsTo.bind allows.toIsWay (keepsTo_modify fun desk => allows.attach desk _ number)
      fun _ => (keepsTo_say allows _ _).bind allows.toIsWay fun _ => keepsTo_pure allows.toIsWay _
  · exact keepsTo_launch allows server root number

/-- A start keeps to the way when finding a root does. -/
theorem keepsTo_startWith
    {resolve : Path → Act (Option Path)}
    (finds : ∀ path, KeepsTo way (resolve path))
    (overrides : Config.Entries Setting)
    (buffer : Option Int) :
    KeepsTo way (startWith resolve overrides buffer) :=
  keepsTo_startWith_of allows.toIsWay (keepsTo_say allows) (keepsTo_chosenBuffer allows) finds
    (keepsTo_startAt allows) overrides buffer

/-- Finding a root keeps to the way. -/
theorem keepsTo_resolveRoot (path : Path) : KeepsTo way (resolveRoot path) :=
  keepsTo_resolveRoot_of (fun _ _ _ => allows.spares ⟨rfl, rfl⟩) path

end

end Act

end AnalyzerSessions
