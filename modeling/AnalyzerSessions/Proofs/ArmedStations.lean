import AnalyzerSessions.Proofs.ArmedDesks
import AnalyzerSessions.Proofs.ReadySessions
import AnalyzerSessions.Proofs.ReloadTriggers

namespace AnalyzerSessions

/-!
# Armed stations

Where nobody else touches the groups of sessions, the desk of a station is armed at all
times: whatever tasks and servers do, the saving of a manifest finds one auto-command for
every session that runs.
-/

namespace Station

variable {scope : Scope} {known : Nat} {base before after station : Station}

/-- An edit leaves the desk armed. -/
theorem EditWithin.armed
    (edit : before.EditWithin scope known after)
    (informed : before.Informed)
    (isArmed : before.desk.IsArmed) :
    after.desk.IsArmed := by
  have numbered := informed.orderly.toNumbered
  have sameDesk : after.desk = before.desk → after.desk.IsArmed := fun same => same ▸ isArmed
  cases edit with
  | desk deed => exact deed.armed isArmed numbered
  | welcome present => exact isArmed.welcomed numbered _
  | heard hears arrived owns named handled => exact isArmed.noteStatus numbered _ _
  | output number change => exact sameDesk (agrees_changeOutput _ _ _).desk
  | errors number change => exact sameDesk (agrees_changeErrors _ _ _).desk
  | exit number code => exact sameDesk (agrees_exitProcess _ _ _).desk
  | await signpost isNew => cases signpost <;> exact sameDesk rfl
  | _ => exact sameDesk rfl

theorem ReworkedWithin.armed
    (reworked : base.ReworkedWithin scope known station)
    (informed : base.Informed)
    (isArmed : base.desk.IsArmed) :
    station.desk.IsArmed := by
  have edits := reworked.edits
  clear reworked
  have both : station.Informed ∧ station.desk.IsArmed := by
    induction edits with
    | refl => exact ⟨informed, isArmed⟩
    | tail _ edit inductionHypothesis =>
        exact ⟨edit.informed inductionHypothesis.1,
          edit.armed inductionHypothesis.1 inductionHypothesis.2⟩
  exact both.2

theorem EvolvesWithin.armed
    (evolves : base.EvolvesWithin scope after)
    (informed : base.Informed)
    (isArmed : base.desk.IsArmed) :
    after.desk.IsArmed := by
  cases evolves with
  | edited reworked => exact reworked.armed informed isArmed
  | closed reworked session => exact reworked.armed informed isArmed

theorem desk_follow
    (station : Station)
    (task : Nat)
    (rest : List Frame)
    (next : Next) :
    (station.follow task rest next).desk = station.desk :=
  rfl

/-- A step leaves the desk armed. -/
theorem Attentive.armed_step
    (attentive : station.Attentive)
    (poised : station.Poised)
    (isArmed : station.desk.IsArmed) :
    station.step.desk.IsArmed := by
  cases running : station.loop.running with
  | none =>
      rwa [Station.step, running]
  | some known =>
      obtain ⟨task, outcome⟩ := known
      cases isTop : station.loop.frames task with
      | nil =>
          rw [Station.step, running]
          dsimp only [Station.goOn]
          rwa [isTop]
      | cons frame rest =>
          obtain ⟨turns, _⟩ := poised.turns running isTop
          rw [turns.step, desk_follow]
          exact (attentive.stepEvolves poised _ _ _ _ running isTop).armed
            (attentive.toInformed.withLoop _) isArmed

/-- Something that happens at a station when sessions are managed and nobody else touches their groups. -/
abbrev Tends (before after : Station) : Prop :=
  before.AdvancesAmong Desk.SparesTriggers after

/-- Whatever happens when nobody else touches the groups of sessions leaves the desk armed. -/
theorem Attentive.armed_tends
    (attentive : station.Attentive)
    (poised : station.Poised)
    (isArmed : station.desk.IsArmed)
    (tends : station.Tends after) :
    after.desk.IsArmed := by
  have held : station.Reworked station.loop.promises.length station :=
    reworked_refl (Nat.le_refl _) poised.toSound.answersFit
  have edited : station.Reworked station.loop.promises.length after → after.desk.IsArmed :=
    fun reworked => reworked.armed attentive.toInformed isArmed
  cases tends with
  | step =>
      exact attentive.armed_step poised isArmed
  | start overrides buffer =>
      exact edited (Move.reworks_atDesk held fun _ => .start overrides buffer).1
  | stop buffer =>
      exact edited (Move.reworks_atDesk held fun _ => .stop buffer).1
  | outside registry ledger spared =>
      exact ⟨isArmed.toHoldsTriggers.spared spared, registry ▸ isArmed.armed,
        spared.setup ▸ isArmed.builtIn⟩
  | server number act =>
      exact edited (reworked_doServerAct held number act)
  | job admitted ordinary free managed =>
      exact isArmed
  | clock time =>
      exact isArmed
  | timer seconds =>
      exact isArmed
  | tidy =>
      exact isArmed

/-- A station where nothing has happened, and nothing stands in the way of triggers. -/
structure IsUntouched (station : Station) : Prop extends station.IsNew where
  newDesk : station.desk.IsNew
  untriggered : station.desk.IsUntriggered
  builtIn : findLeaf? station.desk.setup.actions reloadLeaf = some .reloadWorkspace

theorem IsUntouched.noSessions
    (untouched : station.IsUntouched) :
    station.desk.ledger.entries = [] := by
  show station.desk.registry.sessions.map _ = []
  rw [untouched.newDesk.vacant]
  rfl

theorem IsUntouched.armed
    (untouched : station.IsUntouched) :
    station.desk.IsArmed := by
  refine ⟨(untouched.untriggered.holds untouched.newDesk).1, fun id session found => ?_,
    untouched.builtIn⟩
  rw [untouched.newDesk.vacant] at found
  cases found

/-- How a station stands at all times when sessions are managed and nobody else touches their groups. -/
structure InOrder (station : Station) : Prop extends station.Attentive where
  poised : station.Poised
  mannered : station.Mannered []
  isArmed : station.desk.IsArmed

end Station

/-- A station that has come from another one while sessions were managed and nobody else touched their
groups. -/
inductive TendedRun (initial : Station) : Station → Prop where
  | begin :
      TendedRun initial initial
  | next {station after : Station}
      (earlier : TendedRun initial station)
      (tended : station.Tends after) :
      TendedRun initial after

namespace TendedRun

variable {initial station : Station}

theorem ordinary (run : TendedRun initial station) : OrdinaryRun initial station := by
  induction run with
  | begin => exact .begin
  | next _ tended inductionHypothesis => exact inductionHypothesis.next tended.advances

/-- Every station of such a run is in order. -/
theorem inOrder
    (untouched : initial.IsUntouched)
    (run : TendedRun initial station) :
    station.InOrder := by
  have attentive := run.ordinary.attentive untouched.toIsNew untouched.noSessions
  obtain ⟨poised, courteous⟩ :=
    run.ordinary.managed.courteous untouched.toIsNew untouched.noSessions
  refine ⟨attentive, poised, courteous.toMannered, ?_⟩
  clear attentive poised courteous
  induction run with
  | begin =>
      exact untouched.armed
  | next earlier tended inductionHypothesis =>
      have attentive := earlier.ordinary.attentive untouched.toIsNew untouched.noSessions
      obtain ⟨poised, _⟩ :=
        earlier.ordinary.managed.courteous untouched.toIsNew untouched.noSessions
      exact attentive.armed_tends poised inductionHypothesis tended

end TendedRun

end AnalyzerSessions
