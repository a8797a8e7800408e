import AnalyzerSessions.Proofs.LedgerActs
import AnalyzerSessions.Proofs.ListenerMoments
import AnalyzerSessions.Proofs.SessionReports

namespace AnalyzerSessions

/-!
# Aspects of sessions

While sessions live, some of what is known of them stays as it is: the groups that they
have on the host, or what their servers have said of themselves.  An aspect says which
part of a session is meant, and how the host may go on meanwhile.  What a manager does
with its sessions is taken apart here once for every aspect: all of it keeps an aspect,
apart from what gives a session its group and takes it away, which a free aspect allows.
-/

/-- When a session is changed that keeps its number, every session is found as it is then. -/
theorem Registry.get?_modify_any
    (registry : Registry)
    (id other : Nat)
    {change : Session → Session}
    (sameId : ∀ session, (change session).id = session.id) :
    (registry.modify id change).get? other = (registry.get? other).map fun session =>
      if session.id = id then change session else session := by
  unfold Registry.get? Registry.modify
  rw [List.find?_map]
  congr 2
  funext session
  simp only [Function.comp_apply]
  split
  · rw [sameId]
  · rfl

/-- A session that is added is found, unless another one has its number. -/
theorem Registry.get?_add
    (registry : Registry)
    (session : Session)
    (id : Nat) :
    (registry.add session).get? id =
      (registry.get? id).or (if session.id = id then some session else none) := by
  unfold Registry.get? Registry.add
  rw [List.find?_append, List.find?_singleton]
  simp only [beq_iff_eq]

/-- Registering sessions leaves them as they are. -/
theorem Registry.get?_register
    (registry : Registry)
    (id other : Nat) :
    (registry.register id).get? other = registry.get? other := by
  unfold Registry.register
  split <;> rfl

/-- A part of a session, which new sessions lack, and a way for the host to go on. -/
structure Aspect (α : Type) where
  part : Session → Option α
  host : Host Action → Host Action → Prop
  hostRefl : ∀ before, host before before
  hostTrans : ∀ {before mid after}, host before mid → host mid after → host before after
  currentBuffer : ∀ before, host before before.currentBuffer.2
  createCommand : ∀ before command, host before (before.createCommand command)
  dropCommand : ∀ before name, host before (before.dropCommand name)
  transition : ∀ session state trail, part { session with state, trail } = part session
  buffers : ∀ session buffers, part { session with buffers } = part session
  commands : ∀ session commands, part { session with commands } = part session
  exitCode : ∀ session exitCode, part { session with exitCode } = part session
  client : ∀ session client, part { session with client } = part session
  unborn : ∀ {server root desk session},
    (Act.perform (Act.newSession server root) desk).1 = .ok session → part session = none

/-- An aspect that has to do neither with the host nor with the groups of sessions. -/
structure Aspect.IsFree {α : Type} (aspect : Aspect α) : Prop where
  host : ∀ before after, aspect.host before after
  group : ∀ session group, aspect.part { session with group } = aspect.part session

/-- No part of a session is meant, so that the configuration alone is kept. -/
def Aspect.nothing : Aspect Empty where
  part _ := none
  host _ _ := True
  hostRefl _ := trivial
  hostTrans _ _ := trivial
  currentBuffer _ := trivial
  createCommand _ _ := trivial
  dropCommand _ _ := trivial
  transition _ _ _ := rfl
  buffers _ _ := rfl
  commands _ _ := rfl
  exitCode _ _ := rfl
  client _ _ := rfl
  unborn _ := rfl

theorem Aspect.isFree_nothing : Aspect.nothing.IsFree :=
  ⟨fun _ _ => trivial, fun _ _ => rfl⟩

/-- The sessions have what they had of a part, the host has gone its way, and the configuration is the
same. -/
structure Desk.KeepsAspect {α : Type} (aspect : Aspect α) (before after : Desk) : Prop where
  host : aspect.host before.host after.host
  sessions : ∀ id, (after.registry.get? id).bind aspect.part =
    (before.registry.get? id).bind aspect.part
  setup : after.setup = before.setup

theorem Desk.isWay_keepsAspect
    {α : Type}
    (aspect : Aspect α) :
    Desk.IsWay (Desk.KeepsAspect aspect) where
  refl desk := ⟨aspect.hostRefl desk.host, fun _ => rfl, rfl⟩
  trans first second :=
    ⟨aspect.hostTrans first.host second.host,
      fun id => (second.sessions id).trans (first.sessions id),
      second.setup.trans first.setup⟩

namespace Act

open Desk (isWay_keepsAspect)

variable {α β : Type} (aspect : Aspect α)

/-- An act keeps an aspect of the sessions. -/
abbrev KeepsAspect (act : Act β) : Prop :=
  KeepsTo (Desk.KeepsAspect aspect) act

theorem keepsAspect_pure (value : β) : KeepsAspect aspect (pure value) :=
  keepsTo_pure (isWay_keepsAspect aspect) value

theorem keepsAspect_ofExcept
    {ε : Type}
    (cause : ε → Failure)
    (result : Except ε β) :
    KeepsAspect aspect (ofExcept cause result) :=
  keepsTo_ofExcept (isWay_keepsAspect aspect) cause result

theorem Reads.keepsAspect
    {act : Act β}
    (reads : Reads act) :
    KeepsAspect aspect act :=
  reads.keepsTo (isWay_keepsAspect aspect)

variable {aspect}

theorem KeepsAspect.bind
    {γ : Type}
    {act : Act β}
    {next : β → Act γ}
    (first : KeepsAspect aspect act)
    (second : ∀ value, KeepsAspect aspect (next value)) :
    KeepsAspect aspect (act >>= next) :=
  KeepsTo.bind (isWay_keepsAspect aspect) first second

variable (aspect)

/-! ## Records, sessions and the host -/

/-- Neither the host nor the registry nor the configuration changes. -/
theorem keepsAspect_modify
    {change : Desk → Desk}
    (host : ∀ desk, (change desk).host = desk.host)
    (registry : ∀ desk, (change desk).registry = desk.registry)
    (setup : ∀ desk, (change desk).setup = desk.setup) :
    KeepsAspect aspect (modify change : Act Unit) :=
  keepsTo_modify fun desk =>
    ⟨host desk ▸ aspect.hostRefl desk.host, fun _ => by rw [registry desk], setup desk⟩

theorem keepsAspect_note (record : Record) : KeepsAspect aspect (note record) :=
  keepsAspect_modify aspect (fun _ => rfl) (fun _ => rfl) fun _ => rfl

theorem keepsAspect_say
    (level : Level)
    (text : String) :
    KeepsAspect aspect (say level text) :=
  keepsAspect_note aspect ⟨level, text⟩

theorem keepsAspect_order (given : Order) : KeepsAspect aspect (order given) :=
  keepsAspect_modify aspect (fun _ => rfl) (fun _ => rfl) fun _ => rfl

/-- Only the host changes. -/
theorem keepsAspect_modifyHost
    {change : Host Action → Host Action}
    (goes : ∀ host, aspect.host host (change host)) :
    KeepsAspect aspect (modify fun desk => { desk with host := change desk.host } : Act Unit) :=
  keepsTo_modify fun desk => ⟨goes desk.host, fun _ => rfl, rfl⟩

/-- A session is changed in other things than the part. -/
theorem keepsAspect_modifySession
    (id : Nat)
    {change : Session → Session}
    (sameId : ∀ session, (change session).id = session.id)
    (samePart : ∀ session, aspect.part (change session) = aspect.part session) :
    KeepsAspect aspect (modifySession id change) := by
  refine keepsTo_modify fun desk => ⟨aspect.hostRefl desk.host, fun other => ?_, rfl⟩
  show ((desk.registry.modify id change).get? other).bind aspect.part = _
  rw [desk.registry.get?_modify_any id other sameId, Option.bind_map]
  congr 1
  funext session
  simp only [Function.comp_apply]
  split
  · exact samePart session
  · rfl

theorem keepsAspect_transition
    (id : Nat)
    (state : SessionState) :
    KeepsAspect aspect (transition id state) := by
  refine keepsTo_look fun desk => ?_
  split
  · exact keepsAspect_pure aspect ()
  · exact (keepsAspect_note aspect _).bind fun _ =>
      keepsAspect_modifySession aspect id (fun _ => rfl) fun session => aspect.transition session _ _

theorem keepsAspect_tellAll
    (id : Nat)
    (more : List Json)
    (listeners : List Listener) :
    KeepsAspect aspect (tellAll id more listeners) := by
  intro desk
  have same := (perform_tellAll id more listeners desk).2.1
  rw [Desk.SameButRecords] at same
  rw [same]
  exact ⟨aspect.hostRefl desk.host, fun _ => rfl, rfl⟩

theorem keepsAspect_installTransform (transform : Transform) :
    KeepsAspect aspect (installTransform transform) := by
  intro desk
  obtain ⟨transforms, log, installed⟩ := after_installTransform transform desk
  rw [installed]
  exact ⟨aspect.hostRefl desk.host, fun _ => rfl, rfl⟩

theorem keepsAspect_chosenBuffer (chosen : Option Int) : KeepsAspect aspect (chosenBuffer chosen) := by
  cases chosen with
  | none =>
      exact fun desk => ⟨aspect.currentBuffer desk.host, fun _ => rfl, rfl⟩
  | some number =>
      exact keepsAspect_pure aspect number

/-! ## Starts and stops -/

theorem keepsAspect_newSession
    (server : Config.Entries Setting)
    (root : Option Path) :
    KeepsAspect aspect (newSession server root) := by
  unfold newSession
  repeat refine (keepsAspect_ofExcept aspect _ _).bind fun _ => ?_
  refine keepsTo_look fun desk => KeepsAspect.bind ?_ fun _ => keepsAspect_pure aspect _
  exact keepsAspect_modify aspect (fun _ => rfl) (fun _ => rfl) fun _ => rfl

theorem keepsAspect_register (session : Session) : KeepsAspect aspect (register session) := by
  intro desk
  unfold register
  rw [after_get_bind]
  have listed : desk.KeepsAspect aspect { desk with registry := desk.registry.register session.id } :=
    ⟨aspect.hostRefl desk.host, fun id => by rw [Registry.get?_register], rfl⟩
  refine (isWay_keepsAspect aspect).trans listed ?_
  dsimp only
  rw [after_modify_bind]
  split
  · exact keepsAspect_note aspect _ _
  · exact (isWay_keepsAspect aspect).refl _

/-- A session that lacks the part is entered. -/
theorem keepsAspect_enlist
    {session : Session}
    (lacking : aspect.part session = none) :
    KeepsAspect aspect (enlist session) := by
  have added : KeepsAspect aspect
      (modify fun desk => { desk with registry := desk.registry.add session } : Act Unit) := by
    refine keepsTo_modify fun desk => ⟨aspect.hostRefl desk.host, fun id => ?_, rfl⟩
    dsimp only
    rw [Registry.get?_add]
    cases desk.registry.get? id with
    | some known =>
        rfl
    | none =>
        simp only [Option.none_or, Option.bind_none]
        split
        · exact lacking
        · rfl
  exact added.bind fun _ => (keepsAspect_register aspect session).bind fun _ =>
    keepsAspect_transition aspect _ _

theorem Aspect.attach
    (session : Session)
    (number : Int) :
    aspect.part (session.attach number) = aspect.part session ∧
      (session.attach number).id = session.id := by
  unfold Session.attach
  split
  · exact ⟨rfl, rfl⟩
  · exact ⟨aspect.buffers session _, rfl⟩

theorem keepsAspect_launch
    (server : Config.Entries Setting)
    (root : Option Path)
    (number : Int) :
    KeepsAspect aspect (launch server root number) := by
  intro desk
  apply after_bind_of fun left => desk.KeepsAspect aspect left
  · intro _ _
    exact keepsAspect_newSession aspect server root desk
  · intro fresh gave
    refine (isWay_keepsAspect aspect).trans (keepsAspect_newSession aspect server root desk) ?_
    have lacking : aspect.part (fresh.attach number) = none :=
      (Aspect.attach aspect fresh number).1.trans (aspect.unborn gave)
    exact KeepsAspect.bind (keepsAspect_enlist aspect lacking) (fun _ =>
      (Reads.keepsAspect aspect (reads_joinWords _)).bind fun _ => (keepsAspect_say aspect _ _).bind fun _ =>
        (keepsAspect_order aspect _).bind fun _ => keepsAspect_pure aspect _) _

theorem keepsAspect_startAt
    (server : Config.Entries Setting)
    (root : Option Path)
    (number : Int) :
    KeepsAspect aspect (startAt server root number) := by
  refine keepsTo_look fun desk => ?_
  split
  · refine KeepsAspect.bind ?_ fun _ => (keepsAspect_say aspect _ _).bind fun _ => keepsAspect_pure aspect _
    exact keepsAspect_modifySession aspect _ (fun current => (Aspect.attach aspect current number).2)
      fun current => (Aspect.attach aspect current number).1
  · exact keepsAspect_launch aspect server root number

/-- A start keeps an aspect when finding a root does. -/
theorem keepsAspect_startWith
    {resolve : Path → Act (Option Path)}
    (resolves : ∀ path, KeepsAspect aspect (resolve path))
    (overrides : Config.Entries Setting)
    (buffer : Option Int) :
    KeepsAspect aspect (startWith resolve overrides buffer) :=
  keepsTo_startWith_of (isWay_keepsAspect aspect) (keepsAspect_say aspect)
    (keepsAspect_chosenBuffer aspect) resolves (keepsAspect_startAt aspect) overrides buffer

theorem keepsAspect_resolveRoot (path : Path) : KeepsAspect aspect (resolveRoot path) :=
  keepsTo_resolveRoot_of (fun desk _ _ => ⟨aspect.hostRefl desk.host, fun _ => rfl, rfl⟩) path

theorem keepsAspect_stop (buffer : Option Int) : KeepsAspect aspect (stop buffer) :=
  keepsTo_stop_of (isWay_keepsAspect aspect) (keepsAspect_say aspect)
    (keepsAspect_chosenBuffer aspect) (fun id => keepsAspect_transition aspect id .stopping)
    (keepsAspect_order aspect) buffer

/-! ## Parts of a report -/

/-- One thing after the other is done to the host. -/
theorem Aspect.foldl
    {γ : Type}
    {change : Host Action → γ → Host Action}
    (goes : ∀ host value, aspect.host host (change host value))
    (values : List γ)
    (host : Host Action) :
    aspect.host host (values.foldl change host) := by
  induction values generalizing host with
  | nil =>
      exact aspect.hostRefl host
  | cons value rest inductionHypothesis =>
      exact aspect.hostTrans (goes host value) (inductionHypothesis (change host value))

theorem keepsAspect_equip (id : Nat) : KeepsAspect aspect (equip id) := by
  refine keepsTo_look fun desk => KeepsAspect.bind ?_ fun _ =>
    keepsAspect_modifySession aspect id (fun _ => rfl) fun session => aspect.commands session _
  exact keepsAspect_modifyHost aspect (Aspect.foldl aspect (fun host _ => aspect.createCommand host _) _)

theorem keepsAspect_beginRunning (session : Session) : KeepsAspect aspect (beginRunning session) :=
  (keepsAspect_transition aspect _ _).bind fun _ => (keepsAspect_transition aspect _ _).bind fun _ =>
    keepsTo_look fun _ => (keepsAspect_say aspect _ _).bind fun _ => keepsAspect_tellAll aspect _ _ _

theorem keepsAspect_removeCommands (session : Session) : KeepsAspect aspect (removeCommands session) := by
  have withdrawn : KeepsAspect aspect (withdrawCommands session) := by
    refine keepsTo_look fun desk => ?_
    dsimp only
    split
    · exact keepsAspect_modifyHost aspect
        (Aspect.foldl aspect (fun host name => aspect.dropCommand host name) _)
    · exact keepsAspect_say aspect _ _
  unfold removeCommands
  split
  · exact withdrawn.bind fun _ =>
      keepsAspect_modifySession aspect _ (fun _ => rfl) fun current => aspect.commands current _
  · exact keepsAspect_pure aspect ()

theorem keepsAspect_unregister (session : Session) : KeepsAspect aspect (unregister session) := by
  intro desk
  unfold unregister
  rw [after_get_bind]
  have unlisted : desk.KeepsAspect aspect
      { desk with registry := desk.registry.unregister session.id } :=
    ⟨aspect.hostRefl desk.host, fun _ => rfl, rfl⟩
  refine (isWay_keepsAspect aspect).trans unlisted ?_
  dsimp only
  rw [after_modify_bind]
  split
  · exact keepsAspect_note aspect _ _
  · exact (isWay_keepsAspect aspect).refl _

theorem keepsAspect_conclude
    (session : Session)
    (code : Json) :
    KeepsAspect aspect (conclude session code) := by
  have begun : KeepsAspect aspect (beginStopping session) := by
    unfold beginStopping
    split
    · exact keepsAspect_transition aspect _ _
    · exact keepsAspect_pure aspect ()
  have coded : KeepsAspect aspect
      (modifySession session.id fun current => { current with exitCode := code }) :=
    keepsAspect_modifySession aspect _ (fun _ => rfl) fun current => aspect.exitCode current _
  have detached : KeepsAspect aspect
      (modifySession session.id fun current => { current with client := none }) :=
    keepsAspect_modifySession aspect _ (fun _ => rfl) fun current => aspect.client current _
  exact coded.bind fun _ => begun.bind fun _ => (keepsAspect_transition aspect _ _).bind fun _ =>
    (keepsAspect_unregister aspect session).bind fun _ => detached

/-! ## Reports -/

variable {aspect} (free : aspect.IsFree)

include free

/-- Only the host changes, in any way. -/
theorem keepsAspect_setHost (host : Host Action) : KeepsAspect aspect (setHost host) :=
  keepsTo_modify fun desk => ⟨free.host desk.host host, fun _ => rfl, rfl⟩

theorem keepsAspect_offerReload (id : Nat) : KeepsAspect aspect (offerReload id) := by
  have created : KeepsAspect aspect (createReload id) := by
    refine keepsTo_look fun desk => ?_
    rcases desk.host.createGroup (groupName id) true with ⟨group, grouped⟩
    refine (keepsAspect_setHost free grouped).bind fun _ => ?_
    refine (keepsAspect_ofExcept aspect _ _).bind fun made => ?_
    exact (keepsAspect_setHost free _).bind fun _ =>
      keepsAspect_modifySession aspect id (fun _ => rfl) fun session => free.group session _
  refine keepsTo_look fun desk => (keepsAspect_ofExcept aspect _ _).bind fun reloads => ?_
  split
  · exact created
  · exact keepsAspect_pure aspect ()

theorem keepsAspect_onInit (id : Nat) : KeepsAspect aspect (onInit id) := by
  refine keepsTo_look fun desk => ?_
  split
  · exact keepsAspect_pure aspect ()
  · split
    · exact (keepsAspect_installTransform aspect _).bind fun _ => (keepsAspect_equip aspect _).bind fun _ =>
        (keepsAspect_offerReload free _).bind fun _ => keepsAspect_beginRunning aspect _
    · exact keepsAspect_say aspect _ _

theorem keepsAspect_removeGroup (session : Session) : KeepsAspect aspect (removeGroup session) := by
  have forgotten : KeepsAspect aspect
      (modifySession session.id fun current => { current with group := none }) :=
    keepsAspect_modifySession aspect _ (fun _ => rfl) fun current => free.group current _
  unfold removeGroup
  split
  · exact keepsAspect_pure aspect ()
  · refine keepsTo_look fun desk => ?_
    split
    · exact (keepsAspect_setHost free _).bind fun _ => forgotten
    · exact (keepsAspect_say aspect _ _).bind fun _ => forgotten

theorem keepsAspect_onExit
    (id : Nat)
    (code : Json) :
    KeepsAspect aspect (onExit id code) := by
  refine keepsTo_look fun desk => ?_
  split
  · exact keepsAspect_pure aspect ()
  · split
    · exact keepsAspect_pure aspect ()
    · exact (keepsAspect_installTransform aspect _).bind fun _ =>
        (keepsAspect_removeCommands aspect _).bind fun _ => (keepsAspect_removeGroup free _).bind fun _ =>
          (keepsAspect_conclude aspect _ _).bind fun _ => (keepsAspect_say aspect _ _).bind fun _ =>
            keepsAspect_tellAll aspect _ _ _

end Act

end AnalyzerSessions
