import AnalyzerSessions.Proofs.GroupChanges
import AnalyzerSessions.Proofs.SafeActs

namespace AnalyzerSessions

/-!
# What is done at a desk

Whatever a task does at the desk of a manager is one of a few deeds.  Most of them leave
the sessions, their groups and their auto-commands alone; some change what is known of
the server of a session; and the others are the calls of the manager itself.
-/

/-- A session without what is known of its server but its status. -/
def Session.essence (session : Session) : Session :=
  { session with pid := none, serverCapabilities := .null, offsetEncoding := .null }

/-- The sessions, the groups and the auto-commands are as they were, and so is the configuration. -/
structure Desk.LeavesSessions (before after : Desk) : Prop where
  host : before.host.KeepsGroups after.host
  registry : after.registry = before.registry
  setup : after.setup = before.setup
  nextSession : after.nextSession = before.nextSession
  /-- What was ordered may have been handed out. -/
  orders : after.orders ⊆ before.orders

theorem Desk.isWay_leavesSessions : Desk.IsWay Desk.LeavesSessions where
  refl desk := ⟨.refl desk.host, rfl, rfl, rfl, List.Subset.refl _⟩
  trans first second :=
    ⟨first.host.trans second.host, second.registry.trans first.registry,
      second.setup.trans first.setup, second.nextSession.trans first.nextSession,
      fun _ ordered => first.orders (second.orders ordered)⟩

theorem Desk.LeavesSessions.keepsGroups
    {before after : Desk}
    (leaves : before.LeavesSessions after) :
    before.KeepsGroups after where
  host := leaves.host
  sessions id := by rw [leaves.registry]
  setup := leaves.setup

namespace Host.KeepsGroups

variable {host after : Host Action}

/-- Focusing a buffer leaves the groups alone. -/
theorem ofFocus
    {number : Int}
    {focus : Bool}
    (turns : Relation.ReflTransGen Host.Turn host (after.focusOn number focus))
    (groups : after.groups = host.groups)
    (autoCommands : after.autoCommands = host.autoCommands) :
    host.KeepsGroups (after.focusOn number focus) := by
  cases focus <;> exact ⟨turns, groups, autoCommands⟩

theorem openBuffer
    {disk : Disk}
    {path : Path}
    {text : Option String}
    {focus : Bool}
    {number : Int}
    (opened : host.openBuffer disk path text focus = .ok (number, after)) :
    host.KeepsGroups after := by
  have turns : Relation.ReflTransGen Host.Turn host after := .single (.openBuffer opened)
  unfold Host.openBuffer at opened
  split at opened
  · cases opened
  · split at opened
    · cases opened
      exact ofFocus turns rfl rfl
    · split at opened
      · cases opened
      · cases opened
        exact ofFocus turns rfl rfl

theorem applyEdits
    {edits : List TextEdit}
    {number : Int}
    {encoding : Text.Encoding}
    {result : Host Action × Record}
    (applied : host.applyEdits? edits number encoding = some result) :
    host.KeepsGroups result.1 := by
  have turns : Relation.ReflTransGen Host.Turn host result.1 := .single (.applyEdits applied)
  obtain ⟨buffer, _, rfl⟩ := Option.map_eq_some_iff.mp applied
  exact ⟨turns, rfl, rfl⟩

end Host.KeepsGroups

/-- Something that is done at a desk. -/
inductive Desk.Deed (before : Desk) : Desk → Prop where
  /-- Something that does not concern sessions. -/
  | leaves {after : Desk}
      (leaves : before.LeavesSessions after) :
      Deed before after
  /-- Something about its server is noted for a session. -/
  | revise (id : Nat) {change : Session → Session}
      (same : ∀ session, (change session).essence = session.essence) :
      Deed before (Act.after (Act.modifySession id change) before)
  | start (overrides : Config.Entries Setting) (buffer : Option Int) :
      Deed before (Act.after (Act.start overrides buffer) before)
  | stop (buffer : Option Int) :
      Deed before (Act.after (Act.stop buffer) before)
  /-- The manager is told that the server of a session has exited. -/
  | part (id : Nat) (code : Json) :
      Deed before (Act.after (Act.onExit id code) before)

namespace Act

open Desk (isWay_leavesSessions)

variable {α : Type}

/-! ## Acts that do not concern sessions -/

/-- An act that leaves the sessions alone. -/
abbrev LeavesSessions (act : Act α) : Prop :=
  KeepsTo Desk.LeavesSessions act

theorem leavesSessions_modify
    {change : Desk → Desk}
    (host : ∀ desk, (change desk).host = desk.host)
    (registry : ∀ desk, (change desk).registry = desk.registry)
    (setup : ∀ desk, (change desk).setup = desk.setup)
    (nextSession : ∀ desk, (change desk).nextSession = desk.nextSession)
    (orders : ∀ desk, (change desk).orders ⊆ desk.orders) :
    LeavesSessions (modify change : Act Unit) :=
  keepsTo_modify fun desk =>
    ⟨host desk ▸ .refl desk.host, registry desk, setup desk, nextSession desk, orders desk⟩

theorem leavesSessions_note (record : Record) : LeavesSessions (note record) :=
  leavesSessions_modify (fun _ => rfl) (fun _ => rfl) (fun _ => rfl) (fun _ => rfl)
    fun _ => List.Subset.refl _

theorem leavesSessions_say
    (level : Level)
    (text : String) :
    LeavesSessions (say level text) :=
  leavesSessions_note ⟨level, text⟩

theorem leavesSessions_pure (value : α) : LeavesSessions (pure value) :=
  keepsTo_pure isWay_leavesSessions value

theorem leavesSessions_throw (failure : Failure) : LeavesSessions (throw failure : Act α) :=
  keepsTo_throw isWay_leavesSessions failure

theorem leavesSessions_ofExcept
    {ε : Type}
    (cause : ε → Failure)
    (result : Except ε α) :
    LeavesSessions (ofExcept cause result) :=
  keepsTo_ofExcept isWay_leavesSessions cause result

theorem LeavesSessions.bind
    {β : Type}
    {act : Act α}
    {next : α → Act β}
    (first : LeavesSessions act)
    (second : ∀ value, LeavesSessions (next value)) :
    LeavesSessions (act >>= next) :=
  KeepsTo.bind isWay_leavesSessions first second

theorem leavesSessions_currentBuffer : LeavesSessions currentBuffer :=
  fun desk => ⟨.currentBuffer desk.host, rfl, rfl, rfl, List.Subset.refl _⟩

theorem leavesSessions_chosenBuffer (chosen : Option Int) :
    LeavesSessions (chosenBuffer chosen) := by
  cases chosen with
  | none => exact leavesSessions_currentBuffer
  | some number => exact leavesSessions_pure number

theorem Reads.leavesSessions
    {act : Act α}
    (reads : Reads act) :
    LeavesSessions act :=
  reads.keepsTo isWay_leavesSessions

theorem LeavesSessions.recover
    {act : Act α}
    {recover : Failure → Act α}
    (tried : LeavesSessions act)
    (recovered : ∀ failure, LeavesSessions (recover failure)) :
    LeavesSessions (tryCatch act recover) := by
  intro desk
  have attempt := tried desk
  unfold after perform at attempt ⊢
  rw [run_tryCatch]
  generalize (ExceptT.run act).run desk = result at attempt ⊢
  rcases result with ⟨failure | value, mid⟩
  · exact isWay_leavesSessions.trans attempt (recovered failure mid)
  · exact attempt

theorem leavesSessions_openBuffer
    (path : Path)
    (text : Option String)
    (focus : Bool) :
    LeavesSessions (openBuffer path text focus) := by
  refine keepsTo_get fun desk => ?_
  cases opened : desk.host.openBuffer desk.disk path text focus with
  | error error =>
      exact isWay_leavesSessions.refl desk
  | ok result =>
      exact ⟨.openBuffer opened, rfl, rfl, rfl, List.Subset.refl _⟩

theorem leavesSessions_bufferForUri (uri : String) : LeavesSessions (bufferForUri uri) :=
  (leavesSessions_ofExcept _ _).bind fun _ => leavesSessions_openBuffer _ _ _

/-! ## Edits -/

theorem leavesSessions_applyToBuffer
    (edits : List TextEdit)
    (number : Int)
    (encoding : Text.Encoding) :
    LeavesSessions (applyToBuffer edits number encoding) := by
  refine keepsTo_get fun desk => ?_
  cases applied : desk.host.applyEdits? edits number encoding with
  | none =>
      exact isWay_leavesSessions.refl desk
  | some result =>
      exact ⟨.applyEdits applied, rfl, rfl, rfl, List.Subset.refl _⟩

theorem leavesSessions_applyBatches
    (encoding : Text.Encoding)
    (batches : List (String × List TextEdit)) :
    LeavesSessions (applyBatches encoding batches) := by
  have applied : ∀ edits number, LeavesSessions (applyBatch edits number encoding) := by
    intro edits number
    refine keepsTo_look fun desk => ?_
    split
    · exact leavesSessions_throw _
    · exact leavesSessions_applyToBuffer _ _ _
  induction batches with
  | nil =>
      exact leavesSessions_pure ()
  | cons batch rest inductionHypothesis =>
      exact (leavesSessions_bufferForUri _).bind fun number =>
        (applied _ _).bind fun _ => inductionHypothesis

theorem leavesSessions_answerApplyEdit
    (session : Session)
    (params : Json) :
    LeavesSessions (answerApplyEdit session params) := by
  refine LeavesSessions.recover (LeavesSessions.bind ?_ fun _ => leavesSessions_pure _)
    fun failure => ?_
  · exact (leavesSessions_ofExcept _ _).bind fun request =>
      (leavesSessions_ofExcept _ _).bind fun batches => leavesSessions_applyBatches _ _
  · split
    · exact (leavesSessions_say _ _).bind fun _ => leavesSessions_pure _
    · exact leavesSessions_throw _

/-! ## Commands -/

theorem leavesSessions_targetSession : LeavesSessions targetSession := by
  refine LeavesSessions.bind leavesSessions_currentBuffer fun number => keepsTo_look fun desk => ?_
  dsimp only
  split
  · exact leavesSessions_pure _
  · split
    · exact leavesSessions_pure _
    · exact leavesSessions_throw _

theorem leavesSessions_leafAction
    (leaf : String)
    (arguments : Nat) :
    LeavesSessions (leafAction leaf arguments) := by
  refine keepsTo_look fun desk => ?_
  split
  · exact leavesSessions_throw _
  · split
    · exact leavesSessions_pure _
    · exact leavesSessions_throw _

theorem leavesSessions_concernsManifest
    (id : Nat)
    (file : Path) :
    LeavesSessions (concernsManifest id file) := by
  have resolves : LeavesSessions (resolvePath file) :=
    keepsTo_look fun desk => leavesSessions_ofExcept _ _
  refine keepsTo_look fun desk => ?_
  split
  · exact leavesSessions_pure _
  · split
    · exact leavesSessions_pure _
    · split
      · exact leavesSessions_pure _
      · exact resolves.bind fun _ => leavesSessions_pure _

theorem leavesSessions_currentDocument? : LeavesSessions currentDocument? := by
  refine LeavesSessions.bind leavesSessions_currentBuffer fun number =>
    LeavesSessions.bind (reads_bufferName number).leavesSessions fun name => ?_
  split
  · exact leavesSessions_pure _
  · exact keepsTo_look fun desk => (leavesSessions_ofExcept _ _).bind fun uri =>
      leavesSessions_pure _

theorem leavesSessions_leafMessage
    (session : Session)
    (action : LeafAction)
    (arguments : List Json) :
    LeavesSessions (leafMessage session action arguments) := by
  have document : LeavesSessions currentDocument := by
    refine leavesSessions_currentDocument?.bind fun document => ?_
    split
    · exact leavesSessions_pure _
    · exact leavesSessions_throw _
  cases action with
  | reloadWorkspace =>
      exact (leavesSessions_say _ _).bind fun _ => leavesSessions_pure _
  | flyCheck =>
      exact leavesSessions_currentDocument?.bind fun _ => leavesSessions_pure _
  | crateGraph =>
      unfold leafMessage
      dsimp only
      split
      · exact (leavesSessions_say _ _).bind fun _ => leavesSessions_pure _
      · exact leavesSessions_pure _
  | syntaxTree =>
      exact document.bind fun _ => leavesSessions_pure _
  | openManifest =>
      exact document.bind fun _ => leavesSessions_pure _
  | runnables =>
      exact document.bind fun _ => leavesSessions_pure _
  | supplied code =>
      exact leavesSessions_pure _

end Act

end AnalyzerSessions
