import AnalyzerSessions.Proofs.FlagEdits
import AnalyzerSessions.Proofs.SessionAspects
import AnalyzerSessions.Proofs.SessionLives
import AnalyzerSessions.Proofs.StationRuns

namespace AnalyzerSessions

/-!
# Informed stations

A station is informed when what it knows of its servers was said by them: a status that
says that a server is quiet has arrived, and the flag of a quiet server is set only when it
has, or when the client was closed.  Edits keep a station informed.
-/

/-!
## Statuses that were heard

What a manager knows of the status of a server is what the server has said in a message
that arrived: nothing else sets the status of a session, and new sessions have none.  So
the flag of a quiet server is set only after the server has said that it is quiet, or
when its client was closed.  This holds however a station is edited.
-/

/-- The server of a session has said that it has nothing left to do and that it is well enough. -/
def HasReported (chronicle : List Occurrence) (session : Nat) : Prop :=
  ∃ message status, .arrived session message ∈ chronicle ∧
    message.get? "method" = some (.str "experimental/serverStatus") ∧
    Schema.check "ServerStatus" ServerStatus.read (Act.presentParams (message.getD "params")) =
      .ok status ∧
    status.quiescent = true ∧ status.health ≠ .error

theorem HasReported.mono
    {before after : List Occurrence}
    {session : Nat}
    (reported : HasReported before session)
    (grows : before ⊆ after) :
    HasReported after session := by
  obtain ⟨message, status, arrived, said⟩ := reported
  exact ⟨message, status, grows arrived, said⟩

/-- Whoever waits for a quiet server may go on: the server has said so, or its client was closed. -/
def MayPass (chronicle : List Occurrence) (session : Nat) : Prop :=
  HasReported chronicle session ∨ .hungUp session none ∈ chronicle

theorem MayPass.mono
    {before after : List Occurrence}
    {session : Nat}
    (passes : MayPass before session)
    (grows : before ⊆ after) :
    MayPass after session :=
  passes.imp (fun reported => reported.mono grows) fun hungUp => grows hungUp

/-! ## Handlers of statuses -/

/-- A handler that takes note of statuses but stands elsewhere than at the method of statuses. -/
def Handler.isStray : Json × Handler → Bool
  | (method, .status) => decide (method ≠ .str "experimental/serverStatus")
  | _ => false

/-- The first handler of statuses of a session that stands elsewhere. -/
def Session.strayHandler? (session : Session) : Option (Json × Handler) :=
  List.find? Handler.isStray session.handlers

/-- An entry of a table in which a key was given a value was there, or it has this value. -/
theorem Keyed.mem_insert
    {α : Type}
    {key : Json}
    {value : α}
    {table : Keyed α}
    {entry : Json × α}
    (member : entry ∈ table.insert key value) :
    entry ∈ table ∨ entry.2 = value := by
  induction table with
  | nil =>
      cases List.mem_singleton.mp member
      exact .inr rfl
  | cons top rest inductionHypothesis =>
      unfold Keyed.insert at member
      split at member
      · rcases List.mem_cons.mp member with rfl | later
        · exact .inr rfl
        · exact .inl (List.mem_cons_of_mem _ later)
      · rcases List.mem_cons.mp member with rfl | later
        · exact .inl List.mem_cons_self
        · exact (inductionHypothesis later).imp_left (List.mem_cons_of_mem _)

/-- What the settings say of handlers takes note of no statuses. -/
theorem Handler.isStray_handlerOf
    (method : Json)
    (tree : Config.Tree Setting) :
    Handler.isStray (method, ServerSettings.handlerOf tree) = false := by
  unfold ServerSettings.handlerOf
  split <;> rfl

theorem ServerSettings.isStray_handlers
    {server : Config.Entries Setting}
    {table : Keyed Handler}
    (read : handlers server = .ok table) :
    List.find? Handler.isStray table = none := by
  have standard : ∀ entry ∈ standardHandlers, Handler.isStray entry = false := by
    decide
  have added : ∀ (given : Keyed (Config.Tree Setting)) (done : Keyed Handler),
      (∀ entry ∈ done, Handler.isStray entry = false) →
        ∀ entry ∈ given.foldl (fun done entry => done.insert entry.1 (handlerOf entry.2)) done,
          Handler.isStray entry = false := by
    intro given
    induction given with
    | nil =>
        exact fun _ sound => sound
    | cons top rest inductionHypothesis =>
        refine fun done sound => inductionHypothesis _ fun entry member => ?_
        rcases Keyed.mem_insert member with old | same
        · exact sound entry old
        · obtain ⟨method, handler⟩ := entry
          cases same
          exact Handler.isStray_handlerOf method top.2
  rw [List.find?_eq_none]
  intro entry member
  rw [Bool.not_eq_true]
  unfold handlers at read
  split at read
  · cases read
    exact standard entry member
  · rename_i tree _
    cases isGiven : given tree with
    | error misuse =>
        rw [isGiven] at read
        cases read
    | ok pairs =>
        rw [isGiven] at read
        cases read
        exact added pairs standardHandlers standard entry member

/-- A handler of statuses that does not stray stands at the method of statuses. -/
theorem Session.eq_of_handler?_status
    {session : Session}
    {method : Json}
    (strayless : session.strayHandler? = none)
    (handled : session.handler? method = some .status) :
    method = .str "experimental/serverStatus" := by
  obtain ⟨⟨key, handler⟩, found, rfl⟩ := Option.map_eq_some_iff.mp handled
  have isThere := List.mem_of_find?_eq_some found
  have keeps := List.find?_eq_none.mp strayless _ isThere
  have isKey : key = .str "experimental/serverStatus" := by
    simpa [Handler.isStray] using keeps
  have same := List.find?_some found
  subst isKey
  have isMethod : (Json.str "experimental/serverStatus" == method) = true := same
  exact (beq_iff_eq.mp isMethod).symm

/-! ## What is done at a desk -/

/-- A new session has no handler of statuses but the one at the method of statuses. -/
theorem Act.strayHandler?_newSession
    {server : Config.Entries Setting}
    {root : Option Path}
    {desk : Desk}
    {session : Session}
    (gave : (perform (newSession server root) desk).1 = .ok session) :
    session.strayHandler? = none := by
  unfold newSession at gave
  obtain ⟨handlers, read, same⟩ := ok_of_bind gave
  rw [same] at gave
  clear same
  have strayless : List.find? Handler.isStray handlers = none := by
    cases isRead : ServerSettings.handlers server with
    | error misuse =>
        rw [isRead] at read
        cases read
    | ok table =>
        rw [isRead] at read
        cases read
        exact ServerSettings.isStray_handlers isRead
  repeat
    obtain ⟨_, _, same⟩ := ok_of_bind gave
    rw [same] at gave
    clear same
  cases gave
  exact strayless

/-- What the servers of sessions have said of themselves. -/
def Aspect.statuses : Aspect ServerStatus where
  part := Session.status
  host _ _ := True
  hostRefl _ := trivial
  hostTrans _ _ := trivial
  currentBuffer _ := trivial
  createCommand _ _ := trivial
  dropCommand _ _ := trivial
  transition _ _ _ := rfl
  buffers _ _ := rfl
  commands _ _ := rfl
  exitCode _ _ := rfl
  client _ _ := rfl
  unborn gave := by
    unfold Act.newSession at gave
    repeat
      obtain ⟨_, _, same⟩ := Act.ok_of_bind gave
      rw [same] at gave
      clear same
    cases gave
    rfl

theorem Aspect.isFree_statuses : Aspect.statuses.IsFree :=
  ⟨fun _ _ => trivial, fun _ _ => rfl⟩

/-- The stray handlers of sessions. -/
def Aspect.strayHandlers : Aspect (Json × Handler) where
  part := Session.strayHandler?
  host _ _ := True
  hostRefl _ := trivial
  hostTrans _ _ := trivial
  currentBuffer _ := trivial
  createCommand _ _ := trivial
  dropCommand _ _ := trivial
  transition _ _ _ := rfl
  buffers _ _ := rfl
  commands _ _ := rfl
  exitCode _ _ := rfl
  client _ _ := rfl
  unborn := Act.strayHandler?_newSession

theorem Aspect.isFree_strayHandlers : Aspect.strayHandlers.IsFree :=
  ⟨fun _ _ => trivial, fun _ _ => rfl⟩

/-- A deed keeps a part of the sessions that has nothing to do with what is noted of their servers. -/
theorem Desk.Deed.keepsAspect
    {α : Type}
    {aspect : Aspect α}
    {before after : Desk}
    (deed : before.Deed after)
    (free : aspect.IsFree)
    (essential : ∀ {old session : Session}, session.essence = old.essence →
      aspect.part session = aspect.part old) :
    before.KeepsAspect aspect after := by
  cases deed with
  | leaves leaves =>
      exact ⟨free.host _ _, fun id => by rw [leaves.registry], leaves.setup⟩
  | @revise id change same =>
      have sameId : ∀ session, (change session).id = session.id := by
        intro session
        have kept := congrArg Session.id (same session)
        exact kept
      exact Act.keepsAspect_modifySession aspect id sameId (fun session => essential (same session))
        before
  | start overrides buffer =>
      exact Act.keepsAspect_startWith aspect (Act.keepsAspect_resolveRoot aspect)
        overrides buffer before
  | stop buffer =>
      exact Act.keepsAspect_stop aspect buffer before
  | part id code =>
      exact Act.keepsAspect_onExit free id code before

/-- A deed keeps a ledger orderly. -/
theorem Desk.Deed.orderly
    {before after : Desk}
    (deed : before.Deed after)
    (orderly : before.ledger.Orderly) :
    after.ledger.Orderly := by
  cases deed with
  | leaves leaves =>
      have numbered := orderly.toNumbered
      have entries : after.ledger.entries = before.ledger.entries := by
        simp only [Desk.ledger, leaves.registry]
      have listed : after.ledger.listed = before.ledger.listed := by
        simp only [Desk.ledger, leaves.registry]
      have nextId : after.ledger.nextId = before.ledger.nextId := leaves.nextSession
      have names : after.ledger.names = before.ledger.names := by
        simp only [Ledger.names, Desk.ledger, leaves.setup]
      have ids : after.ledger.ids = before.ledger.ids := by
        simp only [Ledger.ids, entries]
      refine ⟨⟨?_, ?_, ?_, ?_, fun id launched => ?_⟩, ?_, ?_⟩
      · exact ids ▸ numbered.distinct
      · exact ids ▸ nextId ▸ numbered.below
      · exact listed ▸ numbered.listedDistinct
      · exact ids ▸ listed ▸ numbered.listedKnown
      · exact ids ▸ numbered.launchedKnown id (leaves.orders launched)
      · exact entries ▸ names ▸ orderly.sound
      · exact entries ▸ listed ▸ orderly.listedExactly
  | @revise id change same =>
      have sameEntry : ∀ session, (change session).entry = session.entry := by
        intro session
        have kept := congrArg Session.entry (same session)
        exact kept
      have kept : (Act.after (Act.modifySession id change) before).ledger = before.ledger :=
        Act.keeps_modifySession sameEntry before
      exact kept ▸ orderly
  | start overrides buffer =>
      exact (orderly.turns_leads (Act.turns_startWith Act.keeps_resolveRoot orderly.toNumbered
        overrides buffer)).1
  | stop buffer =>
      exact (orderly.turns_leads (Act.turns_stop orderly.toNumbered buffer)).1
  | part id code =>
      obtain ⟨kept, _⟩ | ⟨entry, member, _, present, left⟩ :=
        Act.ledger_onExit orderly.toNumbered id code
      · exact kept ▸ orderly
      · exact left ▸ orderly.leave member present code

/-! ## Informed stations -/

/-- What becomes of the sessions when a status is noted: one that can be read is that of its session
from then on, and nothing else changes. -/
theorem Act.registry_noteStatus
    (owner : Session)
    (params : Json)
    (desk : Desk) :
    (after (noteStatus owner params) desk).registry = desk.registry ∨
      ∃ status, Schema.check "ServerStatus" ServerStatus.read (presentParams params) = .ok status ∧
        (after (noteStatus owner params) desk).registry =
          desk.registry.modify owner.id fun current => { current with status := some status } := by
  have isWay : Desk.IsWay fun before after => after.registry = before.registry :=
    ⟨fun _ => rfl, fun first second => second.trans first⟩
  have logs : ∀ level text, KeepsTo (fun before after => after.registry = before.registry)
      (say level text) :=
    fun _ _ => keepsTo_modify fun _ => rfl
  unfold noteStatus
  split
  · exact .inl (logs _ _ desk)
  · rename_i status checked
    have noted : KeepsTo (fun before after => after.registry = before.registry)
        (if (status.quiescent && !(owner.status.map ServerStatus.quiescent).getD false) = true then
          say .info ("Session " ++ toString owner.id ++ " is quiescent (health=" ++
            status.health.name ++ ")")
        else pure ()) := by
      split
      · exact logs _ _
      · exact keepsTo_pure isWay ()
    refine .inr ⟨status, checked, ?_⟩
    unfold modifySession
    rw [after_modify_bind]
    dsimp only
    split
    · exact (logs _ _).bind isWay (fun _ => noted) _
    · exact (logs _ _).bind isWay (fun _ => noted) _
    · exact noted _

/-- A session is connected with its client, and the manager is told that its server is there. -/
def Desk.welcomed (desk : Desk) (session : Nat) : Desk :=
  Act.after (Act.onInit session) (Act.after (Act.modifySession session fun current =>
    { current with client := some .client }) desk)

theorem Desk.orderly_welcomed
    {desk : Desk}
    (session : Nat)
    (orderly : desk.ledger.Orderly) :
    (desk.welcomed session).ledger.Orderly := by
  have connected : (Act.after (Act.modifySession session fun current =>
      { current with client := some .client }) desk).ledger = desk.ledger := by
    apply Act.keeps_modifySession
    exact fun _ => rfl
  have turns := Act.turns_onInit session (Act.after (Act.modifySession session fun current =>
    { current with client := some .client }) desk)
  rw [connected] at turns
  exact (orderly.turns_leads turns).1

theorem Desk.keepsAspect_welcomed
    {α : Type}
    {aspect : Aspect α}
    (free : aspect.IsFree)
    (session : Nat)
    (desk : Desk) :
    desk.KeepsAspect aspect (desk.welcomed session) := by
  refine (isWay_keepsAspect aspect).trans ?_ (Act.keepsAspect_onInit free session _)
  apply Act.keepsAspect_modifySession
  · exact fun _ => rfl
  · exact fun current => aspect.client current _

namespace Station

/-- What a station knows of its servers was said by them. -/
structure Informed (station : Station) : Prop where
  orderly : station.desk.ledger.Orderly
  strayless : ∀ session, (station.session? session).bind Session.strayHandler? = none
  heard : ∀ session,
    Move.isSettledStatus ((station.session? session).bind Session.status) = true →
      HasReported station.chronicle session
  quiescent : ∀ session, (station.flag (.quiescent session)).isSet = true →
    MayPass station.chronicle session

variable {scope : Scope} {known : Nat} {before after station : Station}

/-- A station keeps informed where its sessions keep their statuses and their handlers, and flags
follow. -/
theorem Informed.of_keeps
    (informed : before.Informed)
    (orderly : after.desk.ledger.Orderly)
    (strayHandlers : before.desk.KeepsAspect .strayHandlers after.desk)
    (statuses : before.desk.KeepsAspect .statuses after.desk)
    (chronicle : before.chronicle ⊆ after.chronicle)
    (flags : ∀ session, (after.flag (.quiescent session)).isSet = true →
      MayPass after.chronicle session) :
    after.Informed where
  orderly := orderly
  strayless session := (strayHandlers.sessions session).trans (informed.strayless session)
  heard session settled := by
    have same : (after.session? session).bind Session.status =
        (before.session? session).bind Session.status := statuses.sessions session
    rw [same] at settled
    exact (informed.heard session settled).mono chronicle
  quiescent := flags

/-! ## Edits -/

theorem EditWithin.chronicle (edit : before.EditWithin scope known after) :
    before.chronicle <+: after.chronicle := by
  have same : after.chronicle = before.chronicle → before.chronicle <+: after.chronicle :=
    fun same => same ▸ List.prefix_rfl
  cases edit with
  | record ordinary => exact List.prefix_append _ _
  | seat number starts ignores silent lowered => exact List.prefix_append _ _
  | issue number told => exact List.prefix_append _ _
  | output number change => exact same (agrees_changeOutput _ _ _).chronicle
  | errors number change => exact same (agrees_changeErrors _ _ _).chronicle
  | exit number code => exact same (agrees_exitProcess _ _ _).chronicle
  | await signpost isNew => cases signpost <;> exact List.prefix_rfl
  | _ => exact List.prefix_rfl

/-- A status is noted for a message that has arrived. -/
theorem Informed.heardFrom
    {session : Nat}
    {owner : Session}
    {message method : Json}
    (informed : station.Informed)
    (arrived : .arrived session message ∈ station.chronicle)
    (owns : station.session? session = some owner)
    (named : message.get? "method" = some method)
    (handled : owner.handler? method = some .status)
    (flags : ∀ session, (station.flag (.quiescent session)).isSet = true →
      MayPass station.chronicle session) :
    Informed { station with
      desk := Act.after (Act.noteStatus owner (message.getD "params")) station.desk } := by
  have isOwner : owner.id = session := (Act.entry_of_get? owns).2
  have strayless : owner.strayHandler? = none := by
    have none := informed.strayless session
    rwa [owns] at none
  have isStatus := Session.eq_of_handler?_status strayless handled
  have sameLedger : (Act.after (Act.noteStatus owner (message.getD "params")) station.desk).ledger =
      station.desk.ledger :=
    Act.keeps_noteStatus owner _ station.desk
  generalize isNoted : Act.after (Act.noteStatus owner (message.getD "params")) station.desk = desk
    at sameLedger
  have orderly : desk.ledger.Orderly := by
    rw [sameLedger]
    exact informed.orderly
  rcases Act.registry_noteStatus owner (message.getD "params") station.desk with same | noted
  · rw [isNoted] at same
    refine ⟨orderly, fun other => ?_, fun other settled => ?_, flags⟩
    · show (desk.registry.get? other).bind _ = none
      rw [same]
      exact informed.strayless other
    · refine informed.heard other ?_
      have settled : Move.isSettledStatus ((desk.registry.get? other).bind Session.status) = true :=
        settled
      rwa [same] at settled
  · obtain ⟨status, checked, registry⟩ := noted
    rw [isNoted] at registry
    have found : ∀ other, desk.registry.get? other =
        (station.session? other).map fun session =>
          if session.id = owner.id then { session with status := some status } else session := by
      intro other
      rw [registry]
      apply Registry.get?_modify_any
      exact fun _ => rfl
    refine ⟨orderly, fun other => ?_, fun other settled => ?_, flags⟩
    · show (desk.registry.get? other).bind _ = none
      rw [found, ← informed.strayless other, Option.bind_map]
      congr 1
      funext known
      simp only [Function.comp_apply]
      split <;> rfl
    · have settled : Move.isSettledStatus ((desk.registry.get? other).bind Session.status) = true :=
        settled
      rw [found] at settled
      cases isKnown : station.session? other with
      | none =>
          rw [isKnown] at settled
          cases settled
      | some known =>
          rw [isKnown] at settled
          have isOther : known.id = other := (Act.entry_of_get? isKnown).2
          by_cases isSame : known.id = owner.id
          · simp only [Option.map_some, Option.bind_some, if_pos isSame] at settled
            have said : status.quiescent = true ∧ status.health ≠ .error := by
              simpa [Move.isSettledStatus] using settled
            have same : other = session := isOther.symm.trans (isSame.trans isOwner)
            subst same
            exact ⟨message, status, arrived, isStatus ▸ named, checked, said⟩
          · simp only [Option.map_some, Option.bind_some, if_neg isSame] at settled
            refine informed.heard other ?_
            rw [isKnown]
            exact settled

theorem EditWithin.informed
    (edit : before.EditWithin scope known after)
    (informed : before.Informed) :
    after.Informed := by
  have chronicle := edit.chronicle.subset
  have flags : ∀ session, (after.flag (.quiescent session)).isSet = true →
      MayPass after.chronicle session := by
    intro session isSet
    rcases edit.flags.isSet _ isSet with wasSet | rises
    · exact (informed.quiescent session wasSet).mono chronicle
    · cases rises with
      | quiescent quiet => exact .inl ((informed.heard session quiet).mono chronicle)
  have sameDesk : after.desk = before.desk → after.Informed := by
    intro same
    refine informed.of_keeps ?_ ?_ ?_ chronicle flags
    · exact same ▸ informed.orderly
    · rw [same]
      exact (Desk.isWay_keepsAspect _).refl _
    · rw [same]
      exact (Desk.isWay_keepsAspect _).refl _
  cases edit with
  | desk deed =>
      refine informed.of_keeps (deed.orderly informed.orderly) ?_ ?_ chronicle flags
      · exact deed.keepsAspect Aspect.isFree_strayHandlers
          fun same => (congrArg Session.strayHandler? same : _)
      · exact deed.keepsAspect Aspect.isFree_statuses fun same => (congrArg Session.status same : _)
  | @welcome session present =>
      refine informed.of_keeps ?_ ?_ ?_ chronicle flags
      · exact Desk.orderly_welcomed session informed.orderly
      · exact Desk.keepsAspect_welcomed Aspect.isFree_strayHandlers session before.desk
      · exact Desk.keepsAspect_welcomed Aspect.isFree_statuses session before.desk
  | heard hears arrived owns named handled =>
      exact informed.heardFrom arrived owns named handled informed.quiescent
  | output number change => exact sameDesk (agrees_changeOutput _ _ _).desk
  | errors number change => exact sameDesk (agrees_changeErrors _ _ _).desk
  | exit number code => exact sameDesk (agrees_exitProcess _ _ _).desk
  | await signpost isNew => cases signpost <;> exact sameDesk rfl
  | _ => exact sameDesk rfl

/-- A station keeps informed when something on its desk changes that does not concern sessions. -/
theorem Informed.withDesk
    {desk : Desk}
    (informed : station.Informed)
    (registry : desk.registry = station.desk.registry)
    (ledger : desk.ledger = station.desk.ledger) :
    ({ station with desk } : Station).Informed := by
  refine ⟨ledger ▸ informed.orderly, fun session => ?_, fun session settled => ?_,
    informed.quiescent⟩
  · show (Registry.get? _ session).bind _ = none
    rw [registry]
    exact informed.strayless session
  · have settled : Move.isSettledStatus ((Registry.get? _ session).bind Session.status) = true :=
      settled
    rw [registry] at settled
    exact informed.heard session settled

/-- Closing a client keeps a station informed. -/
theorem Informed.hangUp
    (informed : station.Informed)
    (session : Nat) :
    (station.hangUp session).Informed := by
  have chronicle : station.chronicle ⊆ station.chronicle ++ [.hungUp session none] :=
    List.subset_append_left _ _
  have follow : FlagsFollow 0 (fun signpost => signpost = .quiescent session) station
      (station.raise (.quiescent session)) :=
    flagsFollow_raise rfl
  refine informed.of_keeps informed.orderly ((Desk.isWay_keepsAspect _).refl _)
    ((Desk.isWay_keepsAspect _).refl _) chronicle fun other isSet => ?_
  rcases follow.isSet (.quiescent other) isSet with wasSet | same
  · exact (informed.quiescent other wasSet).mono chronicle
  · cases same
    exact .inr (List.mem_append_right _ (List.mem_singleton_self _))

end Station

end AnalyzerSessions
