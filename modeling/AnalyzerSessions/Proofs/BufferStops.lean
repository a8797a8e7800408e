import AnalyzerSessions.Proofs.LedgerActs
import AnalyzerSessions.Proofs.FailedStarts

namespace AnalyzerSessions

/-!
# Stops of buffers

A stop tells the transport to end the servers of the sessions that have a buffer and are not
being stopped yet, and changes nothing else.  Over a run the transport is told so at most once
for each session, and only for sessions whose servers it was told to launch: all but those
whose start has failed between their entering and their launch.
-/

/-- The active sessions of a buffer, in the order in which they were registered. -/
def Desk.attached (desk : Desk) (number : Int) : List Session :=
  desk.registry.registered.filter fun session =>
    session.state.isActive && session.name == serverName && session.buffers.contains number

/-- The sessions of a buffer that are not being stopped. -/
def Desk.moving (desk : Desk) (number : Int) : List Nat :=
  ((desk.attached number).filter fun session => session.state ≠ .stopping).map Session.id

/-- A registry in which sessions of given numbers are being stopped. -/
def Registry.halt (registry : Registry) (ids : List Nat) : Registry :=
  { registry with sessions := registry.sessions.map fun session =>
      if session.id ∈ ids then (session.transition .stopping).1 else session }

theorem Registry.halt_nil (registry : Registry) : registry.halt [] = registry := by
  simp [halt]

/-- Stopping a session does not change its number. -/
theorem Registry.halt_ids
    (registry : Registry)
    (ids : List Nat) :
    (registry.halt ids).sessions.map Session.id = registry.sessions.map Session.id := by
  unfold halt
  rw [List.map_map]
  refine List.map_congr_left fun session _ => ?_
  by_cases isChosen : session.id ∈ ids
  · simp only [Function.comp_apply, isChosen, ↓reduceIte, Session.transition]
  · simp only [Function.comp_apply, isChosen, ↓reduceIte]

/-- Sessions of different numbers are stopped one after the other. -/
theorem Registry.halt_modify
    {id : Nat}
    {ids : List Nat}
    (fresh : id ∉ ids)
    (registry : Registry) :
    (registry.modify id fun session => (session.transition .stopping).1).halt ids =
      registry.halt (id :: ids) := by
  unfold halt modify
  simp only [List.map_map, Registry.mk.injEq, and_true]
  refine List.map_congr_left fun session _ => ?_
  by_cases isFirst : session.id = id
  · have notRest : (session.transition .stopping).1.id ∉ ids := by
      rintro later
      exact fresh (isFirst ▸ later)
    simp only [Function.comp_apply, isFirst, ↓reduceIte, notRest, List.mem_cons_self]
  · simp only [Function.comp_apply, isFirst, ↓reduceIte, List.mem_cons, false_or]

namespace Act

/-- A session goes on to another state, and nothing but that and a line in the log is new. -/
theorem perform_transition
    (id : Nat)
    (state : SessionState)
    (desk : Desk) :
    ∃ log, perform (transition id state) desk = (.ok (), { desk with
      registry := desk.registry.modify id fun session => (session.transition state).1
      log := desk.log ++ log }) := by
  unfold transition
  rw [perform_get_bind]
  cases found : desk.registry.get? id with
  | none =>
      have unchanged : desk.registry.modify id (fun session => (session.transition state).1) =
          desk.registry := by
        have different := List.find?_eq_none.mp found
        unfold Registry.modify
        rw [List.map_congr_left fun session member =>
          if_neg (by simpa using different session member), List.map_id']
      refine ⟨[], ?_⟩
      rw [unchanged, List.append_nil]
      rfl
  | some session =>
      exact ⟨[(session.transition state).2], rfl⟩

/-- A session is told to stop that is not being stopped. -/
theorem perform_stopSession
    {session : Session}
    (moving : session.state ≠ .stopping)
    (desk : Desk) :
    ∃ log, perform (stopSession session) desk = (.ok (), { desk with
      registry := desk.registry.modify session.id fun session => (session.transition .stopping).1
      orders := desk.orders ++ [.terminate session.id]
      log := desk.log ++ log }) := by
  unfold stopSession
  rw [if_pos moving]
  let record : Record :=
    ⟨.info, "Stopping session " ++ toString session.id ++ " at " ++ Session.rootText session.root⟩
  obtain ⟨log, entered⟩ :=
    perform_transition session.id .stopping { desk with log := desk.log ++ [record] }
  refine ⟨record :: log, ?_⟩
  have said : perform (say record.level record.text) desk =
      (.ok (), { desk with log := desk.log ++ [record] }) := rfl
  rw [List.append_cons desk.log, perform_bind_of_ok (congrArg Prod.fst said), after, said,
    perform_bind_of_ok (congrArg Prod.fst entered), after, entered]
  rfl

theorem perform_stopSession_of_stopping
    {session : Session}
    (isStopping : session.state = .stopping)
    (desk : Desk) :
    perform (stopSession session) desk = (.ok (), desk) := by
  unfold stopSession
  rw [if_neg (fun moving => moving isStopping)]
  rfl

/-- Sessions of different numbers are told to stop, each unless it is being stopped. -/
theorem perform_stopAll
    {sessions : List Session}
    (distinct : (sessions.map Session.id).Nodup)
    (desk : Desk) :
    let moving := (sessions.filter fun session => session.state ≠ .stopping).map Session.id
    ∃ log, perform (stopAll sessions) desk = (.ok (), { desk with
      registry := desk.registry.halt moving
      orders := desk.orders ++ moving.map .terminate
      log := desk.log ++ log }) := by
  induction sessions generalizing desk with
  | nil =>
      refine ⟨[], ?_⟩
      simp only [List.filter_nil, List.map_nil, List.append_nil, Registry.halt_nil]
      rfl
  | cons session rest inductionHypothesis =>
      obtain ⟨fresh, restDistinct⟩ := List.nodup_cons.mp distinct
      by_cases isStopping : session.state = .stopping
      · have stopped := perform_stopSession_of_stopping isStopping desk
        obtain ⟨log, others⟩ := inductionHypothesis restDistinct desk
        refine ⟨log, ?_⟩
        rw [List.filter_cons_of_neg (by simpa using isStopping), stopAll,
          perform_bind_of_ok (congrArg Prod.fst stopped), after, stopped]
        exact others
      · obtain ⟨log, stopped⟩ := perform_stopSession isStopping desk
        obtain ⟨more, others⟩ :=
          inductionHypothesis restDistinct (after (stopSession session) desk)
        have notLater : session.id ∉
            (rest.filter fun session => session.state ≠ .stopping).map Session.id := by
          intro later
          exact fresh ((List.filter_sublist.map Session.id).subset later)
        refine ⟨log ++ more, ?_⟩
        rw [List.filter_cons_of_pos (by simpa using isStopping), stopAll,
          perform_bind_of_ok (congrArg Prod.fst stopped), others, after, stopped]
        simp only [Registry.halt_modify notLater, List.map_cons, List.append_assoc,
          List.singleton_append]

/-- What a stop of a buffer does. -/
theorem perform_stop
    {desk : Desk}
    (numbered : desk.ledger.Numbered)
    (number : Int) :
    ∃ log, perform (stop (some number)) desk =
      (.ok ((desk.attached number).map Session.id), { desk with
        registry := desk.registry.halt (desk.moving number)
        orders := desk.orders ++ (desk.moving number).map .terminate
        log := desk.log ++ log }) := by
  have isAttached : desk.registry.active (some serverName) (some number) =
      desk.attached number := by
    simp only [Registry.active, Desk.attached, Registry.fits, Option.all_some, Bool.and_assoc]
  have distinct : ((desk.attached number).map Session.id).Nodup :=
    ((List.filter_sublist.map Session.id).trans (registered_ids_sublist desk.registry)).nodup
      numbered.listedDistinct
  obtain ⟨log, stopped⟩ := perform_stopAll distinct desk
  refine ⟨log, ?_⟩
  unfold stop
  rw [perform_bind_of_ok (show (perform (chosenBuffer (some number)) desk).1 = .ok number from rfl)]
  show perform (get >>= _) desk = _
  rw [perform_get_bind, isAttached, perform_bind_of_ok (congrArg Prod.fst stopped), after, stopped]
  rfl

end Act

/-! ## Once for each session -/

/-- No session was told to stop twice, and each that was told to is stopping or stopped. -/
structure Ledger.HaltsOnce (ledger : Ledger) : Prop where
  once : ∀ id, ledger.orders.count (.terminate id) ≤ 1
  known : ∀ id, .terminate id ∈ ledger.orders → id ∈ ledger.ids
  halted : ∀ entry ∈ ledger.entries, .terminate entry.id ∈ ledger.orders →
    entry.state = .stopping ∨ entry.state = .stopped

namespace Ledger.HaltsOnce

variable {ledger : Ledger}

/-- A session that is changed without being told to stop goes on stopping if it was. -/
theorem change
    (haltsOnce : ledger.HaltsOnce)
    (numbered : ledger.Numbered)
    {known : LedgerEntry}
    (isKnown : known ∈ ledger.entries)
    {revise : LedgerEntry → LedgerEntry}
    (sameId : ∀ entry, (revise entry).id = entry.id)
    (revised : known.state = .stopping ∨ known.state = .stopped →
      (revise known).state = .stopping ∨ (revise known).state = .stopped) :
    (ledger.change known.id revise).HaltsOnce where
  once := haltsOnce.once
  known id told := by
    rw [change_ids sameId]
    exact haltsOnce.known id told
  halted := by
    refine numbered.forall_change haltsOnce.halted isKnown fun told => revised ?_
    rw [sameId] at told
    exact haltsOnce.halted known isKnown told

/-- A session that is stopping is told to stop for the first time. -/
theorem tell_terminate
    {id : Nat}
    (haltsOnce : ledger.HaltsOnce)
    (notTold : .terminate id ∉ ledger.orders)
    (known : id ∈ ledger.ids)
    (stopping : ∀ entry ∈ ledger.entries, entry.id = id → entry.state = .stopping) :
    (ledger.tell (.terminate id)).HaltsOnce := by
  have told : ∀ other, .terminate other ∈ (ledger.tell (.terminate id)).orders →
      .terminate other ∈ ledger.orders ∨ other = id := by
    intro other isTold
    rcases List.mem_append.mp isTold with before | now
    · exact .inl before
    · cases List.mem_singleton.mp now
      exact .inr rfl
  refine ⟨fun other => ?_, fun other isTold => ?_, fun entry member isTold => ?_⟩
  · rw [tell, List.count_append]
    by_cases isSame : other = id
    · have noneBefore := List.count_eq_zero.mpr notTold
      simp only [isSame, noneBefore, List.count_singleton_self, Nat.zero_add, Nat.le_refl]
    · have apart : Order.terminate other ≠ .terminate id := by
        simpa using isSame
      have noneNow : List.count (Order.terminate other) [.terminate id] = 0 :=
        List.count_eq_zero.mpr fun now => apart (List.mem_singleton.mp now)
      rw [noneNow]
      exact haltsOnce.once other
  · rcases told other isTold with before | rfl
    · exact haltsOnce.known other before
    · exact known
  · rcases told entry.id isTold with before | isSame
    · exact haltsOnce.halted entry member before
    · exact .inl (stopping entry member isSame)

theorem turn
    {after : Ledger}
    (haltsOnce : ledger.HaltsOnce)
    (orderly : ledger.Orderly)
    (turn : ledger.Turn after) :
    after.HaltsOnce := by
  cases turn with
  | enroll root buffer vacant =>
      refine ⟨haltsOnce.once, fun id told => ?_, fun entry member told => ?_⟩
      · exact List.mem_map.mpr (by
          obtain ⟨entry, member, isEntry⟩ := List.mem_map.mp (haltsOnce.known id told)
          exact ⟨entry, List.mem_append_left _ member, isEntry⟩)
      · rcases List.mem_append.mp member with old | new
        · exact haltsOnce.halted entry old told
        · cases List.mem_singleton.mp new
          exact absurd (orderly.below _ (haltsOnce.known _ told)) (Nat.lt_irrefl _)
  | attach entry known buffer =>
      exact haltsOnce.change orderly.toNumbered known (fun _ => rfl) id
  | launch entry known =>
      have others : ∀ id, .terminate id ∈ (ledger.tell (.launch entry.id)).orders →
          .terminate id ∈ ledger.orders := by
        intro id told
        simpa [tell] using told
      refine ⟨fun id => ?_, fun id told => haltsOnce.known id (others id told),
        fun other member told => haltsOnce.halted other member (others other.id told)⟩
      simpa [tell, List.count_append] using haltsOnce.once id
  | halt entry known active moving =>
      have notTold : .terminate entry.id ∉ ledger.orders := by
        intro told
        rcases haltsOnce.halted entry known told with isStopping | isStopped
        · exact moving isStopping
        · rw [isStopped] at active
          cases active
      have sameId : ∀ other : LedgerEntry, (other.enter .stopping).id = other.id := fun _ => rfl
      have changed := haltsOnce.change orderly.toNumbered known sameId fun _ => .inl rfl
      refine changed.tell_terminate notTold ?_ ?_
      · rw [change_ids sameId]
        exact id_mem_ids known
      · refine fun other member isSame => ?_
        obtain ⟨old, _, rfl⟩ := List.mem_map.mp member
        by_cases isEntry : old.id = entry.id
        · rw [if_pos isEntry]
          rfl
        · rw [if_neg isEntry] at isSame
          exact absurd isSame isEntry
  | equip entry known starting =>
      have changed := haltsOnce.change orderly.toNumbered known
        (fun _ => rfl : ∀ other : LedgerEntry, (other.equipped ledger.names).id = other.id) id
      exact ⟨changed.once, changed.known, changed.halted⟩
  | welcome entry known starting equipped =>
      refine haltsOnce.change orderly.toNumbered known (fun _ => rfl) fun halted => ?_
      rw [starting] at halted
      rcases halted with isStopping | isStopped
      · cases isStopping
      · cases isStopped

theorem leave
    {entry : LedgerEntry}
    (haltsOnce : ledger.HaltsOnce)
    (orderly : ledger.Orderly)
    (known : entry ∈ ledger.entries)
    (code : Json) :
    (ledger.leave entry code).HaltsOnce :=
  have changed := haltsOnce.change orderly.toNumbered known (fun entry => entry.departed_id code)
    fun _ => .inr (entry.departed_state code)
  ⟨changed.once, changed.known, changed.halted⟩

theorem undisturbed
    {after : Ledger}
    (haltsOnce : ledger.HaltsOnce)
    (apart : ledger.Undisturbed after) :
    after.HaltsOnce := by
  rw [apart.same]
  exact ⟨haltsOnce.once, haltsOnce.known, haltsOnce.halted⟩

end Ledger.HaltsOnce

section

variable {around : Surroundings} {initial desk : Desk} {calls : List Call}

/-- Over a run no session is told to stop twice. -/
theorem ManagerRun.haltsOnce
    (new : initial.IsNew)
    (run : ManagerRun around initial calls desk) :
    desk.ledger.HaltsOnce := by
  have noOrders : initial.ledger.orders = [] := new.silent
  refine (run.ledger_induction new Ledger.HaltsOnce ?_ ?_ ?_ ?_).2
  · refine ⟨fun id => ?_, fun id told => ?_, fun entry _ told => ?_⟩
    · rw [noOrders]
      exact Nat.zero_le 1
    · rw [noOrders] at told
      cases told
    · rw [noOrders] at told
      cases told
  · exact fun before after orderly haltsOnce turn => haltsOnce.turn orderly turn
  · exact fun before entry code orderly haltsOnce known _ => haltsOnce.leave orderly known code
  · exact fun before after _ haltsOnce apart => haltsOnce.undisturbed apart

end

/-! ## Launched before -/

/-- The transport was told nothing, and no session was entered. -/
structure Desk.TellsNothing (before after : Desk) : Prop where
  orders : after.orders = before.orders
  ids : after.ledger.ids = before.ledger.ids

theorem Desk.isWay_tellsNothing : Desk.IsWay Desk.TellsNothing where
  refl _ := ⟨rfl, rfl⟩
  trans first second := ⟨second.orders.trans first.orders, second.ids.trans first.ids⟩

namespace Act

open Desk (isWay_tellsNothing)

theorem Keeps.tellsNothing
    {α : Type}
    {act : Act α}
    (keeps : Keeps act) :
    KeepsTo Desk.TellsNothing act :=
  fun desk => ⟨congrArg Ledger.orders (keeps desk), congrArg Ledger.ids (keeps desk)⟩

theorem tellsNothing_transition
    (id : Nat)
    (state : SessionState) :
    KeepsTo Desk.TellsNothing (transition id state) := by
  intro desk
  have changed := ledger_transition id state desk
  refine ⟨congrArg Ledger.orders changed, (congrArg Ledger.ids changed).trans ?_⟩
  exact Ledger.change_ids fun _ => rfl

theorem tellsNothing_equip (id : Nat) : KeepsTo Desk.TellsNothing (equip id) := by
  intro desk
  have changed := ledger_equip id desk
  refine ⟨congrArg Ledger.orders changed, (congrArg Ledger.ids changed).trans ?_⟩
  exact Ledger.change_ids (fun _ => rfl : ∀ entry : LedgerEntry,
    (entry.equipped desk.ledger.names).id = entry.id)

theorem tellsNothing_onInit (id : Nat) : KeepsTo Desk.TellsNothing (onInit id) := by
  refine keepsTo_look fun desk => ?_
  split
  · exact (keeps_pure ()).tellsNothing
  · split
    · refine (keeps_installTransform _).tellsNothing.bind isWay_tellsNothing fun _ => ?_
      refine (tellsNothing_equip _).bind isWay_tellsNothing fun _ => ?_
      refine (keeps_offerReload _).tellsNothing.bind isWay_tellsNothing fun _ => ?_
      refine (tellsNothing_transition _ _).bind isWay_tellsNothing fun _ => ?_
      refine (tellsNothing_transition _ _).bind isWay_tellsNothing fun _ => ?_
      exact keepsTo_look fun _ => ((keeps_say _ _).bind fun _ => keeps_tellAll _ _ _).tellsNothing
    · exact (keeps_say _ _).tellsNothing

theorem tellsNothing_onExit
    {desk : Desk}
    (numbered : desk.ledger.Numbered)
    (id : Nat)
    (code : Json) :
    desk.TellsNothing (after (onExit id code) desk) := by
  obtain ⟨kept, _⟩ | ⟨entry, _, _, _, left⟩ := ledger_onExit numbered id code
  · exact ⟨congrArg Ledger.orders kept, congrArg Ledger.ids kept⟩
  · refine ⟨congrArg Ledger.orders left, (congrArg Ledger.ids left).trans ?_⟩
    exact Ledger.change_ids fun entry => entry.departed_id code

end Act

/-- In a run, the start of a session stumbled after it had entered the session. -/
def StartStumbled
    (around : Surroundings)
    (initial desk : Desk)
    (id : Nat) : Prop :=
  ∃ calls rest earlier overrides buffer number root,
    ManagerRun around initial calls earlier ∧
      Act.StartStumbles around.resolve overrides buffer earlier number root ∧
      earlier.nextSession = id ∧
      ManagerRun around ((Call.start overrides buffer).after around earlier) rest desk

/-- The sessions of a run were entered by starts that launched their servers or stumbled, and
nothing was ended before. -/
structure LaunchedFirst
    (around : Surroundings)
    (initial desk : Desk) : Prop where
  entered : ∀ id ∈ desk.ledger.ids,
    .launch id ∈ desk.orders ∨ StartStumbled around initial desk id
  ended : ∀ front rest id, desk.orders = front ++ .terminate id :: rest →
    .launch id ∈ front ∨ StartStumbled around initial desk id

section

variable {around : Surroundings} {initial desk later : Desk}

/-- Orders that end only servers that were known before follow what was told before. -/
theorem LaunchedFirst.step
    {given : List Order}
    (launchedFirst : LaunchedFirst around initial desk)
    (told : later.orders = desk.orders ++ given)
    (onward : ∀ id, StartStumbled around initial desk id → StartStumbled around initial later id)
    (entered : ∀ id ∈ later.ledger.ids, id ∈ desk.ledger.ids ∨ .launch id ∈ given ∨
      StartStumbled around initial later id)
    (known : ∀ id, .terminate id ∈ given → id ∈ desk.ledger.ids) :
    LaunchedFirst around initial later where
  entered id member := by
    rw [told]
    rcases entered id member with old | launched | stumbled
    · rcases launchedFirst.entered id old with launched | stumbled
      · exact .inl (List.mem_append_left given launched)
      · exact .inr (onward id stumbled)
    · exact .inl (List.mem_append_right desk.orders launched)
    · exact .inr stumbled
  ended front rest id split := by
    rw [told] at split
    obtain ⟨more, isFront, isGiven⟩ | ⟨more, isOrders, isRest⟩ := List.append_eq_append_iff.mp split
    · have ended : .terminate id ∈ given := by
        rw [isGiven]
        exact List.mem_append_right more List.mem_cons_self
      rw [isFront]
      rcases launchedFirst.entered id (known id ended) with launched | stumbled
      · exact .inl (List.mem_append_left more launched)
      · exact .inr (onward id stumbled)
    · cases more with
      | nil =>
          have ended : .terminate id ∈ given := by
            rw [← List.nil_append given, ← isRest]
            exact List.mem_cons_self
          rw [List.append_nil] at isOrders
          rw [← isOrders]
          rcases launchedFirst.entered id (known id ended) with launched | stumbled
          · exact .inl launched
          · exact .inr (onward id stumbled)
      | cons order more =>
          cases isRest
          rcases launchedFirst.ended front more id isOrders with launched | stumbled
          · exact .inl launched
          · exact .inr (onward id stumbled)

end

/-- What a call tells the transport, and which sessions it enters. -/
structure Call.Tells
    (around : Surroundings)
    (desk : Desk)
    (call : Call)
    (given : List Order) : Prop where
  orders : (call.after around desk).orders = desk.orders ++ given
  /-- Only servers of sessions are ended that are not being stopped. -/
  ended : ∀ id, .terminate id ∈ given → ∃ session ∈ desk.registry.registered,
    session.id = id ∧ session.state.isActive ∧ session.state ≠ .stopping
  /-- A session that is new is launched, or its start has stumbled. -/
  entered : ∀ id ∈ (call.after around desk).ledger.ids, id ∈ desk.ledger.ids ∨
    .launch id ∈ given ∨ ∃ overrides buffer number root, call = .start overrides buffer ∧
      Act.StartStumbles around.resolve overrides buffer desk number root ∧ desk.nextSession = id

section

variable {around : Surroundings} {desk : Desk}

theorem Desk.TellsNothing.tells
    {call : Call}
    (tellsNothing : desk.TellsNothing (call.after around desk)) :
    call.Tells around desk [] where
  orders := tellsNothing.orders.trans (List.append_nil _).symm
  ended _ told := by cases told
  entered id member := .inl (tellsNothing.ids ▸ member)

theorem Desk.ledger_ids (desk : Desk) :
    desk.ledger.ids = desk.registry.sessions.map Session.id :=
  List.map_map

/-- Only the next number is new when a session is entered. -/
theorem Ledger.mem_enroll_ids
    {ledger : Ledger}
    {root : Option Path}
    {buffer : Int}
    {id : Nat}
    (member : id ∈ (ledger.enroll root buffer).ids) :
    id ∈ ledger.ids ∨ id = ledger.nextId := by
  unfold ids enroll at member
  rw [List.map_append, List.mem_append] at member
  exact member.imp_right List.mem_singleton.mp

/-- A start tells at most to launch the server of the session that it enters. -/
theorem tells_start
    (numbered : desk.ledger.Numbered)
    (overrides : Config.Entries Setting)
    (buffer : Option Int) :
    ∃ given, (Call.start overrides buffer).Tells around desk given := by
  by_cases gives : ∃ id,
      (Act.perform (Act.startWith around.resolve overrides buffer) desk).1 = .ok (some id)
  · obtain ⟨id, gave⟩ := gives
    obtain ⟨number, root, _, ⟨_, _, _, _, _, joined⟩ | ⟨_, isNext, launched⟩⟩ :=
      Act.ledger_startWith around.quiet numbered gave
    · refine ⟨[], Desk.TellsNothing.tells ⟨congrArg Ledger.orders joined, ?_⟩⟩
      exact (congrArg Ledger.ids joined).trans (Ledger.change_ids fun _ => rfl)
    · refine ⟨[.launch id], congrArg Ledger.orders launched, fun _ told => by simp at told, ?_⟩
      intro other member
      have isEntered : other ∈ (desk.ledger.enroll root number).ids :=
        congrArg Ledger.ids launched ▸ member
      refine (Ledger.mem_enroll_ids isEntered).imp_right fun isNew => .inl ?_
      rw [isNew, isNext]
      exact List.mem_singleton_self _
  · obtain same | ⟨number, root, stumbles⟩ :=
      Act.ledger_startWith_failed around.quiet numbered (not_exists.mp gives)
    · exact ⟨[], Desk.TellsNothing.tells ⟨congrArg Ledger.orders same, congrArg Ledger.ids same⟩⟩
    · refine ⟨[], ?_, ?_, fun other member => ?_⟩
      · rw [List.append_nil]
        exact congrArg Ledger.orders stumbles.entered
      · intro _ told
        cases told
      · have isEntered : other ∈ (desk.ledger.enroll root number).ids :=
          congrArg Ledger.ids stumbles.entered ▸ member
        exact (Ledger.mem_enroll_ids isEntered).imp_right fun isNew =>
          .inr ⟨overrides, buffer, number, root, rfl, stumbles, isNew.symm⟩

/-- A stop tells to end the servers of the sessions of the buffer that are not being stopped. -/
theorem tells_stop
    (numbered : desk.ledger.Numbered)
    (buffer : Option Int) :
    ∃ given, (Call.stop buffer).Tells around desk given := by
  -- A stop without a buffer is one of the current buffer, once the host has one.
  obtain ⟨number, opened, isOfBuffer, sameLedger, sameRegistry⟩ : ∃ number opened,
      (Call.stop buffer).after around desk = Act.after (Act.stop (some number)) opened ∧
        opened.ledger = desk.ledger ∧ opened.registry = desk.registry := by
    cases buffer with
    | some number =>
        exact ⟨number, desk, rfl, rfl, rfl⟩
    | none =>
        exact ⟨desk.host.currentBuffer.1, { desk with host := desk.host.currentBuffer.2 }, rfl,
          Act.keeps_currentBuffer desk, rfl⟩
  obtain ⟨log, stopped⟩ := Act.perform_stop (sameLedger ▸ numbered) number
  have isAfter := congrArg Prod.snd stopped
  refine ⟨(opened.moving number).map .terminate, ?_, fun id told => ?_, fun id member => .inl ?_⟩
  · rw [isOfBuffer, ← show opened.orders = desk.orders from congrArg Ledger.orders sameLedger]
    exact congrArg Desk.orders isAfter
  · obtain ⟨_, isMoving, isTold⟩ := List.mem_map.mp told
    cases isTold
    obtain ⟨session, chosen, rfl⟩ := List.mem_map.mp isMoving
    obtain ⟨attached, moving⟩ := List.mem_filter.mp chosen
    obtain ⟨registered, fits⟩ := List.mem_filter.mp attached
    rw [Bool.and_assoc, Bool.and_eq_true] at fits
    exact ⟨session, sameRegistry ▸ registered, rfl, fits.1, by simpa using moving⟩
  · rw [isOfBuffer, show Act.after _ opened = _ from isAfter, Desk.ledger_ids] at member
    rw [← congrArg Ledger.ids sameLedger, Desk.ledger_ids,
      ← opened.registry.halt_ids (opened.moving number)]
    exact member

/-- What a call tells the transport. -/
theorem tells_call
    (numbered : desk.ledger.Numbered)
    (around : Surroundings)
    (call : Call) :
    ∃ given, call.Tells around desk given := by
  cases call with
  | start overrides buffer =>
      exact tells_start numbered overrides buffer
  | stop buffer =>
      exact tells_stop numbered buffer
  | initialized id =>
      exact ⟨[], Desk.TellsNothing.tells (Act.tellsNothing_onInit id desk)⟩
  | exited id code =>
      exact ⟨[], Desk.TellsNothing.tells (Act.tellsNothing_onExit numbered id code)⟩

end

section

variable {around : Surroundings} {initial desk : Desk} {calls : List Call}

/-- Over a run, only servers are ended that were launched before, or whose launch was missed by a
start that stumbled. -/
theorem ManagerRun.launchedFirst
    (new : initial.IsNew)
    (run : ManagerRun around initial calls desk) :
    LaunchedFirst around initial desk := by
  induction run with
  | begin =>
      have noSessions : initial.registry.sessions = [] := by
        rw [new.vacant]
        rfl
      refine ⟨fun id member => ?_, fun front rest id split => ?_⟩
      · rw [Desk.ledger_ids, noSessions] at member
        cases member
      · rw [new.silent] at split
        cases front <;> cases split
  | @call calls desk earlier call possible launchedFirst =>
      have numbered := (earlier.orderly new).toNumbered
      obtain ⟨given, tells⟩ := tells_call numbered around call
      refine launchedFirst.step tells.orders ?_ ?_ ?_
      · rintro id ⟨calls, rest, stumbling, overrides, buffer, number, root, before, stumbles, isId,
          since⟩
        exact ⟨calls, _, stumbling, overrides, buffer, number, root, before, stumbles, isId,
          since.call call possible⟩
      · intro id member
        rcases tells.entered id member with
          old | launched | ⟨overrides, buffer, number, root, rfl, stumbles, isId⟩
        · exact .inl old
        · exact .inr (.inl launched)
        · exact .inr (.inr ⟨calls, [], desk, overrides, buffer, number, root, earlier, stumbles,
            isId, .begin⟩)
      · intro id told
        obtain ⟨session, registered, rfl, _⟩ := tells.ended id told
        rw [Desk.ledger_ids]
        exact List.mem_map_of_mem ((Act.mem_registered numbered).mp registered).1
  | @outside calls desk other earlier happened launchedFirst =>
      have same := (around.apart _ _ happened).same
      have noneTold : other.orders = desk.orders ++ [] := by
        rw [List.append_nil]
        exact congrArg Ledger.orders same
      refine launchedFirst.step noneTold ?_ (fun id member => ?_) fun id told => ?_
      · rintro id ⟨calls, rest, stumbling, overrides, buffer, number, root, before, stumbles, isId,
          since⟩
        exact ⟨calls, rest, stumbling, overrides, buffer, number, root, before, stumbles, isId,
          since.outside happened⟩
      · rw [same] at member
        exact .inl member
      · cases told

/-- A stop ends the servers of the sessions of the buffer that are not being stopped, gives all
sessions of the buffer and changes nothing else.  Over a run no server is ended twice, only servers
of sessions are ended that are registered and not being stopped, and each was launched before
unless the start of its session has stumbled. -/
theorem ManagerRun.stops_end_each_server_once
    (new : initial.IsNew)
    (run : ManagerRun around initial calls desk) :
    (∀ number, ∃ log, Act.perform (Act.stop (some number)) desk =
      (.ok ((desk.attached number).map Session.id), { desk with
        registry := desk.registry.halt (desk.moving number)
        orders := desk.orders ++ (desk.moving number).map .terminate
        log := desk.log ++ log })) ∧
    (∀ call : Call, ∃ given, (call.after around desk).orders = desk.orders ++ given ∧
      ∀ id, .terminate id ∈ given → ∃ session ∈ desk.registry.registered,
        session.id = id ∧ session.state.isActive ∧ session.state ≠ .stopping) ∧
    (∀ id, desk.orders.count (.terminate id) ≤ 1) ∧
    ∀ front rest id, desk.orders = front ++ .terminate id :: rest →
      .launch id ∈ front ∨ StartStumbled around initial desk id := by
  have numbered := (run.orderly new).toNumbered
  refine ⟨Act.perform_stop numbered, fun call => ?_, (run.haltsOnce new).once,
    (run.launchedFirst new).ended⟩
  obtain ⟨given, tells⟩ := tells_call numbered around call
  exact ⟨given, tells.orders, tells.ended⟩

/-- Two stops of a buffer whose session is running end its server once. -/
theorem repeated_stops_end_the_server_once :
    let calls := [Call.start [] none, .initialized 1, .stop none, .stop none]
    let desk := Call.afterAll .alone .bare calls
    Desk.bare.IsNew ∧ ManagerRun .alone .bare calls desk ∧
      desk.orders = [.launch 1, .terminate 1] ∧ desk.attached 1 ≠ [] ∧ desk.moving 1 = [] ∧
      (∃ log, Act.perform (Act.stop (some 1)) desk = (.ok [1], { desk with
        registry := desk.registry.halt []
        orders := desk.orders ++ []
        log := desk.log ++ log })) ∧
      desk.orders.count (.terminate 1) ≤ 1 := by
  intro calls desk
  have new : Desk.bare.IsNew := ⟨rfl, rfl⟩
  have run : ManagerRun .alone .bare calls desk :=
    ManagerRun.begin.of_possible _ (by decide +kernel)
  obtain ⟨stops, _, once, _⟩ := run.stops_end_each_server_once new
  exact ⟨new, run, rfl, by decide +kernel, rfl, stops 1, once 1⟩

/-- A start that stumbles on its command line is followed by a stop that ends a server which was
never launched. -/
theorem stop_ends_a_server_never_launched :
    (Call.afterAll .alone .bare [.start oddCommand none, .stop none]).orders = [.terminate 1] :=
  rfl

end

end AnalyzerSessions
