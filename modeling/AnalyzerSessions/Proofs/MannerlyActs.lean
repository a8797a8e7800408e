import AnalyzerSessions.Proofs.SpokenRights

namespace AnalyzerSessions

/-!
# Acts that keep manners

When the manager stops a session, the session serves no more, and the order to terminate
its server comes with the rights to say so.  Each turn of a ledger keeps the rights that
its orders come with apart from all others.  A session goes on to run only by the report
that its server is initialized, so that every running session has a client that is
introduced where only such servers are reported.
-/

/-- The rights that an order comes with. -/
def Order.rights : Order → List Right
  | launch _ => []
  | terminate session => [.bid session, .leave session]

namespace Ledger

/-- Some rights, and those that the orders come with, are there once and only when they may be. -/
structure Warrants (rights : List Right) (ledger : Ledger) : Prop where
  numbered : ledger.Numbered
  once : (ledger.orders.flatMap Order.rights ++ rights).Nodup
  known : ∀ right ∈ ledger.orders.flatMap Order.rights ++ rights, ∀ id,
    right = .bid id ∨ right = .leave id → id ∈ ledger.ids
  serving : ∀ entry ∈ ledger.entries, entry.state.isServing = true →
    ∀ right ∈ ledger.orders.flatMap Order.rights ++ rights,
      right ≠ .bid entry.id ∧ right ≠ .leave entry.id

variable {rights : List Right} {ledger after : Ledger}

/-- Rights stay apart where an entry changes that serves only if it served. -/
theorem Warrants.change
    {id : Nat}
    {revise : LedgerEntry → LedgerEntry}
    (warrants : ledger.Warrants rights)
    (sameId : ∀ entry, (revise entry).id = entry.id)
    (serving : ∀ entry ∈ ledger.entries, entry.id = id → (revise entry).state.isServing = true →
      entry.state.isServing = true) :
    (ledger.change id revise).Warrants rights where
  numbered := warrants.numbered.change id sameId
  once := warrants.once
  known := by
    rw [change_ids sameId]
    exact warrants.known
  serving entry member serves := by
    obtain ⟨old, isOld, rfl⟩ := List.mem_map.mp member
    split at serves
    · rename_i isChanged
      rw [if_pos isChanged, sameId]
      exact warrants.serving old isOld (serving old isOld isChanged serves)
    · rename_i different
      rw [if_neg different]
      exact warrants.serving old isOld serves

/-- A new session was not told anything. -/
theorem Warrants.enroll
    (warrants : ledger.Warrants rights)
    (root : Option Path)
    (buffer : Int) :
    (ledger.enroll root buffer).Warrants rights := by
  have ids : (ledger.enroll root buffer).ids = ledger.ids ++ [ledger.nextId] := by
    simp [Ledger.ids, Ledger.enroll, LedgerEntry.starting]
  have unused : ledger.nextId ∉ ledger.ids :=
    fun used => Nat.lt_irrefl _ (warrants.numbered.below _ used)
  refine ⟨warrants.numbered.enroll root buffer, warrants.once, fun right member id isStop => ?_,
    fun entry member serves right isRight => ?_⟩
  · rw [ids]
    exact List.mem_append_left _ (warrants.known right member id isStop)
  · rcases List.mem_append.mp member with old | isLast
    · exact warrants.serving entry old serves right isRight
    · cases List.mem_singleton.mp isLast
      exact ⟨fun same => unused (warrants.known right isRight _ (.inl same)),
        fun same => unused (warrants.known right isRight _ (.inr same))⟩

/-- A session that served is told to stop, and the order comes with rights that nobody had. -/
theorem Warrants.halt
    {entry : LedgerEntry}
    (warrants : ledger.Warrants rights)
    (known : entry ∈ ledger.entries)
    (serves : entry.state.isServing = true) :
    ((ledger.change entry.id (·.enter .stopping)).tell (.terminate entry.id)).Warrants rights := by
  have halted : (ledger.change entry.id (·.enter .stopping)).Warrants rights :=
    warrants.change (fun _ => rfl) fun _ _ _ serving => by cases serving
  -- A session that still serves was not told to stop, so nobody has the two rights that come now.
  have apart := warrants.serving entry known serves
  have noBid : Right.bid entry.id ∉ ledger.orders.flatMap Order.rights ++ rights :=
    fun member => (apart _ member).1 rfl
  have noLeave : Right.leave entry.id ∉ ledger.orders.flatMap Order.rights ++ rights :=
    fun member => (apart _ member).2 rfl
  have told : (((ledger.change entry.id (·.enter .stopping)).tell (.terminate entry.id)).orders.flatMap
      Order.rights ++ rights).Perm
        (.bid entry.id :: .leave entry.id :: (ledger.orders.flatMap Order.rights ++ rights)) := by
    simp only [tell, Ledger.change, List.flatMap_append, List.flatMap_cons, List.flatMap_nil,
      Order.rights, List.append_nil, List.append_assoc, List.cons_append, List.nil_append]
    exact (List.perm_middle.trans (List.Perm.cons _ List.perm_middle))
  have starts : ∀ session, Order.terminate entry.id ≠ .launch session := by
    intro session same
    cases same
  refine ⟨halted.numbered.tell (fun id same => (starts id same).elim), told.nodup_iff.mpr ?_,
    fun right member id isStop => ?_, fun other member serving right isRight => ?_⟩
  · refine List.nodup_cons.mpr ⟨fun member => ?_, List.nodup_cons.mpr ⟨noLeave, warrants.once⟩⟩
    rcases List.mem_cons.mp member with same | old
    · cases same
    · exact noBid old
  · have idsSame : ((ledger.change entry.id (·.enter .stopping)).tell
        (.terminate entry.id)).ids = ledger.ids := change_ids fun _ => rfl
    rw [idsSame]
    rcases List.mem_cons.mp (told.subset member) with rfl | more
    · rcases isStop with same | same
      · cases same
        exact id_mem_ids known
      · cases same
    · rcases List.mem_cons.mp more with rfl | old
      · rcases isStop with same | same
        · cases same
        · cases same
          exact id_mem_ids known
      · exact warrants.known right old id isStop
  · have different : other.id ≠ entry.id := by
      obtain ⟨old, _, rfl⟩ := List.mem_map.mp member
      split at serving
      · cases serving
      · rename_i different
        rwa [if_neg different]
    rcases List.mem_cons.mp (told.subset isRight) with rfl | more
    · exact ⟨fun same => different (Right.bid.inj same).symm, fun same => by cases same⟩
    · rcases List.mem_cons.mp more with rfl | old
      · exact ⟨(fun same => by cases same), fun same => different (Right.leave.inj same).symm⟩
      · exact halted.serving other member serving right old

/-- Every turn keeps rights apart. -/
theorem Warrants.turn
    (warrants : ledger.Warrants rights)
    (turn : ledger.Turn after) :
    after.Warrants rights := by
  cases turn with
  | enroll root buffer vacant =>
      exact warrants.enroll root buffer
  | attach entry known buffer =>
      exact warrants.change (fun _ => rfl) fun _ _ _ => id
  | launch entry known =>
      have sameOrders : (ledger.tell (.launch entry.id)).orders.flatMap Order.rights =
          ledger.orders.flatMap Order.rights := by
        simp [tell, Order.rights]
      refine ⟨warrants.numbered.turn (.launch entry known), ?_, ?_, ?_⟩
      · rw [sameOrders]
        exact warrants.once
      · rw [sameOrders]
        exact warrants.known
      · rw [sameOrders]
        exact warrants.serving
  | halt entry known active moving =>
      refine warrants.halt known ?_
      simp [SessionState.isServing, active, moving]
  | equip entry known starting =>
      have equipped : (ledger.change entry.id (·.equipped ledger.names)).Warrants rights :=
        warrants.change (fun _ => rfl) fun _ _ _ => id
      exact ⟨equipped.numbered.host _, equipped.once, equipped.known, equipped.serving⟩
  | welcome entry known starting equipped =>
      refine warrants.change (fun _ => rfl) fun old isOld sameId _ => ?_
      rw [warrants.numbered.eq_of_id_eq isOld known sameId, starting]
      rfl

theorem Warrants.turns
    (warrants : ledger.Warrants rights)
    (turns : ledger.Turns after) :
    after.Warrants rights := by
  induction turns with
  | refl =>
      exact warrants
  | tail _ last inductionHypothesis =>
      exact inductionHypothesis.turn last

/-- Only sessions run of which something is so. -/
def RunsOnly (may : Nat → Prop) (ledger : Ledger) : Prop :=
  ∀ entry ∈ ledger.entries, entry.state = .running → may entry.id

theorem RunsOnly.change
    {may : Nat → Prop}
    {id : Nat}
    {revise : LedgerEntry → LedgerEntry}
    (runsOnly : ledger.RunsOnly may)
    (sameId : ∀ entry, (revise entry).id = entry.id)
    (running : ∀ entry, entry.id = id → (revise entry).state = .running →
      entry.state = .running ∨ may entry.id) :
    (ledger.change id revise).RunsOnly may := by
  intro entry member runs
  obtain ⟨old, isOld, rfl⟩ := List.mem_map.mp member
  split at runs
  · rename_i isChanged
    rw [if_pos isChanged, sameId]
    exact (running old isChanged runs).elim (runsOnly old isOld) fun allowed => allowed
  · rename_i different
    rw [if_neg different]
    exact runsOnly old isOld runs

end Ledger

namespace Act

variable {α β : Type} {may : Nat → Prop}

/-- An act lets only sessions run of which something is so. -/
def Wakes (may : Nat → Prop) (act : Act α) : Prop :=
  ∀ desk, desk.ledger.RunsOnly may → (after act desk).ledger.RunsOnly may

theorem Keeps.wakes
    {act : Act α}
    (keeps : Keeps act) :
    act.Wakes may := by
  intro desk runsOnly
  rw [keeps desk]
  exact runsOnly

theorem Wakes.bind
    {act : Act α}
    {next : α → Act β}
    (first : act.Wakes may)
    (second : ∀ value, (next value).Wakes may) :
    (act >>= next).Wakes may := by
  intro desk runsOnly
  apply after_bind_of fun left => left.ledger.RunsOnly may
  · intro _ _
    exact first desk runsOnly
  · intro value _
    exact second value _ (first desk runsOnly)

theorem wakes_transition
    {id : Nat}
    {state : SessionState}
    (allowed : state = .running → may id) :
    (transition id state).Wakes may := by
  intro desk runsOnly
  rw [ledger_transition]
  exact runsOnly.change (fun _ => rfl) fun entry isChanged runs => .inr (isChanged ▸ allowed runs)

theorem wakes_stopAll (sessions : List Session) : (stopAll sessions).Wakes may := by
  induction sessions with
  | nil =>
      exact (keeps_pure ()).wakes
  | cons session rest inductionHypothesis =>
      refine Wakes.bind (fun desk runsOnly => ?_) fun _ => inductionHypothesis
      rw [ledger_stopSession]
      split
      · exact runsOnly
      · exact runsOnly.change (fun _ => rfl) fun _ _ runs => by cases runs

theorem wakes_stop (buffer : Option Int) : (stop buffer).Wakes may := by
  refine (keeps_chosenBuffer buffer).wakes.bind fun number => ?_
  refine keeps_get.wakes.bind fun desk => ?_
  exact (wakes_stopAll _).bind fun _ => (keeps_pure _).wakes

theorem wakes_onInit
    {id : Nat}
    (allowed : may id) :
    (onInit id).Wakes may := by
  refine keeps_get.wakes.bind fun desk => ?_
  cases found : desk.registry.get? id with
  | none =>
      exact (keeps_pure ()).wakes
  | some session =>
      have sameId := (entry_of_get? found).2
      dsimp only
      split
      · refine (keeps_installTransform _).wakes.bind fun _ => Wakes.bind (fun desk runsOnly => ?_)
          fun _ => (keeps_offerReload _).wakes.bind fun _ => ?_
        · rw [ledger_equip]
          exact runsOnly.change (fun _ => rfl) fun _ _ runs => .inl runs
        · refine (wakes_transition nofun).bind fun _ => ?_
          refine (wakes_transition fun _ => sameId.symm ▸ allowed).bind fun _ => ?_
          exact (keeps_get.bind fun _ => (keeps_say _ _).bind fun _ => keeps_tellAll _ _ _).wakes
      · exact (keeps_say _ _).wakes

/-- What an act does to a ledger are turns, and it lets only sessions run of which something is so. -/
structure IsMannerlyAt (may : Nat → Prop) (act : Act α) (desk : Desk) : Prop where
  turns : desk.ledger.Turns (after act desk).ledger
  running : desk.ledger.RunsOnly may → (after act desk).ledger.RunsOnly may

theorem isMannerlyAt_stop
    {desk : Desk}
    (numbered : desk.ledger.Numbered)
    (buffer : Option Int) :
    IsMannerlyAt may (stop buffer) desk :=
  ⟨turns_stop numbered buffer, wakes_stop buffer desk⟩

theorem isMannerlyAt_onInit
    {id : Nat}
    (allowed : may id)
    (desk : Desk) :
    IsMannerlyAt may (onInit id) desk :=
  ⟨turns_onInit id desk, wakes_onInit allowed desk⟩

theorem isMannerlyAt_start
    {desk : Desk}
    (numbered : desk.ledger.Numbered)
    (overrides : Config.Entries Setting)
    (buffer : Option Int) :
    IsMannerlyAt may (start overrides buffer) desk := by
  refine ⟨turns_startWith keeps_resolveRoot numbered overrides buffer, fun runsOnly => ?_⟩
  refine holds_start runsOnly (fun server root number ready same => ?_) overrides buffer
  rw [← same] at numbered runsOnly
  have enrolled : (ready.ledger.enroll root number).RunsOnly may := by
    intro entry member runs
    rcases List.mem_append.mp member with old | isLast
    · exact runsOnly entry old runs
    · cases List.mem_singleton.mp isLast
      cases runs
  obtain ⟨entry, _, _, _, _, joined⟩ | ⟨_, launches⟩ := ledger_startAt numbered server root number
  · rw [joined]
    exact runsOnly.change (fun _ => rfl) fun _ _ runs => .inl runs
  · have sameAfter : after (startAt server root number) ready =
        after (launch server root number) ready := congrArg Prod.snd launches
    rw [sameAfter]
    obtain ⟨_, left⟩ | ⟨_, left | left⟩ := ledger_launch numbered server root number
    · rw [left]
      exact enrolled
    · rw [left]
      exact runsOnly
    · rw [left]
      exact enrolled

end Act

namespace Station

variable {station : Station} {hand : List Right}

/-- What is done at a desk that is at rest keeps manners, and its orders come with rights. -/
theorem Mannered.desk
    {desk : Desk}
    (mannered : station.Mannered hand)
    (turns : ({ station.desk with orders := [] } : Desk).ledger.Turns desk.ledger)
    (running : ({ station.desk with orders := [] } : Desk).ledger.RunsOnly
        (IsIntroduced station.chronicle) →
      desk.ledger.RunsOnly (IsIntroduced station.chronicle)) :
    ({ station with desk := { desk with orders := [] } } : Station).Mannered
      (desk.orders.flatMap Order.rights ++ hand) := by
  have isStop : ∀ {id : Nat} {right : Right}, right = .bid id ∨ right = .leave id →
      station.Knows right → id ∈ station.desk.ledger.ids := by
    rintro id right (rfl | rfl) knew
    · exact knew
    · exact knew
  have cleared : ({ station.desk with orders := [] } : Desk).ledger.Warrants
      (hand ++ station.rights) :=
    ⟨⟨mannered.numbered.distinct, mannered.numbered.below, mannered.numbered.listedDistinct,
      mannered.numbered.listedKnown, nofun⟩, mannered.once,
      fun right member id stops => isStop stops (mannered.known right member), mannered.serving⟩
  have warrants := cleared.turns turns
  have lasts := (cleared.numbered.turns turns).2
  refine ⟨⟨?_, fun right member => ?_, fun entry member serves right isRight => ?_⟩,
    mannered.frames, mannered.orderly, mannered.unheard, mannered.introduced,
    ⟨warrants.numbered.distinct, warrants.numbered.below, warrants.numbered.listedDistinct,
      warrants.numbered.listedKnown, nofun⟩, running mannered.running⟩
  · rw [List.append_assoc]
    exact warrants.once
  · rw [List.append_assoc] at member
    cases right with
    | accept session =>
        refine (List.mem_append.mp member).elim (fun told => ?_) (mannered.known _)
        obtain ⟨order, _, isRight⟩ := List.mem_flatMap.mp told
        cases order with
        | launch _ => cases isRight
        | terminate _ => simp [Order.rights] at isRight
    | bid session => exact warrants.known _ member session (.inl rfl)
    | leave session => exact warrants.known _ member session (.inr rfl)
  · rw [List.append_assoc] at isRight
    exact warrants.serving entry member serves right isRight

end Station

namespace Move

variable {α β : Type} {station : Station} {hand : List Right}

/-- Where clients keep manners they do so after a calm move. -/
theorem IsCalm.retains
    {move : Move α}
    {gives : α → Prop}
    (calm : IsCalm move gives)
    (mannered : station.Mannered hand) :
    Retains (Station.Mannered hand) station move
      fun value after => gives value ∧ station.Calm after := by
  obtain ⟨isCalm, given⟩ := calm station mannered.numbered
  exact ⟨mannered.unspoken isCalm.toUnspoken, fun value gave => ⟨given value gave, isCalm⟩⟩

theorem isCalm_launch (session : Nat) : IsCalm (launch session) fun _ => True :=
  IsCalm.bind (isCalm_spawn trivial) fun _ _ =>
    isCalm_modify fun station => station.calm_enterRun rfl

theorem retains_carryOut
    {order : Order}
    (mannered : station.Mannered (order.rights ++ hand)) :
    Retains (Station.Mannered hand) station (carryOut order) fun _ _ => True := by
  have without : station.Mannered hand := mannered.fewer (List.sublist_append_right _ _).subperm
  refine retains_get ?_
  split
  · exact ((isCalm_observe _).retains without).imp fun _ _ _ => trivial
  · exact ((isCalm_observe _).retains without).imp fun _ _ _ => trivial
  · exact ((isCalm_launch _).retains without).imp fun _ _ _ => trivial
  · refine retains_get ?_
    split
    · exact ⟨mannered.spawn trivial, fun _ _ => trivial⟩
    · split
      · exact ((isCalm_modifyLoop fun loop => loop.frameStacks_cancel _).retains without).imp
          fun _ _ _ => trivial
      · exact retains_pure without trivial

theorem retains_carryOutAll
    {orders : List Order}
    (mannered : station.Mannered (orders.flatMap Order.rights ++ hand)) :
    Retains (Station.Mannered hand) station (carryOutAll orders) fun _ _ => True := by
  induction orders generalizing station with
  | nil =>
      exact retains_pure mannered trivial
  | cons order rest inductionHypothesis =>
      rw [List.flatMap_cons, List.append_assoc] at mannered
      refine (retains_carryOut mannered).bindTo (fun after carried => ?_)
        fun _ _ carried _ => inductionHypothesis carried
      exact carried.fewer (List.sublist_append_right _ _).subperm

theorem retains_atDesk_of_mannerly
    {act : Act α}
    (mannered : station.Mannered hand)
    (mannerly : act.IsMannerlyAt (IsIntroduced station.chronicle)
      { station.desk with orders := [] }) :
    Retains (Station.Mannered hand) station (atDesk act) fun _ _ => True := by
  have changed := mannered.desk mannerly.turns mannerly.running
  refine retains_get ?_
  unfold Act.after Act.perform at changed
  generalize (ExceptT.run act).run { station.desk with orders := [] } = done at changed ⊢
  obtain ⟨result, desk⟩ := done
  have cleared : Retains
      (Station.Mannered (desk.orders.flatMap Order.rights ++ hand)) station
      (set { station with desk := { desk with orders := [] } })
      fun _ after => after = { station with desk := { desk with orders := [] } } :=
    ⟨changed, fun _ _ => rfl⟩
  refine cleared.bindTo (fun after mannered => ?_) fun _ mid mannered _ => ?_
  · exact mannered.fewer (List.sublist_append_right _ _).subperm
  · refine (retains_carryOutAll mannered).bind fun _ after manneredLate _ => ?_
    cases result with
    | ok value =>
        exact retains_pure manneredLate trivial
    | error failure =>
        exact retains_throw manneredLate

end Move

end AnalyzerSessions
