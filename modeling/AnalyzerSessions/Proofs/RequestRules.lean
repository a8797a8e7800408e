import AnalyzerSessions.Proofs.DeadlineRules
import AnalyzerSessions.Client.Request

namespace AnalyzerSessions.Move

/-!
# Rules for requests

What is written to a server and what is asked of it.  A call holds its token from
the moment when its request has a number until its end is on record.
-/

/-!
## Rules for the desk

What is done at the desk keeps a station sound, and so does carrying out what the
transport is told then.
-/

section

variable {α β : Type} {hand : List Token} {station : Station}

theorem keeps_get
    {next : Station → Move β}
    {gives : β → Station → Prop}
    {fails : Failure → Prop}
    (kept : Keeps hand station (next station) gives fails) :
    Keeps hand station (get >>= next) gives fails :=
  kept

theorem keeps_launch
    {session : Nat}
    (sound : station.Sound hand)
    (known : session ∈ station.desk.ledger.ids)
    (isNew : ∀ run ∈ station.runs, run.session ≠ session) :
    Keeps hand station (launch session) (fun _ after => station.NoNewClient after)
      fun _ => False := by
  refine ⟨sound.launch known isNew, fun other missing => ?_⟩
  rw [Station.client?, Option.bind_eq_none_iff] at missing ⊢
  intro run found
  have isThere := List.find?_append.symm.trans found
  cases early : station.run? other with
  | some old =>
      rw [Station.run?] at early
      rw [early] at isThere
      cases isThere
      exact missing run early
  | none =>
      rw [Station.run?] at early
      rw [early, Option.none_or] at isThere
      cases List.mem_singleton.mp (List.mem_of_find?_eq_some isThere)
      rfl

theorem keeps_terminate
    (sound : station.Sound hand)
    (session : Nat) :
    Keeps hand station (terminate session) (fun _ after => station.NoNewClient after)
      fun _ => False := by
  refine keeps_get ?_
  split
  · have admitted : station.Admits (.stopClient session) := trivial
    have spawned : Keeps hand station (spawn (.stopClient session))
        (fun _ after => station.NoNewClient after) fun _ => False :=
      ⟨sound.spawn admitted id, Station.noNewClient_of_runs_eq rfl⟩
    exact spawned.then_keeps fun _ _ comes noNew => keeps_pure comes.sound noNew
  · split
    · exact ⟨sound.cancel _, Station.noNewClient_of_runs_eq rfl⟩
    · exact keeps_pure sound (Station.noNewClient_of_runs_eq rfl)

theorem keeps_carryOut
    {order : Order}
    (sound : station.Sound hand)
    (fresh : ∀ session, order = .launch session →
      session ∈ station.desk.ledger.ids ∧ ∀ run ∈ station.runs, run.session ≠ session) :
    Keeps hand station (carryOut order) (fun _ after => station.NoNewClient after)
      fun _ => False := by
  have observed : ∀ event, Keeps hand station (observe event)
      (fun _ after => station.NoNewClient after) fun _ => False :=
    fun event => ⟨(keeps_observe sound event).1, Station.noNewClient_of_runs_eq rfl⟩
  refine keeps_get ?_
  split
  · exact observed _
  · exact observed _
  · obtain ⟨known, isNew⟩ := fresh _ rfl
    exact keeps_launch sound known isNew
  · exact keeps_terminate sound _

theorem keeps_carryOutAll
    {orders : List Order}
    (sound : station.Sound hand)
    (nothing : ∀ session, .launch session ∉ orders) :
    Keeps hand station (carryOutAll orders) (fun _ after => station.NoNewClient after)
      fun _ => False := by
  induction orders generalizing station with
  | nil =>
      exact keeps_pure sound (Station.noNewClient_of_runs_eq rfl)
  | cons order rest inductionHypothesis =>
      refine (keeps_carryOut sound fun session same => ?_).then_keeps fun _ mid comes noNew => ?_
      · exact (nothing session (same ▸ List.mem_cons_self)).elim
      · refine (inductionHypothesis comes.sound fun session member =>
          nothing session (List.mem_cons_of_mem order member)).imp ?_ fun _ => id
        exact fun _ _ _ late => noNew.trans late

theorem keeps_atDesk
    {act : Act α}
    (sound : station.Sound hand)
    (safe : act.IsSafeAt station.desk) :
    Keeps hand station (atDesk act)
      (fun value after => (Act.perform act station.desk).1 = .ok value ∧
        (Act.after act station.desk).ledger.Lasts after.desk.ledger ∧ station.NoNewClient after)
      fun failure => (Act.perform act station.desk).1 = .error failure := by
  have sameDesk : { station.desk with orders := [] } = station.desk := by
    rw [← sound.desk.silent]
  refine keeps_get ?_
  rw [sameDesk]
  obtain ⟨numbered, lasts, launches⟩ := safe
  unfold Act.after at numbered lasts launches ⊢
  unfold Act.perform at numbered lasts launches ⊢
  generalize (ExceptT.run act).run station.desk = done at numbered lasts launches ⊢
  obtain ⟨result, desk⟩ := done
  dsimp only at numbered lasts launches ⊢
  have numberedNow : ({ desk with orders := [] } : Desk).ledger.Numbered :=
    ⟨numbered.distinct, numbered.below, numbered.listedDistinct, numbered.listedKnown, nofun⟩
  have cleared : Comes hand station { station with desk := { desk with orders := [] } } :=
    sound.withDesk numberedNow rfl lasts station.launches
  have kept : Keeps hand station (set { station with desk := { desk with orders := [] } })
      (fun _ after => after = { station with desk := { desk with orders := [] } })
      fun _ => False :=
    ⟨cleared, rfl⟩
  refine kept.then_keeps fun _ mid comes same => ?_
  subst same
  have carried : Keeps hand { station with desk := { desk with orders := [] } }
      (carryOutAll desk.orders) (fun _ after => station.NoNewClient after) fun _ => False := by
    -- An act that launches a session leaves this as its only order, and the session has no run yet.
    by_cases some : ∃ session, .launch session ∈ desk.orders
    · obtain ⟨session, launched⟩ := some
      obtain ⟨only, isNew⟩ := launches session launched
      have known : session ∈ ({ desk with orders := [] } : Desk).ledger.ids :=
        numbered.launchedKnown session launched
      have isOnly : desk.orders = [.launch session] := only
      rw [isOnly]
      refine (keeps_carryOut comes.sound fun other same => ?_).then_keeps fun _ _ later noNew =>
        keeps_pure later.sound noNew
      cases same
      refine ⟨known, fun run member isRun => isNew ?_⟩
      exact isRun ▸ (sound.runs.each run member).known
    · exact keeps_carryOutAll comes.sound fun session launched => some ⟨session, launched⟩
  refine (carried.imp (fun _ _ _ => id) fun _ => False.elim).bind fun _ after later noNew => ?_
  cases result with
  | ok value =>
      exact keeps_pure later.sound ⟨rfl, later.onward.sessions, noNew⟩
  | error failure =>
      exact keeps_throw later.sound rfl

theorem keeps_atDesk_of_spares
    {act : Act α}
    (sound : station.Sound hand)
    (spares : act.Spares) :
    Keeps hand station (atDesk act) (fun _ _ => True) fun _ => True :=
  (keeps_atDesk sound (spares.isSafeAt sound.desk.numbered sound.desk.silent)).imp
    (fun _ _ _ _ => trivial) fun _ _ => trivial

theorem keeps_modifySession
    {change : Session → Session}
    (sound : station.Sound hand)
    (session : Nat)
    (same : ∀ session, (change session).entry = session.entry) :
    Keeps hand station (modifySession session change) (fun _ after => station.NoNewClient after)
      fun _ => False := by
  have spares : (Act.modifySession session change).Spares := (Act.keeps_modifySession same).spares
  refine (keeps_atDesk sound (spares.isSafeAt sound.desk.numbered sound.desk.silent)).imp
    (fun _ _ _ given => given.2.2) fun failure failed => ?_
  cases failed

end

/-! ## Rules for requests -/

variable {α β : Type} {hand : List Token} {station : Station}

/-! ## Clients, sessions and processes -/

theorem keeps_client
    (sound : station.Sound hand)
    (session : Nat) :
    Keeps hand station (client session)
      (fun client after => after = station ∧ station.client? session = some client)
      fun failure => ¬failure.IsResponse ∧ endsPolitely failure = false ∧
        ¬station.HasClient session := by
  refine keeps_get ?_
  split
  · rename_i found
    exact keeps_pure sound ⟨rfl, found⟩
  · rename_i missing
    refine keeps_throw sound ⟨id, rfl, fun present => ?_⟩
    obtain ⟨client, found⟩ := present
    cases missing.symm.trans found

theorem keeps_client_of
    {session : Nat}
    (sound : station.Sound hand)
    (present : station.HasClient session) :
    Keeps hand station (client session)
      (fun client after => after = station ∧ station.client? session = some client)
      fun _ => False :=
  (keeps_client sound session).imp (fun _ _ _ => id) fun _ failed => failed.2.2 present

theorem keeps_session
    (sound : station.Sound hand)
    (id : Nat) :
    Keeps hand station (session id)
      (fun session after => after = station ∧ station.session? id = some session)
      fun failure => ¬failure.IsResponse ∧ station.session? id = none := by
  refine keeps_get ?_
  split
  · rename_i found
    exact keeps_pure sound ⟨rfl, found⟩
  · rename_i missing
    exact keeps_throw sound ⟨fun isResponse => isResponse, missing⟩

theorem keeps_session_of
    {id : Nat}
    (sound : station.Sound hand)
    (known : id ∈ station.desk.ledger.ids) :
    Keeps hand station (session id)
      (fun session after => after = station ∧ station.session? id = some session)
      fun _ => False := by
  refine (keeps_session sound id).imp (fun _ _ _ => fun found => found) fun _ failed => ?_
  obtain ⟨entry, member, same⟩ := List.mem_map.mp known
  exact Act.entry_id_ne_of_get?_eq_none failed.2 member same

/-- The failure of a message that cannot be written is told by no server. -/
theorem not_isResponse_ofWrite (fault : Wire.WriteFault) : ¬(Failure.ofWrite fault).IsResponse := by
  cases fault <;> exact id

theorem keeps_throw_bind
    {failure : Failure}
    {next : α → Move β}
    {gives : β → Station → Prop}
    {fails : Failure → Prop}
    (sound : station.Sound hand)
    (failed : fails failure) :
    Keeps hand station (throw failure >>= next) gives fails := by
  have thrown : Keeps hand station (throw failure : Move α) (fun _ _ => False) fails :=
    keeps_throw sound failed
  exact thrown.bind fun _ _ _ never => never.elim

/-- A message is written to the server of a session, if that has a client and can be written to,
and that is put on record. -/
theorem keeps_write
    (sound : station.Sound hand)
    (session : Nat)
    (message : Json) :
    Keeps hand station (write session message)
      (fun _ after => .sent session message ∈ after.chronicle)
      fun failure => ¬failure.IsResponse := by
  unfold write
  refine ((keeps_client sound session).imp (fun _ _ _ => id) fun _ failed => failed.1).bind ?_
  rintro client _ comes ⟨rfl, found⟩
  split
  · exact keeps_throw_bind sound (not_isResponse_ofWrite _)
  · refine keeps_get ?_
    split
    · rename_i missing
      obtain ⟨known, isThere⟩ := (sound.clientFits found).process
      cases missing.symm.trans isThere
    · split
      · exact keeps_throw sound id
      · refine (keeps_observe sound _).then_keeps fun _ mid observed _ => ?_
        have recorded : Comes hand mid
            { mid with chronicle := mid.chronicle ++ [.sent session message] } :=
          Station.Sound.record observed.sound rfl trivial
        refine (keeps_change recorded).then_keeps ?_
        rintro _ after later rfl
        have reacted := later.sound.react client.process message
        refine keeps_modify reacted (reacted.onward.mem ?_)
        exact List.mem_append_right _ (List.mem_singleton_self _)

theorem keeps_notify
    (sound : station.Sound hand)
    (session : Nat)
    (method : String)
    (params : Json) :
    Keeps hand station (notify session method params)
      (fun next after => next = Next.done ∧
        .sent session (notificationMessage method params) ∈ after.chronicle)
      fun failure => ¬failure.IsResponse := by
  refine (keeps_write sound session _).bind fun _ mid comes sent => ?_
  refine (keeps_say comes.sound _ _).then_keeps fun _ after later _ => ?_
  exact keeps_pure later.sound ⟨rfl, later.onward.mem sent⟩

/-- Waiting for a flag leads to its being set. -/
theorem leads_awaitFlag
    (sound : station.Sound hand)
    (signpost : Signpost) :
    Leads hand station (awaitFlag signpost) .work := by
  refine leads_get ?_
  dsimp only
  split
  · exact leads_give sound trivial
  · rename_i lowered
    refine (keeps_newPromise sound id).then_leads ?_
    rintro promise mid comes ⟨told, sameRuns⟩
    have sameFlag : mid.flag signpost = station.flag signpost := by
      cases signpost <;> simp only [Station.flag, Station.client?, Station.run?, sameRuns]
    have waits : Comes hand mid (mid.setFlag signpost
        { station.flag signpost with
          waiters := (station.flag signpost).waiters ++ [promise] }) := by
      refine comes.sound.setFlag (fun waiter member => ?_) fun _ _ isSet => ?_
      · rcases List.mem_append.mp member with old | isNew
        · exact comes.onward.loop.topics (sound.flagFits signpost waiter old)
        · cases List.mem_singleton.mp isNew
          exact told
      · rw [sameFlag] at isSet
        exact (lowered isSet).elim
    exact leads_change waits (leads_pure waits.sound (Station.leads_await .any))

/-- Waiting for the exit of a process that is there leads to its exit code. -/
theorem leads_awaitExit
    {process : Nat}
    (sound : station.Sound hand)
    (known : ∃ state, station.process? process = some state) :
    Leads hand station (awaitExit process) (.exit process) := by
  obtain ⟨state, found⟩ := known
  refine leads_get ?_
  rw [found]
  dsimp only
  split
  · rename_i code exited
    exact leads_give sound ⟨code, rfl, state, found, exited⟩
  · refine (keeps_newPromise sound id).then_leads ?_
    rintro promise mid comes ⟨told, _⟩
    have waits : Comes hand mid (mid.modifyProcess process fun state =>
        { state with exitWaiters := state.exitWaiters ++ [promise] }) := by
      refine comes.sound.modifyProcess (fun _ _ _ => id) (fun _ => List.Subset.refl _) fun state fits => ?_
      refine ⟨fits.output, fits.errors, fun waiter member => ?_⟩
      rcases List.mem_append.mp member with old | isNew
      · exact fits.exit waiter old
      · cases List.mem_singleton.mp isNew
        exact told
    refine leads_change waits (leads_pure waits.sound (Station.leads_await ?_))
    exact .told (waits.onward.loop.topics told) trivial

/-! ## Requests -/

/-- The end of a call is put on record. -/
theorem leads_endRequest
    {session number : Nat}
    {outcome : Outcome}
    (sound : station.Sound (.call session number :: hand))
    (ends : CallEnds station.chronicle session number outcome)
    {method : String}
    (told : station.Holds (.reply session method) outcome) :
    Leads hand station (endRequest session number outcome) (.reply session method) := by
  have recorded : Comes hand station
      { station with chronicle := station.chronicle ++ [.settled session number outcome] } :=
    sound.record rfl ends
  exact leads_change recorded (leads_give recorded.sound (recorded.onward.holds told))

/-- A request is written and goes on, or its call comes to its end. -/
theorem leads_writeRequest
    {session number : Nat}
    {method : String}
    {message : Json}
    {next : Unit → Move Next}
    (sound : station.Sound (.call session number :: hand))
    (goesOn : ∀ mid, Comes (.call session number :: hand) station mid →
      .written session number ∈ mid.chronicle → .sent session message ∈ mid.chronicle →
      Leads hand mid (next ()) (.reply session method)) :
    Leads hand station (writeRequest session number message >>= next)
      (.reply session method) := by
  have kept := keeps_write sound session message
  unfold Keeps at kept
  unfold Leads
  rw [make_eq, perform_bind]
  unfold writeRequest
  rw [perform_bind, perform_tryCatch]
  generalize perform (write session message) station = result at kept ⊢
  rcases result with ⟨failure | _, mid⟩
  · have recorded : Comes hand mid
        { mid with chronicle := mid.chronicle ++ [.settled session number (.error failure)] } :=
      kept.1.sound.record rfl fun isServers => (kept.2 isServers).elim
    exact ⟨kept.1.trans recorded, Station.leads_give nofun⟩
  · have recorded : Comes (.call session number :: hand) mid
        { mid with chronicle := mid.chronicle ++ [.written session number] } :=
      kept.1.sound.record rfl trivial
    obtain ⟨comes, leads⟩ := goesOn _ (kept.1.trans recorded)
      (List.mem_append_right _ (List.mem_singleton_self _)) (recorded.onward.mem kept.2)
    exact ⟨(kept.1.trans recorded).trans comes, leads⟩

/-- Whether a value is a number of seconds does not concern the answer to a request. -/
theorem holds_answer_misuse
    (session number : Nat)
    (misuse : Misuse) :
    station.Holds (.answer session number) (.error (.misuse misuse)) := by
  intro isServers
  cases isServers

/-- A request leads to the end of its call. -/
theorem leads_request
    (sound : station.Sound hand)
    (session : Nat)
    (method : String)
    (params timeout : Json) :
    Leads hand station (request session method params timeout) (.reply session method) := by
  unfold request
  refine (keeps_client sound session).leads ?_ fun _ _ _ _ _ same => by cases same
  rintro client _ _ ⟨rfl, found⟩
  refine (keeps_newPromise sound id).then_leads ?_
  rintro promise mid promised ⟨told, sameRuns⟩
  have foundNow : mid.client? session = some client := by
    rw [← found]
    simp only [Station.client?, Station.run?, sameRuns]
  have issued := promised.sound.issue foundNow told
  refine leads_change issued ((keeps_say issued.sound _ _).then_leads fun _ said later _ => ?_)
  refine leads_writeRequest later.sound fun mid goesOn written sent => ?_
  have toldNow := (later.trans goesOn).onward.loop.topics (issued.onward.loop.topics told)
  refine (leads_awaitWithin goesOn.sound toldNow trivial (holds_answer_misuse _ _) _).into
    (.refl _) (fun after onward => .requested (onward.mem written) (onward.mem sent))
    fun _ same => by cases same

/-- A client may forget a call of which it is known otherwise what has become of it. -/
theorem comes_forget
    (sound : station.Sound hand)
    (session number : Nat)
    (known : (station.modifyClient session fun client => client.forget number).IsAccounted
      session number) :
    Comes hand station (station.modifyClient session fun client => client.forget number) := by
  refine sound.reviseClient (fun _ => rfl) (fun client fits => ?_) fun other call promise pends => ?_
  · exact ⟨fits.process, fun entry member => fits.pending entry (List.mem_of_mem_filter member),
      fits.reader, fits.drain, fits.quiescent⟩
  · by_cases isForgotten : other = session ∧ call = number
    · obtain ⟨rfl, rfl⟩ := isForgotten
      exact known
    · obtain ⟨client, found, waits⟩ := pends
      have now : (station.modifyClient session fun client => client.forget number).client? other =
          some (if other = session then client.forget number else client) := by
        rw [Station.client?_modifyClient, found]
        rfl
      have stillWaits : (station.modifyClient session fun client => client.forget number).Pends
          other call promise := by
        refine ⟨_, now, ?_⟩
        split
        · rename_i same
          refine List.mem_filter.mpr ⟨waits, ?_⟩
          simpa using fun isCall => isForgotten ⟨same, isCall⟩
        · exact waits
      exact .waits stillWaits

/-- After the answer to a request its call comes to its end. -/
theorem leads_afterRequest
    {session number : Nat}
    {method : String}
    {outcome : Outcome}
    (sound : station.Sound (.call session number :: hand))
    (told : station.Holds (.answer session number) outcome)
    (sent : ∃ params, .sent session (requestMessage number method params) ∈ station.chronicle)
    (limit : Json) :
    Leads hand station (afterRequest session number method limit outcome)
      (.reply session method) := by
  have notOver : ¬station.IsClosed session number := by
    rintro ⟨ended, settled⟩
    exact sound.only_in_hand.2 (List.mem_flatMap.mpr ⟨_, settled, List.mem_singleton_self _⟩)
  have answered : outcome.IsServers → WasAnswered station.chronicle session number outcome :=
    fun isServers => (told isServers).resolve_right notOver
  unfold afterRequest
  split
  · -- The end of the call is put on record before it is forgotten, which comes to the same.
    have recorded : Comes hand station { station with chronicle := station.chronicle ++
        [.settled session number (.error (requestTimedOut method limit))] } :=
      sound.record rfl fun _ => .inr ⟨method, limit, rfl⟩
    have forgotten := comes_forget recorded.sound session number
      (.resolved (.closed ⟨_, List.mem_append_right _ (List.mem_singleton_self _)⟩))
    exact ⟨recorded.trans forgotten, Station.leads_give nofun⟩
  · refine leads_endRequest sound (fun isServers => .inl (answered isServers)) ?_
    rintro value rfl
    obtain ⟨params, isSent⟩ := sent
    exact ⟨number, params, isSent, answered trivial⟩

end AnalyzerSessions.Move
