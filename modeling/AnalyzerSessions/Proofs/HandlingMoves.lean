import AnalyzerSessions.Proofs.OpenCalls

namespace AnalyzerSessions

/-!
# Moves that handle messages

Handling a request or a notification of a server leaves most of a station alone: a
property is light if it is kept by what is noted on the way, by new promises and
timers, by what servers do when they get a message, and by the flags of quiet servers.
Whatever is light is retained, and the handling ends or waits for a time to come.
-/

namespace Move

variable {α β : Type} {holds : Station → Prop} {station : Station}

/-- What holds is retained by a move, also when it fails, and what the move gives is as said. -/
def Retains
    (holds : Station → Prop)
    (station : Station)
    (move : Move α)
    (gives : α → Station → Prop) : Prop :=
  holds (perform move station).2 ∧
    ∀ value, (perform move station).1 = .ok value → gives value (perform move station).2

theorem retains_pure
    {value : α}
    {gives : α → Station → Prop}
    (held : holds station)
    (given : gives value station) :
    Retains holds station (pure value) gives := by
  refine ⟨held, fun other same => ?_⟩
  cases same
  exact given

theorem retains_throw
    {failure : Failure}
    {gives : α → Station → Prop}
    (held : holds station) :
    Retains holds station (throw failure) gives :=
  ⟨held, nofun⟩

theorem retains_throw_bind
    {failure : Failure}
    {next : α → Move β}
    {gives : β → Station → Prop}
    (held : holds station) :
    Retains holds station (throw failure >>= next) gives :=
  ⟨held, nofun⟩

theorem retains_modify
    {change : Station → Station}
    (held : holds (change station)) :
    Retains holds station (modify change) fun _ _ => True :=
  ⟨held, fun _ _ => trivial⟩

theorem retains_get
    {next : Station → Move β}
    {gives : β → Station → Prop}
    (kept : Retains holds station (next station) gives) :
    Retains holds station (get >>= next) gives :=
  kept

/-- Two moves in a row, of which the second one retains what follows from what the first one does. -/
theorem Retains.bindTo
    {move : Move α}
    {next : α → Move β}
    {later : Station → Prop}
    {gives : α → Station → Prop}
    {tells : β → Station → Prop}
    (first : Retains holds station move gives)
    (follows : ∀ after, holds after → later after)
    (second : ∀ value mid, holds mid → gives value mid → Retains later mid (next value) tells) :
    Retains later station (move >>= next) tells := by
  unfold Retains at first ⊢
  rw [perform_bind]
  generalize perform move station = result at first ⊢
  rcases result with ⟨failure | value, mid⟩
  · exact ⟨follows mid first.1, nofun⟩
  · exact second value mid first.1 (first.2 value rfl)

theorem Retains.bind
    {move : Move α}
    {next : α → Move β}
    {gives : α → Station → Prop}
    {tells : β → Station → Prop}
    (first : Retains holds station move gives)
    (second : ∀ value mid, holds mid → gives value mid → Retains holds mid (next value) tells) :
    Retains holds station (move >>= next) tells :=
  first.bindTo (fun _ => id) second

theorem Retains.imp
    {move : Move α}
    {gives tells : α → Station → Prop}
    (retains : Retains holds station move gives)
    (given : ∀ value after, gives value after → tells value after) :
    Retains holds station move tells :=
  ⟨retains.1, fun value gave => given value _ (retains.2 value gave)⟩

/-- A move of which the failure is dealt with. -/
theorem Retains.recover
    {move : Move α}
    {recover : Failure → Move α}
    {gives : α → Station → Prop}
    (tried : Retains holds station move gives)
    (recovered : ∀ failure mid, holds mid → Retains holds mid (recover failure) gives) :
    Retains holds station (tryCatch move recover) gives := by
  unfold Retains at tried ⊢
  rw [perform_tryCatch]
  generalize perform move station = result at tried ⊢
  rcases result with ⟨failure | value, mid⟩
  · exact recovered failure mid tried.1
  · exact tried

theorem retains_client
    (held : holds station)
    (session : Nat) :
    Retains holds station (client session)
      fun client after => after = station ∧ station.client? session = some client := by
  refine retains_get ?_
  split
  · rename_i found
    exact retains_pure held ⟨rfl, found⟩
  · exact retains_throw held

theorem retains_session
    (held : holds station)
    (id : Nat) :
    Retains holds station (session id)
      fun session after => after = station ∧ station.session? id = some session := by
  refine retains_get ?_
  split
  · rename_i found
    exact retains_pure held ⟨rfl, found⟩
  · exact retains_throw held

end Move

/-! ## Light properties -/

/-- Anything but a message to a server that names a method. -/
def Occurrence.IsSilent : Occurrence → Prop
  | sent _ message => message.get? "method" = none
  | _ => True

/-- A frame in which a message of a server is still being handled. -/
inductive Frame.IsHandling : Frame → Prop where
  | answering (session : Nat) (method id : Json) : IsHandling (.answering session method id)
  | noted (session : Nat) (method : Json) : IsHandling (.noted session method)
  | slept (code : Code) (arguments : List Json) (time : Option Nat) :
      IsHandling (.slept code arguments time)

/-- Ledgers that differ at most in the user commands of the host, and in orders that were withdrawn. -/
structure Ledger.SameSessions (before after : Ledger) : Prop where
  same : after = { before with orders := after.orders, hostCommands := after.hostCommands }
  orders : after.orders ⊆ before.orders

theorem Ledger.SameSessions.refl (ledger : Ledger) : ledger.SameSessions ledger :=
  ⟨rfl, List.Subset.refl _⟩

namespace Station

/-- A property that is kept by most of what happens when a message is handled. -/
structure IsLight (holds : Station → Prop) : Prop where
  papers : ∀ {station : Station} {desk : Desk},
    station.desk.ledger.SameSessions desk.ledger → holds station → holds { station with desk }
  record : ∀ {station : Station} {occurrence : Occurrence}, occurrence.IsSilent →
    holds station → holds { station with chronicle := station.chronicle ++ [occurrence] }
  promise : ∀ {station : Station}, holds station →
    holds (station.modifyLoop fun loop => (loop.newPromise .tick).2)
  timers : ∀ {station : Station} {timers : TimerHeap}, holds station →
    holds (station.modifyLoop fun loop => { loop with timers })
  react : ∀ {station : Station} (number : Nat) (message : Json), holds station →
    holds (station.react number message)
  raise : ∀ {station : Station} (session : Nat), holds station →
    holds (station.raise (.quiescent session))
  lower : ∀ {station : Station} (session : Nat), holds station →
    holds (station.lower (.quiescent session))

/-- What is next while a message is handled: frames of the handling, and at most a wait for a time
to come. -/
structure HandlesOn (station : Station) (next : Next) : Prop where
  frames : ∀ frame ∈ next.frames, frame.IsHandling
  awaits : ∀ promise, next.pause = .await promise → station.loop.topic? promise = some .tick

/-- The handling of a message may let others go first, or wait for a time to come. -/
theorem handlesOn_of_noFrames
    {station : Station}
    {pause : Pause}
    (awaits : ∀ promise, pause = .await promise → station.loop.topic? promise = some .tick) :
    station.HandlesOn ⟨[], pause⟩ :=
  ⟨fun _ member => (List.not_mem_nil member).elim, awaits⟩

/-- The handling of a message may end at once. -/
theorem handlesOn_give
    (station : Station)
    (outcome : Outcome) :
    station.HandlesOn (.give outcome) :=
  handlesOn_of_noFrames nofun

theorem HandlesOn.into
    {station : Station}
    {next : Next}
    {frame : Frame}
    (handlesOn : station.HandlesOn next)
    (isHandling : frame.IsHandling) :
    station.HandlesOn (next.into frame) := by
  refine ⟨fun known member => ?_, handlesOn.awaits⟩
  rcases List.mem_append.mp member with old | isLast
  · exact handlesOn.frames known old
  · cases List.mem_singleton.mp isLast
    exact isHandling

end Station

namespace Move

variable {α : Type} {holds : Station → Prop} {station : Station}

/-- What gives no orders is done at the desk alone. -/
theorem perform_atDesk_of_silent
    {act : Act α}
    (silent : (Act.after act { station.desk with orders := [] }).orders = []) :
    perform (atDesk act) station =
      ((Act.perform act { station.desk with orders := [] }).1,
        { station with desk := Act.after act { station.desk with orders := [] } }) := by
  unfold atDesk
  rw [perform_get_bind]
  unfold Act.after Act.perform at silent ⊢
  generalize (ExceptT.run act).run { station.desk with orders := [] } = done at silent ⊢
  obtain ⟨result, desk⟩ := done
  have silentDesk : desk.orders = [] := silent
  have sameDesk : { desk with orders := [] } = desk := by
    rw [← silentDesk]
  dsimp only
  rw [silentDesk, sameDesk]
  cases result <;> rfl

/-- What spares the sessions is done at the desk alone. -/
theorem perform_atDesk
    {act : Act α}
    (spares : act.Spares)
    (station : Station) :
    perform (atDesk act) station =
      ((Act.perform act { station.desk with orders := [] }).1,
        { station with desk := Act.after act { station.desk with orders := [] } }) := by
  obtain ⟨commands, same⟩ := spares { station.desk with orders := [] }
  exact perform_atDesk_of_silent (congrArg Ledger.orders same)

section

variable (light : Station.IsLight holds) (held : holds station)

include light held

theorem retains_observe (event : Event) :
    Retains holds station (observe event) fun _ _ => True :=
  retains_modify (light.papers (.refl _) held)

theorem retains_say
    (level : Level)
    (text : String) :
    Retains holds station (say level text) fun _ _ => True :=
  retains_modify (light.papers (.refl _) held)

theorem retains_atDesk
    {act : Act α}
    (spares : act.Spares) :
    Retains holds station (atDesk act) fun _ _ => True := by
  obtain ⟨commands, same⟩ := spares { station.desk with orders := [] }
  unfold Retains
  rw [perform_atDesk spares]
  have sameSessions : station.desk.ledger.SameSessions
      (Act.after act { station.desk with orders := [] }).ledger := by
    rw [same]
    exact ⟨rfl, List.nil_subset _⟩
  exact ⟨light.papers sameSessions held, fun _ _ => trivial⟩

theorem retains_write
    {message : Json}
    (noMethod : message.get? "method" = none)
    (session : Nat) :
    Retains holds station (write session message) fun _ _ => True := by
  refine (retains_client held session).bind fun client mid heldMid _ => ?_
  split
  · exact retains_throw_bind heldMid
  · refine retains_get ?_
    split
    · exact retains_pure heldMid trivial
    · split
      · exact retains_throw heldMid
      · refine (retains_observe light heldMid _).bind fun _ seen heldSeen _ => ?_
        have isSilent : (Occurrence.sent session message).IsSilent := noMethod
        refine Retains.bind (retains_modify (light.record isSilent heldSeen)) fun _ _ heldSent _ => ?_
        exact retains_modify (light.react client.process message heldSent)

/-! ## Handlers -/

theorem retains_endCode
    (code : Code)
    (arguments : List Json) :
    Retains holds station (endCode code arguments) fun next after => after.HandlesOn next := by
  refine (retains_observe light held _).bind fun _ mid heldMid _ => ?_
  split
  · exact retains_pure heldMid (mid.handlesOn_give _)
  · exact retains_pure heldMid (mid.handlesOn_give _)

theorem retains_callCode
    (code : Code)
    (arguments : List Json) :
    Retains holds station (callCode code arguments) fun next after => after.HandlesOn next := by
  unfold callCode
  split
  · exact retains_endCode light held code arguments
  · split
    · have yields : station.HandlesOn Next.yield := Station.handlesOn_of_noFrames nofun
      exact retains_pure held (yields.into (.slept code arguments none))
    · refine ⟨light.timers (light.promise held), fun next same => ?_⟩
      cases same
      refine (Station.handlesOn_of_noFrames fun promise same => ?_).into (.slept code arguments _)
      cases same
      show (station.loop.newPromise .tick).2.topic? station.loop.promises.length = some .tick
      rw [Loop.topic?_newPromise, if_pos rfl]

theorem retains_afterSleep
    (code : Code)
    (arguments : List Json)
    (time : Option Nat)
    (outcome : Outcome) :
    Retains holds station (afterSleep code arguments time outcome)
      fun next after => after.HandlesOn next := by
  unfold afterSleep
  split
  · exact retains_endCode light held code arguments
  · dsimp only
    split
    · refine Retains.bind (retains_modify (light.timers held)) fun _ mid heldMid _ => ?_
      exact retains_pure heldMid (mid.handlesOn_give _)
    · exact retains_pure held (station.handlesOn_give _)

theorem retains_callHandler
    (session : Session)
    (params : Json)
    (handler : Handler) :
    Retains holds station (callHandler session params handler)
      fun next after => after.HandlesOn next := by
  cases handler with
  | status =>
      refine (retains_atDesk light held (Act.keeps_noteStatus session params).spares).bind ?_
      exact fun _ mid heldMid _ => retains_pure heldMid (mid.handlesOn_give _)
  | applyEdit =>
      refine (retains_atDesk light held (Act.spares_answerApplyEdit session params)).bind ?_
      exact fun _ mid heldMid _ => retains_pure heldMid (mid.handlesOn_give _)
  | supplied code =>
      exact retains_callCode light held code [params]
  | value value =>
      exact retains_throw held

theorem retains_dispatch
    (id : Nat)
    (method params : Json) :
    Retains holds station (dispatch id method params)
      fun found after => ∀ next, found = some next → after.HandlesOn next := by
  refine (retains_session held id).bind fun session mid heldMid _ => ?_
  split
  · refine retains_pure heldMid fun next same => ?_
    cases same
    exact mid.handlesOn_give _
  · exact retains_pure heldMid nofun
  · rename_i handler _
    have called : Retains holds mid (tryCatch (callHandler session params handler) fun failure =>
        return Next.fail failure) fun next after => after.HandlesOn next :=
      (retains_callHandler light heldMid session params handler).recover
        fun failure after heldAfter => retains_pure heldAfter (after.handlesOn_give _)
    refine called.bind fun next after heldAfter handlesOn => retains_pure heldAfter ?_
    intro other same
    cases same
    exact handlesOn

/-! ## Requests and notifications -/

theorem retains_respond
    (session : Nat)
    (id : Json)
    (body : Except Json Json) :
    Retains holds station (respond session id body) fun next after => after.HandlesOn next := by
  refine (retains_write light held ?_ session).bind fun _ mid heldMid _ =>
    retains_pure heldMid (mid.handlesOn_give _)
  cases body <;> rfl

theorem retains_answerUnhandled
    (session : Nat)
    (method id params : Json) :
    Retains holds station (answerUnhandled session method id params)
      fun next after => after.HandlesOn next := by
  unfold answerUnhandled
  split
  · refine (retains_session held session).bind fun known mid heldMid _ => ?_
    split
    · exact retains_throw heldMid
    · exact retains_respond light heldMid session id _
  · split
    · exact retains_respond light held session id _
    · exact retains_respond light held session id _

theorem retains_handleRequest
    (session : Nat)
    (method id params : Json) :
    Retains holds station (handleRequest session method id params)
      fun next after => after.HandlesOn next := by
  refine (retains_say light held _ _).bind fun _ mid heldMid _ => ?_
  refine (retains_dispatch light heldMid session method params).bind ?_
  intro found after heldAfter handlesOn
  split
  · exact retains_pure heldAfter ((handlesOn _ rfl).into (.answering session method id))
  · exact retains_answerUnhandled light heldAfter session method id params

theorem retains_afterHandler
    (session : Nat)
    (method id : Json)
    (outcome : Outcome) :
    Retains holds station (afterHandler session method id outcome)
      fun next after => after.HandlesOn next := by
  unfold afterHandler
  split
  · exact retains_respond light held session id _
  · exact retains_respond light held session id _
  · exact retains_pure held (station.handlesOn_give _)
  · exact (retains_say light held _ _).bind fun _ mid heldMid _ =>
      retains_respond light heldMid session id _

theorem retains_handleNotification
    (session : Nat)
    (method params : Json) :
    Retains holds station (handleNotification session method params)
      fun next after => after.HandlesOn next := by
  refine (retains_say light held _ _).bind fun _ mid heldMid _ => ?_
  refine (retains_dispatch light heldMid session method params).bind ?_
  intro found after heldAfter handlesOn
  refine retains_pure heldAfter (Station.HandlesOn.into ?_ (.noted session method))
  cases found with
  | none =>
      exact after.handlesOn_give _
  | some next =>
      exact handlesOn next rfl

theorem retains_followStatus (session : Nat) :
    Retains holds station (followStatus session) fun _ _ => True := by
  refine retains_get ?_
  dsimp only
  split
  · exact retains_modify (light.raise session held)
  · exact retains_modify (light.lower session held)

theorem retains_afterNotification
    (session : Nat)
    (method : Json)
    (outcome : Outcome) :
    Retains holds station (afterNotification session method outcome)
      fun next after => after.HandlesOn next := by
  have followed : ∀ {mid : Station}, holds mid → Retains holds mid
      (do
        if method = .str "experimental/serverStatus" then followStatus session
        return Next.done) fun next after => after.HandlesOn next := by
    intro mid heldMid
    dsimp only
    split
    · exact (retains_followStatus light heldMid session).bind fun _ after heldAfter _ =>
        retains_pure heldAfter (after.handlesOn_give _)
    · exact retains_pure heldMid (mid.handlesOn_give _)
  unfold afterNotification
  split
  · exact retains_pure held (station.handlesOn_give _)
  · dsimp only
    split
    · exact (retains_say light held _ _).bind fun _ _ heldMid _ => followed heldMid
    · exact followed held

end

end Move

end AnalyzerSessions
