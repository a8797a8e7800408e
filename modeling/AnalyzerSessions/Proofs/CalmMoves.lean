import AnalyzerSessions.Proofs.CalmStations

namespace AnalyzerSessions

/-!
# Calm moves

A move is calm if what it does is calm wherever it is made, also when it fails.  Calm
moves are put together from calm parts, and what is next after one of them goes on in
free frames.  All moves are calm but those that talk to a server in the name of its
client, and those that let the manager do something for its sessions.
-/

/-- What is next goes on in free frames. -/
def Next.IsFree (next : Next) : Prop :=
  ∀ frame ∈ next.frames, frame.IsFree

theorem Next.isFree_of_noFrames (pause : Pause) : Next.IsFree ⟨[], pause⟩ :=
  fun _ member => (List.not_mem_nil member).elim

theorem Next.isFree_perform
    {job : Job}
    (free : job.IsFree) :
    (Next.perform job).IsFree := by
  intro frame member
  cases List.mem_singleton.mp member
  exact free

theorem Next.IsFree.into
    {next : Next}
    {frame : Frame}
    (isFree : next.IsFree)
    (free : frame.IsFree) :
    (next.into frame).IsFree := by
  intro known member
  rcases List.mem_append.mp member with old | isLast
  · exact isFree known old
  · cases List.mem_singleton.mp isLast
    exact free

/-- The sessions do not go on with their lives by what is done at a desk that gave no orders, and no
orders are given. -/
def Act.Wanes {α : Type} (act : Act α) : Prop :=
  ∀ desk, desk.orders = [] → desk.ledger.Numbered →
    (after act desk).orders = [] ∧ desk.ledger.Wanes (after act desk).ledger

theorem Act.Spares.wanes
    {α : Type}
    {act : Act α}
    (spares : act.Spares) :
    act.Wanes := by
  intro desk silent numbered
  obtain ⟨commands, same⟩ := spares desk
  have noOrders : (after act desk).ledger.orders = desk.ledger.orders := by
    rw [same]
  refine ⟨noOrders.trans silent, Ledger.SameSessions.wanes ⟨?_, ?_⟩ numbered⟩
  · rw [same]
  · rw [same]
    exact List.Subset.refl _

theorem Act.wanes_onExit
    (id : Nat)
    (code : Json) :
    (onExit id code).Wanes := by
  intro desk silent numbered
  obtain ⟨kept, _⟩ | ⟨entry, _, _, _, left⟩ := ledger_onExit numbered id code
  · have noOrders : (after (onExit id code) desk).ledger.orders = desk.ledger.orders := by
      rw [kept]
    refine ⟨noOrders.trans silent, ?_⟩
    rw [kept]
    exact (Ledger.SameSessions.refl _).wanes numbered
  · have noOrders : (after (onExit id code) desk).ledger.orders = desk.ledger.orders := by
      rw [left]
      rfl
    refine ⟨noOrders.trans silent, ?_⟩
    rw [left]
    exact numbered.wanes_leave entry code

namespace Move

variable {α β : Type}

/-- What a move does is calm where the sessions have numbers, and what it gives is as said. -/
def IsCalm (move : Move α) (gives : α → Prop) : Prop :=
  ∀ station : Station, station.desk.ledger.Numbered →
    station.Calm (perform move station).2 ∧
      ∀ value, (perform move station).1 = .ok value → gives value

/-! ## Parts -/

theorem isCalm_pure
    {value : α}
    {gives : α → Prop}
    (given : gives value) :
    IsCalm (pure value) gives := by
  refine fun station _ => ⟨station.calm_refl, fun other same => ?_⟩
  cases same
  exact given

theorem isCalm_throw
    {gives : α → Prop}
    (failure : Failure) :
    IsCalm (throw failure) gives :=
  fun station _ => ⟨station.calm_refl, nofun⟩

theorem isCalm_modify
    {change : Station → Station}
    (calm : ∀ station : Station, station.Calm (change station)) :
    IsCalm (modify change) fun _ => True :=
  fun station _ => ⟨calm station, fun _ _ => trivial⟩

theorem isCalm_get
    {next : Station → Move β}
    {gives : β → Prop}
    (calm : ∀ station, IsCalm (next station) gives) :
    IsCalm (get >>= next) gives :=
  fun station => calm station station

theorem IsCalm.bind
    {move : Move α}
    {next : α → Move β}
    {gives : α → Prop}
    {tells : β → Prop}
    (first : IsCalm move gives)
    (second : ∀ value, gives value → IsCalm (next value) tells) :
    IsCalm (move >>= next) tells := by
  intro station numbered
  have early := first station numbered
  rw [perform_bind]
  generalize perform move station = result at early ⊢
  rcases result with ⟨failure | value, mid⟩
  · exact ⟨early.1, nofun⟩
  · obtain ⟨calm, given⟩ :=
      second value (early.2 value rfl) mid (early.1.sessions numbered).numbered
    exact ⟨early.1.trans calm, given⟩

theorem IsCalm.recover
    {move : Move α}
    {recover : Failure → Move α}
    {gives : α → Prop}
    (tried : IsCalm move gives)
    (recovered : ∀ failure, IsCalm (recover failure) gives) :
    IsCalm (tryCatch move recover) gives := by
  intro station numbered
  have attempt := tried station numbered
  rw [perform_tryCatch]
  generalize perform move station = result at attempt ⊢
  rcases result with ⟨failure | value, mid⟩
  · obtain ⟨calm, given⟩ := recovered failure mid (attempt.1.sessions numbered).numbered
    exact ⟨attempt.1.trans calm, given⟩
  · exact attempt

theorem IsCalm.into
    {move : Move Next}
    {frame : Frame}
    (calm : IsCalm move Next.IsFree)
    (free : frame.IsFree) :
    IsCalm (Move.into move frame) Next.IsFree :=
  (calm.recover fun _ => isCalm_pure (Next.isFree_of_noFrames _)).bind
    fun _ isFree => isCalm_pure (isFree.into free)

theorem isCalm_of_light
    {move : Move Next}
    (retains : ∀ {holds : Station → Prop} {station : Station}, Station.IsLight holds →
      holds station → Retains holds station move fun next after => after.HandlesOn next) :
    IsCalm move Next.IsFree := by
  intro station _
  obtain ⟨calm, given⟩ := retains station.isLight_calm station.calm_refl
  refine ⟨calm, fun next same frame member => ?_⟩
  cases (given next same).frames frame member <;> trivial

theorem isCalm_done : IsCalm (pure Next.done) Next.IsFree :=
  isCalm_pure (Next.isFree_of_noFrames _)

theorem isCalm_give (outcome : Outcome) : IsCalm (pure (Next.give outcome)) Next.IsFree :=
  isCalm_pure (Next.isFree_of_noFrames _)

theorem isCalm_value (value : Json) : IsCalm (pure (Next.value value)) Next.IsFree :=
  isCalm_pure (Next.isFree_of_noFrames _)

theorem isCalm_fail (failure : Failure) : IsCalm (pure (Next.fail failure)) Next.IsFree :=
  isCalm_pure (Next.isFree_of_noFrames _)

theorem isCalm_await (promise : Nat) : IsCalm (pure (Next.await promise)) Next.IsFree :=
  isCalm_pure (Next.isFree_of_noFrames _)

theorem isCalm_awaitInto
    {frame : Frame}
    (promise : Nat)
    (free : frame.IsFree) :
    IsCalm (pure ((Next.await promise).into frame)) Next.IsFree :=
  isCalm_pure ((Next.isFree_of_noFrames (.await promise)).into free)

theorem isCalm_modifyLoop
    {change : Loop Frame → Loop Frame}
    (same : ∀ loop, (change loop).frameStacks = loop.frameStacks) :
    IsCalm (modifyLoop change) fun _ => True :=
  isCalm_modify fun station => station.calm_modifyLoop (same station.loop)

theorem isCalm_newPromise (topic : Topic) : IsCalm (newPromise topic) fun _ => True := by
  intro station _
  have promised : station.Calm (station.modifyLoop fun loop => (loop.newPromise topic).2) :=
    station.calm_modifyLoop rfl
  exact ⟨promised, fun _ _ => trivial⟩

theorem isCalm_spawn
    {job : Job}
    (free : job.IsFree) :
    IsCalm (spawn job) fun _ => True :=
  fun station _ => ⟨station.calm_spawn free, fun _ _ => trivial⟩

theorem isCalm_record
    {occurrence : Occurrence}
    (silent : occurrence.IsSilent) :
    IsCalm (record occurrence) fun _ => True :=
  isCalm_modify fun station => station.calm_record silent

theorem isCalm_observe (event : Event) : IsCalm (observe event) fun _ => True :=
  isCalm_modify fun station => station.calm_desk (Ledger.SameSessions.refl _).wanes

theorem isCalm_say
    (level : Level)
    (text : String) :
    IsCalm (say level text) fun _ => True :=
  isCalm_modify fun station => station.calm_desk (Ledger.SameSessions.refl _).wanes

theorem isCalm_client (session : Nat) : IsCalm (client session) fun _ => True := by
  refine isCalm_get fun station => ?_
  split
  · exact isCalm_pure trivial
  · exact isCalm_throw _

theorem isCalm_session (id : Nat) : IsCalm (session id) fun _ => True := by
  refine isCalm_get fun station => ?_
  split
  · exact isCalm_pure trivial
  · exact isCalm_throw _

theorem isCalm_modifyClient
    (session : Nat)
    {change : Client → Client}
    (initialized : ∀ client, (change client).isInitialized = client.isInitialized)
    (numbers : ∀ client, (change client).lastRequest = client.lastRequest) :
    IsCalm (modifyClient session change) fun _ => True :=
  isCalm_modify fun station => station.calm_modifyClient session initialized numbers

theorem isCalm_modifyRun
    (session : Nat)
    {change : Run → Run}
    (sameSession : ∀ run, (change run).session = run.session)
    (sameClient : ∀ run, (change run).client = run.client) :
    IsCalm (modifyRun session change) fun _ => True :=
  isCalm_modify fun station => station.calm_modifyRun session sameSession sameClient

theorem isCalm_atDesk
    {act : Act α}
    (wanes : act.Wanes) :
    IsCalm (atDesk act) fun _ => True := by
  intro station numbered
  have cleared : station.desk.ledger.SameSessions { station.desk with orders := [] }.ledger :=
    ⟨rfl, List.nil_subset _⟩
  have wanesFirst := cleared.wanes numbered
  obtain ⟨silent, wanesLate⟩ := wanes { station.desk with orders := [] } rfl wanesFirst.numbered
  rw [perform_atDesk_of_silent silent]
  exact ⟨station.calm_desk fun _ => wanesFirst.trans wanesLate, fun _ _ => trivial⟩

theorem isCalm_modifySession
    (session : Nat)
    {change : Session → Session}
    (same : ∀ session, (change session).entry = session.entry) :
    IsCalm (modifySession session change) fun _ => True :=
  isCalm_atDesk (Act.keeps_modifySession same).spares.wanes

theorem isCalm_raise (signpost : Signpost) :
    IsCalm (modify fun station => station.raise signpost) fun _ => True :=
  isCalm_modify fun station => station.calm_raise signpost

theorem isCalm_changeDisk (change : Disk → Except FileError Disk) :
    IsCalm (changeDisk change) fun _ => True := by
  refine isCalm_get fun station => ?_
  split
  · exact isCalm_throw _
  · exact isCalm_modify fun station => station.calm_desk (Ledger.SameSessions.refl _).wanes

theorem isCalm_serverHasExited (session : Nat) : IsCalm (serverHasExited session) fun _ => True :=
  isCalm_get fun _ => isCalm_pure trivial

/-! ## Waiting -/

theorem isCalm_awaitFlag (signpost : Signpost) : IsCalm (awaitFlag signpost) Next.IsFree := by
  refine isCalm_get fun station => ?_
  dsimp only
  split
  · exact isCalm_value _
  · refine (isCalm_newPromise _).bind fun promise _ => ?_
    exact (isCalm_modify fun station => station.calm_setFlag _ _).bind fun _ _ => isCalm_await _

theorem isCalm_awaitExit (process : Nat) : IsCalm (awaitExit process) Next.IsFree := by
  refine isCalm_get fun station => ?_
  split
  · exact isCalm_value _
  · split
    · exact isCalm_value _
    · refine (isCalm_newPromise _).bind fun promise _ => ?_
      refine (isCalm_modify fun station => ?_).bind fun _ _ => isCalm_await _
      exact (station.agrees_modifyProcess _ _).calm

theorem isCalm_cancelAndWait
    {frame : Frame}
    (promise : Nat)
    (free : frame.IsFree) :
    IsCalm (cancelAndWait promise frame) Next.IsFree := by
  refine (isCalm_newPromise _).bind fun waiter _ => ?_
  refine (isCalm_modifyLoop fun loop => ?_).bind fun _ _ => isCalm_awaitInto waiter free
  exact (Loop.frameStacks_cancel _ promise).trans (Loop.frameStacks_whenSettled loop promise _)

theorem isCalm_awaitFor
    (promise : Nat)
    (seconds : Number.Binary64) :
    IsCalm (awaitFor promise seconds) Next.IsFree := by
  unfold awaitFor
  split
  · refine isCalm_get fun station => ?_
    split
    · exact isCalm_give _
    · exact isCalm_cancelAndWait promise trivial
  · refine (isCalm_newPromise _).bind fun waiter _ => ?_
    refine (isCalm_modifyLoop fun loop => ?_).bind fun _ _ => isCalm_awaitInto waiter trivial
    exact Loop.frameStacks_whenSettled _ promise _

theorem isCalm_awaitWithin
    (promise : Nat)
    (limit : Json) :
    IsCalm (awaitWithin promise limit) Next.IsFree := by
  unfold awaitWithin
  split
  · exact isCalm_throw _
  · exact isCalm_await promise
  · exact isCalm_awaitFor promise _

theorem isCalm_performFor
    (job : Job)
    (free : job.IsFree)
    (limit : Limit) :
    IsCalm (performFor job limit) Next.IsFree := by
  cases limit with
  | none =>
      exact isCalm_pure (Next.isFree_perform free)
  | within seconds =>
      exact (isCalm_spawn free).bind fun task _ => isCalm_awaitFor task seconds

theorem isCalm_performWithin
    (job : Job)
    (free : job.IsFree)
    (limit : Json) :
    IsCalm (performWithin job limit) Next.IsFree := by
  unfold performWithin
  split
  · exact isCalm_throw _
  · exact isCalm_performFor job free _

theorem isCalm_cancelTimer (time : Nat) : IsCalm (cancelTimer time) fun _ => True :=
  isCalm_modifyLoop fun _ => rfl

theorem isCalm_afterDeadline
    (promise time : Nat)
    (outcome : Outcome) :
    IsCalm (afterDeadline promise time outcome) Next.IsFree := by
  refine isCalm_get fun station => ?_
  split
  · exact (isCalm_cancelTimer time).bind fun _ _ => isCalm_give _
  · exact isCalm_cancelAndWait promise trivial
  · exact isCalm_cancelAndWait promise trivial

theorem isCalm_afterExpiry
    (promise : Nat)
    (outcome : Outcome) :
    IsCalm (afterExpiry promise outcome) Next.IsFree := by
  cases outcome with
  | error failure =>
      exact isCalm_fail failure
  | ok value =>
      exact isCalm_get fun _ => isCalm_give _

theorem isCalm_afterGivingUpOn (time : Nat) : IsCalm (afterGivingUpOn time) Next.IsFree :=
  (isCalm_cancelTimer time).bind fun _ _ => isCalm_fail _

theorem isCalm_endRequest
    (session number : Nat)
    (outcome : Outcome) :
    IsCalm (endRequest session number outcome) Next.IsFree :=
  IsCalm.bind (isCalm_record trivial) fun _ _ => isCalm_give outcome

theorem isCalm_afterRequest
    (session number : Nat)
    (method : String)
    (limit : Json)
    (outcome : Outcome) :
    IsCalm (afterRequest session number method limit outcome) Next.IsFree := by
  unfold afterRequest
  split
  · exact IsCalm.bind (isCalm_modifyClient session (fun _ => rfl) fun _ => rfl)
      fun _ _ => isCalm_endRequest session number _
  · exact isCalm_endRequest session number _

/-! ## Reading and handling -/

theorem isCalm_failPending
    (session : Nat)
    (failure : Failure) :
    IsCalm (failPending session failure) fun _ => True :=
  (isCalm_client session).bind fun _ _ =>
    isCalm_modifyLoop fun loop => loop.frameStacks_settleAll _ _

theorem isCalm_endReading
    (session : Nat)
    (failure : Failure) :
    IsCalm (endReading session failure) Next.IsFree := by
  have ends : IsCalm (do
      failPending session failure
      record (.hungUp session (some failure))
      return Next.done) Next.IsFree :=
    (isCalm_failPending session failure).bind fun _ _ =>
      IsCalm.bind (isCalm_record trivial) fun _ _ => isCalm_done
  unfold endReading
  split
  · exact isCalm_fail _
  · dsimp only
    split
    · refine (isCalm_serverHasExited session).bind fun hasExited _ => ?_
      split
      · exact (isCalm_say _ _).bind fun _ _ => ends
      · exact ends
    · exact (isCalm_say _ _).bind fun _ _ => ends

theorem isCalm_modifyOutput
    (session : Nat)
    (change : Channel → Channel) :
    IsCalm (modifyOutput session change) fun _ => True :=
  (isCalm_client session).bind fun _ _ =>
    isCalm_modify fun station => (station.agrees_modifyProcess _ _).calm

theorem isCalm_settleRequest
    (promise : Nat)
    (outcome : Outcome) :
    IsCalm (settleRequest promise outcome) fun _ => True := by
  refine isCalm_get fun station => ?_
  split
  · exact isCalm_throw _
  · exact isCalm_modifyLoop fun loop => loop.frameStacks_settle promise outcome

theorem isCalm_handleAnswer
    (session number promise : Nat)
    (id : Json)
    (fields : List (String × Json)) :
    IsCalm (handleAnswer session number promise id fields) fun _ => True := by
  refine IsCalm.bind (isCalm_modifyClient session (fun _ => rfl) fun _ => rfl) fun _ _ => ?_
  split
  · exact isCalm_settleRequest promise _
  · refine (isCalm_say _ _).bind fun _ _ => ?_
    split
    · exact isCalm_throw _
    · exact isCalm_settleRequest promise _

theorem isCalm_handleResponse
    (session : Nat)
    (id : Json)
    (fields : List (String × Json)) :
    IsCalm (handleResponse session id fields) Next.IsFree := by
  refine (isCalm_client session).bind fun client _ => ?_
  split
  · exact isCalm_throw _
  · dsimp only
    split
    · exact (isCalm_handleAnswer session _ _ id fields).bind fun _ _ => isCalm_done
    · exact (isCalm_say _ _).bind fun _ _ => isCalm_done

theorem isCalm_handleMessage
    (session : Nat)
    (message : Json) :
    IsCalm (handleMessage session message) Next.IsFree := by
  refine IsCalm.bind (isCalm_record trivial) fun _ _ => ?_
  unfold interpret
  split
  · dsimp only
    split
    · exact isCalm_of_light fun light held => retains_handleRequest light held session _ _ _
    · exact isCalm_handleResponse session _ _
    · exact isCalm_of_light fun light held => retains_handleNotification light held session _ _
    · exact isCalm_throw _
  · exact isCalm_throw _
  · exact isCalm_throw _
  · exact isCalm_throw _

theorem isCalm_readOn
    (session : Nat)
    (phase : Wire.ReadPhase) :
    IsCalm (readOn session phase) Next.IsFree := by
  refine isCalm_get fun station => ?_
  split
  · exact isCalm_done
  · split
    · refine (isCalm_modifyOutput session _).bind fun _ _ => ?_
      split
      · exact isCalm_endReading session _
      · refine (isCalm_newPromise _).bind fun promise _ => ?_
        exact (isCalm_modifyOutput session _).bind fun _ _ => isCalm_awaitInto promise trivial
    · exact (isCalm_modifyOutput session _).bind fun _ _ => isCalm_endReading session _
    · exact (isCalm_modifyOutput session _).bind fun _ _ =>
        (isCalm_handleMessage session _).into trivial

theorem isCalm_afterBytes
    (session : Nat)
    (phase : Wire.ReadPhase)
    (outcome : Outcome) :
    IsCalm (afterBytes session phase outcome) Next.IsFree := by
  refine (isCalm_modifyOutput session _).bind fun _ _ => ?_
  cases outcome with
  | ok value =>
      exact isCalm_readOn session phase
  | error failure =>
      exact isCalm_endReading session failure

theorem isCalm_afterMessage
    (session : Nat)
    (outcome : Outcome) :
    IsCalm (afterMessage session outcome) Next.IsFree := by
  cases outcome with
  | ok value =>
      exact isCalm_readOn session .initial
  | error failure =>
      exact isCalm_endReading session failure

theorem isCalm_modifyErrors
    (session : Nat)
    (change : Channel → Channel) :
    IsCalm (modifyErrors session change) fun _ => True :=
  (isCalm_client session).bind fun _ _ =>
    isCalm_modify fun station => (station.agrees_modifyProcess _ _).calm

theorem isCalm_endDraining
    (session : Nat)
    (outcome : Outcome) :
    IsCalm (endDraining session outcome) Next.IsFree :=
  IsCalm.bind (isCalm_modifyClient session (fun _ => rfl) fun _ => rfl) fun _ _ => isCalm_give outcome

theorem isCalm_noteErrors
    (session : Nat)
    (bytes : List UInt8) :
    IsCalm (noteErrors session bytes) fun _ => True := by
  have appended : ∀ text, IsCalm (appendLog session text) fun _ => True := by
    intro text
    refine (isCalm_client session).bind fun client _ => ?_
    split
    · refine isCalm_get fun station => ?_
      dsimp only
      split
      · exact isCalm_throw _
      · exact isCalm_modify fun station => station.calm_desk (Ledger.SameSessions.refl _).wanes
    · exact isCalm_pure trivial
  exact (appended _).bind fun _ _ => isCalm_say _ _

theorem isCalm_drainOn (session : Nat) : IsCalm (drainOn session) Next.IsFree := by
  refine isCalm_get fun station => ?_
  split
  · exact isCalm_endDraining session _
  · split
    · split
      · exact isCalm_endDraining session _
      · refine (isCalm_newPromise _).bind fun promise _ => ?_
        exact (isCalm_modifyErrors session _).bind fun _ _ => isCalm_awaitInto promise trivial
    · exact isCalm_endDraining session _
    · refine (isCalm_modifyErrors session _).bind fun _ _ => IsCalm.recover ?_ fun failure =>
        isCalm_endDraining session _
      exact (isCalm_noteErrors session _).bind fun _ _ => isCalm_pure (Next.isFree_perform trivial)

theorem isCalm_afterErrors
    (session : Nat)
    (outcome : Outcome) :
    IsCalm (afterErrors session outcome) Next.IsFree := by
  refine (isCalm_modifyErrors session _).bind fun _ _ => ?_
  cases outcome with
  | ok value =>
      exact isCalm_drainOn session
  | error failure =>
      exact isCalm_endDraining session _

/-! ## The end of a client -/

theorem isCalm_endStop
    (session : Nat)
    (outcome : Outcome) :
    IsCalm (endStop session outcome) Next.IsFree :=
  IsCalm.bind (isCalm_record trivial) fun _ _ => isCalm_give outcome

theorem isCalm_awaitDeparture (session : Nat) : IsCalm (awaitDeparture session) Next.IsFree := by
  refine (isCalm_client session).bind fun client _ => ?_
  refine (isCalm_serverHasExited session).bind fun hasExited _ => ?_
  split
  · exact isCalm_endStop session _
  · exact (isCalm_performWithin (.awaitExit _) trivial patience).into trivial

theorem isCalm_leaveShutdown
    (session : Nat)
    (failure : Option Failure) :
    IsCalm (leaveShutdown session failure) Next.IsFree := by
  cases failure with
  | none =>
      exact isCalm_awaitDeparture session
  | some failure =>
      unfold leaveShutdown
      dsimp only
      split
      · exact (isCalm_say _ _).bind fun _ _ => isCalm_awaitDeparture session
      · exact isCalm_endStop session _

theorem isCalm_signal
    (session : Nat)
    (sent : Signal) :
    IsCalm (signal session sent) fun _ => True :=
  (isCalm_client session).bind fun _ _ =>
    isCalm_modify fun station => (station.agrees_signal _ sent).calm

theorem isCalm_afterGrace
    (session : Nat)
    (outcome : Outcome) :
    IsCalm (afterGrace session outcome) Next.IsFree := by
  unfold afterGrace
  split
  · exact isCalm_endStop session _
  · refine (isCalm_client session).bind fun client _ => ?_
    exact (isCalm_signal session _).bind fun _ _ =>
      (isCalm_performWithin (.awaitExit _) trivial patience).into trivial
  · exact isCalm_endStop session _

theorem isCalm_afterLastGrace
    (session : Nat)
    (outcome : Outcome) :
    IsCalm (afterLastGrace session outcome) Next.IsFree := by
  unfold afterLastGrace
  split
  · exact isCalm_endStop session _
  · exact (isCalm_signal session _).bind fun _ _ => isCalm_endStop session _
  · exact isCalm_endStop session _

theorem isCalm_dismiss (session : Nat) : IsCalm (dismiss session) Next.IsFree := by
  refine (isCalm_failPending session _).bind fun _ _ => ?_
  refine IsCalm.bind (isCalm_modifyClient session (fun _ => rfl) fun _ => rfl) fun _ _ => ?_
  exact (isCalm_raise _).bind fun _ _ => IsCalm.bind (isCalm_record trivial) fun _ _ => isCalm_done

theorem isCalm_closeTasks
    (session : Nat)
    (tasks : List Nat) :
    IsCalm (closeTasks session tasks) Next.IsFree := by
  induction tasks with
  | nil =>
      exact isCalm_dismiss session
  | cons task rest inductionHypothesis =>
      refine isCalm_get fun station => ?_
      split
      · exact inductionHypothesis
      · exact (isCalm_modifyLoop fun loop => loop.frameStacks_cancel task).bind
          fun _ _ => isCalm_awaitInto task trivial

theorem isCalm_closeClient (session : Nat) : IsCalm (closeClient session) Next.IsFree :=
  (isCalm_client session).bind fun _ _ => isCalm_closeTasks session _

theorem isCalm_afterClosing
    (session : Nat)
    (rest : List Nat)
    (outcome : Outcome) :
    IsCalm (afterClosing session rest outcome) Next.IsFree := by
  unfold afterClosing
  split
  · exact isCalm_closeTasks session rest
  · exact isCalm_closeTasks session rest
  · exact isCalm_fail _

/-! ## The end of a run -/

theorem isCalm_settleStart (session : Nat) : IsCalm (settleStart session) fun _ => True :=
  isCalm_raise _

theorem isCalm_endRun
    (session : Nat)
    (code : Json)
    (outcome : Outcome) :
    IsCalm (endRun session code outcome) Next.IsFree := by
  refine IsCalm.bind (isCalm_modifyRun session (fun _ => rfl) fun _ => rfl) fun _ _ => ?_
  refine (isCalm_settleStart session).bind fun _ _ => ?_
  refine (isCalm_atDesk (Act.wanes_onExit session code)).bind fun _ _ => ?_
  exact IsCalm.bind (isCalm_record trivial) fun _ _ => isCalm_give outcome

theorem isCalm_forsake
    (session : Nat)
    (failure : Failure) :
    IsCalm (forsake session failure) Next.IsFree :=
  IsCalm.bind (isCalm_record trivial) fun _ _ => isCalm_fail failure

theorem isCalm_windUp
    (session : Nat)
    (code : Json)
    (outcome : Outcome) :
    IsCalm (windUp session code outcome) Next.IsFree := by
  refine isCalm_get fun station => ?_
  split
  · exact (isCalm_closeClient session).into trivial
  · exact isCalm_endRun session code outcome

theorem isCalm_afterParting
    (session : Nat)
    (code : Json)
    (outcome told : Outcome) :
    IsCalm (afterParting session code outcome told) Next.IsFree := by
  cases told with
  | ok value =>
      exact isCalm_endRun session code outcome
  | error failure =>
      exact isCalm_fail failure

theorem isCalm_cancelRun (session : Nat) : IsCalm (cancelRun session) Next.IsFree := by
  refine isCalm_get fun station => ?_
  split
  · exact isCalm_windUp session _ _
  · refine (isCalm_serverHasExited session).bind fun hasExited _ => ?_
    split
    · exact isCalm_windUp session _ _
    · exact (isCalm_signal session _).bind fun _ _ => (isCalm_awaitExit _).into trivial

theorem isCalm_failRun
    (session : Nat)
    (failure : Failure) :
    IsCalm (failRun session failure) Next.IsFree := by
  unfold failRun
  split
  · exact isCalm_cancelRun session
  · exact isCalm_windUp session _ _

theorem isCalm_afterKill
    (session : Nat)
    (outcome : Outcome) :
    IsCalm (afterKill session outcome) Next.IsFree := by
  unfold afterKill
  split <;> exact isCalm_windUp session _ _

theorem isCalm_afterExit
    (session : Nat)
    (outcome : Outcome) :
    IsCalm (afterExit session outcome) Next.IsFree := by
  unfold afterExit
  split
  · exact isCalm_failRun session _
  · exact isCalm_windUp session _ _

theorem isCalm_awaitServerExit (session : Nat) : IsCalm (awaitServerExit session) Next.IsFree := by
  refine (isCalm_settleStart session).bind fun _ _ => ?_
  exact (isCalm_client session).bind fun _ _ => (isCalm_awaitExit _).into trivial

theorem isCalm_afterGivingUp
    (session : Nat)
    (outcome : Outcome) :
    IsCalm (afterGivingUp session outcome) Next.IsFree := by
  cases outcome with
  | ok value =>
      exact isCalm_awaitServerExit session
  | error failure =>
      exact (isCalm_settleStart session).bind fun _ _ => isCalm_failRun session failure

/-! ## Waiting for a session -/

theorem isCalm_awaitQuiescentFor
    (session : Nat)
    (limit : Limit) :
    IsCalm (awaitQuiescentFor session limit) Next.IsFree := by
  refine isCalm_get fun station => ?_
  split
  · exact isCalm_value _
  · exact (isCalm_performFor (.awaitFlag _) trivial limit).into trivial

theorem isCalm_awaitQuiescent
    (session : Nat)
    (timeout : Json) :
    IsCalm (awaitQuiescent session timeout) Next.IsFree := by
  refine isCalm_get fun station => ?_
  split
  · exact isCalm_value _
  · exact (isCalm_performWithin (.awaitFlag _) trivial timeout).into trivial

theorem isCalm_afterQuiescent
    (session : Nat)
    (outcome : Outcome) :
    IsCalm (afterQuiescent session outcome) Next.IsFree := by
  unfold afterQuiescent
  split
  · exact isCalm_value _
  · exact (isCalm_session session).bind fun _ _ =>
      (isCalm_say _ _).bind fun _ _ => isCalm_value _
  · exact isCalm_fail _

theorem isCalm_awaitReady
    (session : Nat)
    (timeout : Json) :
    IsCalm (awaitReady session timeout) Next.IsFree := by
  unfold awaitReady
  split
  · exact isCalm_throw _
  · refine isCalm_get fun station => ?_
    split
    · exact isCalm_value _
    · exact (isCalm_performFor (.awaitFlag _) trivial _).into trivial

theorem isCalm_afterSettling
    (session : Nat)
    (deadline : Number.Binary64)
    (outcome : Outcome) :
    IsCalm (afterSettling session deadline outcome) Next.IsFree := by
  unfold afterSettling
  split
  · exact isCalm_value _
  · exact isCalm_fail _
  · refine isCalm_get fun station => ?_
    dsimp only
    split
    · exact (isCalm_awaitQuiescentFor session _).into trivial
    · exact isCalm_value _

theorem isCalm_afterReadiness
    (session : Nat)
    (outcome : Outcome) :
    IsCalm (afterReadiness session outcome) Next.IsFree := by
  unfold afterReadiness
  split
  · exact isCalm_get fun _ => isCalm_value _
  · exact isCalm_value _
  · exact isCalm_fail _

theorem isCalm_awaitClosed (session : Nat) : IsCalm (awaitClosed session) Next.IsFree := by
  refine isCalm_get fun station => ?_
  split
  · exact isCalm_done
  · exact isCalm_awaitInto _ trivial

theorem isCalm_afterCancellation (outcome : Outcome) :
    IsCalm (afterCancellation outcome) Next.IsFree := by
  unfold afterCancellation
  split
  · exact isCalm_done
  · exact isCalm_fail _
  · exact isCalm_done

/-! ## Ends of commands -/

theorem isCalm_callCode
    (code : Code)
    (arguments : List Json) :
    IsCalm (callCode code arguments) Next.IsFree :=
  isCalm_of_light fun light held => retains_callCode light held code arguments

theorem isCalm_afterLeaf
    (action : LeafAction)
    (outcome : Outcome) :
    IsCalm (afterLeaf action outcome) Next.IsFree := by
  unfold afterLeaf
  split
  · split
    · exact isCalm_value _
    · exact isCalm_fail _
  · exact isCalm_give _

theorem isCalm_runHandler
    (session : Nat)
    (method : String)
    (params : Json) :
    IsCalm (runHandler session method params) Next.IsFree := by
  refine (isCalm_session session).bind fun owner _ => ?_
  split
  · exact isCalm_throw _
  · exact isCalm_of_light fun light held => retains_callHandler light held owner params _

theorem isCalm_afterDiscarded (outcome : Outcome) :
    IsCalm (afterDiscarded outcome) Next.IsFree := by
  cases outcome with
  | ok value => exact isCalm_done
  | error failure => exact isCalm_fail failure

theorem isCalm_afterCheckedClosed
    (report : Json)
    (outcome : Outcome) :
    IsCalm (afterCheckedClosed report outcome) Next.IsFree := by
  cases outcome with
  | ok value => exact isCalm_value report
  | error failure => exact isCalm_fail failure

end Move

end AnalyzerSessions
