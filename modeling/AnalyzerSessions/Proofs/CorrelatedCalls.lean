import AnalyzerSessions.Proofs.ReceivedMessages
import AnalyzerSessions.Proofs.RunEnds

namespace AnalyzerSessions

/-!
# Correlated calls

Requests and answers belong together by their numbers.  Handling a message leaves every
open call alone but the one whose number the message has, whatever the message is, and
so does everything that goes on while it is handled.  Only the end of the handling can
concern more calls than one: when it fails, reading ends, and every open call of the
session fails with it.
-/

/-! ## What leaves a call alone -/

namespace Station

variable {station : Station} {session number promise : Nat}
  (waits : station.Waits session number promise)

include waits

/-- A call waits on when a client changes that still has the call and no other one by its promise. -/
theorem Waits.modifyClient
    {other : Nat}
    {change : Client → Client}
    (keeps : other = session → ∀ client, (number, promise) ∈ client.pending →
      (number, promise) ∈ (change client).pending)
    (fewer : ∀ client, (change client).pending ⊆ client.pending)
    (quiet : ∀ client, station.client? other = some client →
      promise ∉ (change client).quiescent.waiters) :
    (station.modifyClient other change).Waits session number promise := by
  refine ⟨⟨?_, waits.isOpen⟩, fun known owner call found member => ?_,
    fun known owner found => ?_, waits.processes⟩
  · obtain ⟨client, found, isPending⟩ := waits.pending
    refine ⟨_, (station.client?_modifyClient other session change).trans
      (congrArg (Option.map _) found), ?_⟩
    split
    · rename_i same
      exact keeps same.symm client isPending
    · exact isPending
  · rw [client?_modifyClient] at found
    obtain ⟨old, wasFound, rfl⟩ := Option.map_eq_some_iff.mp found
    refine waits.own known old call wasFound ?_
    split at member
    · exact fewer old member
    · exact member
  · rw [client?_modifyClient] at found
    obtain ⟨old, wasFound, rfl⟩ := Option.map_eq_some_iff.mp found
    split
    · rename_i same
      exact quiet old (same ▸ wasFound)
    · exact waits.quiescent known old wasFound

theorem Waits.not_mem_flag (other : Nat) :
    promise ∉ (station.flag (.quiescent other)).waiters := by
  unfold flag
  dsimp only
  cases found : station.client? other with
  | none =>
      exact List.not_mem_nil
  | some client =>
      exact waits.quiescent other client found

theorem Waits.raise (other : Nat) :
    (station.raise (.quiescent other)).Waits session number promise := by
  have raised : (station.setFlag (.quiescent other) ⟨true, []⟩).Waits session number promise :=
    waits.modifyClient (fun _ _ => id) (fun _ => List.Subset.refl _) fun _ _ => List.not_mem_nil
  exact (withstands_waits session number promise).settleAll raised (waits.not_mem_flag other) _

theorem Waits.lower (other : Nat) :
    (station.lower (.quiescent other)).Waits session number promise :=
  waits.modifyClient (fun _ _ => id) (fun _ => List.Subset.refl _)
    fun _ _ => waits.not_mem_flag other

/-- A client may forget another call. -/
theorem Waits.forget
    {other known : Nat}
    (apart : ¬(other = session ∧ known = number)) :
    (station.modifyClient other fun client => client.forget known).Waits session number promise := by
  refine waits.modifyClient (fun same client member => ?_) (fun _ _ isLeft => List.mem_of_mem_filter isLeft)
    fun client found => waits.quiescent other client found
  refine List.mem_filter.mpr ⟨member, ?_⟩
  simpa using fun isNumber => apart ⟨same, Eq.symm isNumber⟩

omit waits in
theorem isLight_waits (session number promise : Nat) :
    IsLight fun station => station.Waits session number promise where
  papers _ waits := waits.of_same rfl rfl rfl
  record _ waits := waits.of_same rfl rfl rfl
  promise waits := waits.of_same (Loop.outcome?_newPromise _ _ _) rfl rfl
  timers waits := waits.of_same rfl rfl rfl
  react chosen message waits := (withstands_waits session number promise).react waits chosen message
  raise session waits := waits.raise session
  lower session waits := waits.lower session

end Station

/-! ## Messages that are no answer to a call -/

namespace Move

variable {station : Station} {session number promise : Nat}
  (waits : station.Waits session number promise)

include waits

theorem retains_settleRequest
    {other : Nat}
    (apart : other ≠ promise)
    (outcome : Outcome) :
    Retains (fun after => after.Waits session number promise) station
      (settleRequest other outcome) fun _ _ => True := by
  refine retains_get ?_
  split
  · exact retains_throw waits
  · exact retains_modify (waits.settle apart outcome)

theorem retains_handleAnswer
    {other known settled : Nat}
    (apart : ¬(other = session ∧ known = number))
    (otherPromise : settled ≠ promise)
    (id : Json)
    (fields : List (String × Json)) :
    Retains (fun after => after.Waits session number promise) station
      (handleAnswer other known settled id fields) fun _ _ => True := by
  have light := Station.isLight_waits session number promise
  refine Retains.bind (retains_modify (waits.forget apart)) fun _ mid held _ => ?_
  split
  · exact retains_settleRequest held otherPromise _
  · refine (retains_say light held _ _).bind fun _ after heldNow _ => ?_
    split
    · exact retains_throw heldNow
    · exact retains_settleRequest heldNow otherPromise _

theorem retains_handleResponse
    {other : Nat}
    {id : Json}
    (fields : List (String × Json))
    (apart : ∀ known, requestNumber? id = .ok (some known) → ¬(other = session ∧ known = number)) :
    Retains (fun after => after.Waits session number promise) station
      (handleResponse other id fields) fun next after => after.HandlesOn next := by
  refine (retains_client waits other).bind ?_
  rintro client mid _ ⟨rfl, found⟩
  split
  · exact retains_throw waits
  · rename_i answered isFor
    dsimp only
    split
    · rename_i chosen settled
      obtain ⟨sameNumber, isThere⟩ := Client.answered?_eq_some isFor
      have notThis := apart chosen sameNumber
      have otherPromise : settled ≠ promise := by
        rintro rfl
        exact notThis (waits.own other client chosen found (client.mem_of_promise? isThere))
      exact (retains_handleAnswer waits notThis otherPromise id fields).bind
        fun _ after held _ => retains_pure held (after.handlesOn_give _)
    · exact (retains_say (Station.isLight_waits session number promise) waits _ _).bind
        fun _ after held _ => retains_pure held (after.handlesOn_give _)

theorem retains_handleMessage
    {other : Nat}
    {message : Json}
    (apart : ¬(other = session ∧ IsAnswerTo message number)) :
    Retains (fun after => after.Waits session number promise) station
      (handleMessage other message) fun next after => after.HandlesOn next := by
  have light := Station.isLight_waits session number promise
  refine Retains.bind (retains_modify (light.record trivial waits)) fun _ mid held _ => ?_
  unfold interpret
  split
  · dsimp only
    split
    · exact retains_handleRequest light held other _ _ _
    · rename_i identified noMethod
      refine retains_handleResponse held _ fun known sameNumber => ?_
      rintro ⟨rfl, rfl⟩
      exact apart ⟨rfl, .answer noMethod identified sameNumber⟩
    · exact retains_handleNotification light held other _ _
    · exact retains_throw held
  · exact retains_throw held
  · exact retains_throw held
  · exact retains_throw held

theorem retains_resume
    {frame : Frame}
    (isHandling : frame.IsHandling)
    (outcome : Outcome) :
    Retains (fun after => after.Waits session number promise) station
      (resume frame outcome) fun next after => after.HandlesOn next := by
  have light := Station.isLight_waits session number promise
  cases isHandling with
  | answering other method id =>
      exact retains_afterHandler light waits other method id outcome
  | noted other method =>
      exact retains_afterNotification light waits other method outcome
  | slept code arguments time =>
      exact retains_afterSleep light waits code arguments time outcome

omit waits in
/-- What a move retains holds of the station that it leaves behind, and what is next is as said. -/
theorem Retains.make
    {holds : Station → Prop}
    {move : Move Next}
    (retains : Retains holds station move fun next after => after.HandlesOn next) :
    holds (Move.make move station).2 ∧
      (Move.make move station).2.HandlesOn (Move.make move station).1 := by
  unfold Retains at retains
  rw [make_eq]
  generalize perform move station = result at retains ⊢
  rcases result with ⟨failure | next, after⟩
  · exact ⟨retains.1, after.handlesOn_give _⟩
  · exact ⟨retains.1, retains.2 next rfl⟩

/-! ## Handling that fails -/

omit waits in
theorem perform_failPending
    {session : Nat}
    {client : Client}
    (found : station.client? session = some client)
    (failure : Failure) :
    perform (failPending session failure) station =
      (.ok (), station.modifyLoop fun loop =>
        loop.settleAll (client.pending.map Prod.snd) (.error failure)) := by
  unfold failPending
  rw [perform_bind, perform_client found]
  rfl

omit waits in
/-- When reading ends with a failure all unanswered requests of its session are settled with it. -/
theorem make_endReading
    {session : Nat}
    {client : Client}
    {failure : Failure}
    (found : station.client? session = some client)
    (apart : failure ≠ .cancelled) :
    ∃ log, make (endReading session failure) station =
      (.done, ({ station with
        desk := { station.desk with log }
        chronicle := station.chronicle ++ [.hungUp session (some failure)] } : Station).modifyLoop
        fun loop => loop.settleAll (client.pending.map Prod.snd) (.error failure)) := by
  have ended : ∀ log, make
      (do
        failPending session failure
        record (.hungUp session (some failure))
        return Next.done) { station with desk := { station.desk with log } } =
      (.done, ({ station with
        desk := { station.desk with log }
        chronicle := station.chronicle ++ [.hungUp session (some failure)] } : Station).modifyLoop
        fun loop => loop.settleAll (client.pending.map Prod.snd) (.error failure)) := by
    intro log
    have present : ({ station with desk := { station.desk with log } } : Station).client? session =
        some client := found
    exact make_bind (perform_failPending present failure) _
  have said : ∀ level text, perform (say level text) station =
      (.ok (), { station with
        desk := { station.desk with log := station.desk.log ++ [⟨level, text⟩] } }) :=
    fun _ _ => rfl
  have asked : perform (serverHasExited session) station =
      (.ok (((station.clientProcess? session).map ServerProcess.hasExited).getD true), station) :=
    rfl
  unfold endReading
  split
  · exact (apart rfl).elim
  · split
    · rw [make_bind asked]
      split
      · exact ⟨_, (make_bind (said _ _) _).trans (ended _)⟩
      · exact ⟨_, ended station.desk.log⟩
    · exact ⟨_, (make_bind (said _ _) _).trans (ended _)⟩

end Move

/-! ## Correlation -/

/-- A message answers one request at most. -/
theorem IsAnswerTo.unique
    {message : Json}
    {number other : Nat}
    (answers : IsAnswerTo message number)
    (again : IsAnswerTo message other) :
    number = other := by
  obtain ⟨_, identified, sameNumber⟩ := answers
  obtain ⟨_, isIdentified, isSame⟩ := again
  cases identified.symm.trans isIdentified
  cases sameNumber.symm.trans isSame
  rfl

/-- The outcome with which the call that made a request ended. -/
def Occurrence.outcomeFor? (session number : Nat) : Occurrence → Option Outcome
  | settled other known outcome => if other = session ∧ known = number then some outcome else none
  | _ => none

namespace Station

/-- Calls belong to messages by their numbers. -/
structure Correlates (station : Station) : Prop where
  /-- Requests have the numbers 1, 2, 3, and so on, and none twice. -/
  numbered : ∀ session, requestNumbers station.chronicle session =
    List.range' 1 (station.lastRequest session)
  /-- A call that ends with a value or with an error of the server does so because of an answer that
  arrived after the request was written. -/
  ends : ∀ before session number outcome after,
    station.chronicle = before ++ .settled session number outcome :: after →
      CallEnds before session number outcome
  /-- A call ends once. -/
  once : ∀ session number,
    (station.chronicle.filterMap (Occurrence.outcomeFor? session number)).length ≤ 1
  /-- A message that is received leaves every open call open that it does not answer. -/
  spares : ∀ session message, station.received? session = some message →
    ∀ other number promise, station.IsOpen other number promise →
      ¬(other = session ∧ IsAnswerTo message number) → station.step.IsOpen other number promise
  /-- No two calls are open no more when one message was received. -/
  single : ∀ session message, station.received? session = some message →
    ∀ first number promise, station.IsOpen first number promise →
      ¬station.step.IsOpen first number promise →
        ∀ second known other, station.IsOpen second known other →
          ¬station.step.IsOpen second known other → first = second ∧ number = known
  /-- What goes on while a message is handled leaves every open call open. -/
  handlesOn : ∀ task frame rest outcome, station.loop.running = some (task, outcome) →
    station.loop.frames task = frame :: rest → frame.IsHandling →
      ∀ session number promise, station.IsOpen session number promise →
        station.step.IsOpen session number promise
  /-- When the handling of a message has failed every open call of its session fails with it, and no
  other one. -/
  fails : ∀ task rest session failure, station.loop.running = some (task, .error failure) →
    station.loop.frames task = .handled session :: rest → failure ≠ .cancelled →
      ∀ other number promise, station.IsOpen other number promise →
        if other = session then station.step.loop.outcome? promise = some (.error failure)
        else station.step.IsOpen other number promise

variable {station : Station}

/-- The token of a call is spent each time that the call ends. -/
theorem count_call_spends
    (chronicle : List Occurrence)
    (session number : Nat) :
    (chronicle.flatMap Occurrence.spends).count (.call session number) =
      (chronicle.filterMap (Occurrence.outcomeFor? session number)).length := by
  induction chronicle with
  | nil =>
      rfl
  | cons occurrence rest inductionHypothesis =>
      rw [List.flatMap_cons, List.count_append, inductionHypothesis, List.filterMap_cons]
      cases occurrence with
      | settled other known outcome =>
          by_cases same : other = session ∧ known = number
          · simp [Occurrence.spends, Occurrence.outcomeFor?, same]
            omega
          · simp [Occurrence.spends, Occurrence.outcomeFor?, same]
      | _ =>
          simp [Occurrence.spends, Occurrence.outcomeFor?]

theorem Poised.spares
    {session : Nat}
    {message : Json}
    {other number promise : Nat}
    (poised : station.Poised)
    (received : station.received? session = some message)
    (isOpen : station.IsOpen other number promise)
    (apart : ¬(other = session ∧ IsAnswerTo message number)) :
    station.step.IsOpen other number promise := by
  obtain ⟨task, rest, client, read, receives⟩ := poised.receives received
  have waits := (receives.laid.waits ⟨isOpen.pending, isOpen.isOpen⟩).readsFrom receives.readsFrom
  obtain ⟨waitsNow, handlesOn⟩ :=
    (Move.retains_handleMessage waits fun same => apart ⟨same.1.symm, same.2⟩).make
  obtain ⟨hand, sound⟩ := receives.sound
  rw [receives.step]
  exact sound.isOpen_follow receives.mayClose waitsNow handlesOn.awaits

/-- The calls that a message ends are those that it answers. -/
theorem Poised.answers_of_ended
    {session : Nat}
    {message : Json}
    {other number promise : Nat}
    (poised : station.Poised)
    (received : station.received? session = some message)
    (isOpen : station.IsOpen other number promise)
    (ended : ¬station.step.IsOpen other number promise) :
    other = session ∧ IsAnswerTo message number := by
  by_contra apart
  exact ended (poised.spares received isOpen apart)

theorem Poised.handlesOn
    {task : Nat}
    {frame : Frame}
    {rest : List Frame}
    {outcome : Outcome}
    {session number promise : Nat}
    (poised : station.Poised)
    (running : station.loop.running = some (task, outcome))
    (isTop : station.loop.frames task = frame :: rest)
    (isHandling : frame.IsHandling)
    (isOpen : station.IsOpen session number promise) :
    station.step.IsOpen session number promise := by
  obtain ⟨turns, given, goal, resumes⟩ := poised.turns running isTop
  obtain ⟨wanted, taken, _⟩ := resumes.taken
  have notDraining : given ≠ .draining := by
    cases isHandling <;> cases taken <;> nofun
  have waits := turns.laid.waits ⟨isOpen.pending, isOpen.isOpen⟩
  obtain ⟨waitsNow, handlesOn⟩ := (Move.retains_resume waits isHandling outcome).make
  rw [turns.step]
  exact turns.sound.isOpen_follow (turns.onward.mayClose (resumes.mayClose notDraining)) waitsNow
    handlesOn.awaits

/-- When the handling of a message has failed the step settles the unanswered requests of its session
with the failure, and nothing else. -/
theorem Poised.endsReading
    {task : Nat}
    {rest : List Frame}
    {session : Nat}
    {failure : Failure}
    (poised : station.Poised)
    (running : station.loop.running = some (task, .error failure))
    (isTop : station.loop.frames task = .handled session :: rest)
    (apart : failure ≠ .cancelled) :
    ∃ client, station.client? session = some client ∧ station.step.runs = station.runs ∧
      ∀ promise, station.step.loop.outcome? promise =
        ((station.laid task rest).loop.settleAll (client.pending.map Prod.snd)
          (.error failure)).outcome? promise := by
  obtain ⟨turns, given, goal, resumes⟩ := poised.turns running isTop
  obtain ⟨wanted, taken, _⟩ := resumes.taken
  obtain ⟨client, found⟩ : (station.laid task rest).HasClient session := by
    cases taken with
    | handled present => exact present
    | plain isPlain => exact isPlain.elim
  obtain ⟨log, ended⟩ := Move.make_endReading found apart
  have isMoved : station.moved task (.handled session) rest (.error failure) = _ := ended
  refine ⟨client, found, ?_, fun promise => ?_⟩
  · rw [turns.step, isMoved]
    rfl
  · rw [turns.step, isMoved]
    rfl

theorem Poised.failsCalls
    {task : Nat}
    {rest : List Frame}
    {session : Nat}
    {failure : Failure}
    {other number promise : Nat}
    (poised : station.Poised)
    (running : station.loop.running = some (task, .error failure))
    (isTop : station.loop.frames task = .handled session :: rest)
    (apart : failure ≠ .cancelled)
    (isOpen : station.IsOpen other number promise) :
    if other = session then station.step.loop.outcome? promise = some (.error failure)
    else station.step.IsOpen other number promise := by
  obtain ⟨client, found, sameRuns, outcomes⟩ := poised.endsReading running isTop apart
  obtain ⟨owner, isOwner, isPending⟩ := isOpen.pending
  have told := ((poised.toSound.clientFits isOwner).pending _ isPending).1
  have now : station.step.loop.outcome? promise =
      if promise ∈ client.pending.map Prod.snd then some (.error failure) else none := by
    have laidTold : (station.laid task rest).loop.topic? promise = some (.answer other number) := told
    have laidOpen : (station.laid task rest).loop.outcome? promise = none := isOpen.isOpen
    rw [outcomes, Loop.outcome?_settleAll laidTold, laidOpen]
    exact if_congr (and_iff_left rfl) rfl rfl
  rw [now]
  split
  · rename_i same
    subst same
    cases found.symm.trans isOwner
    exact if_pos (List.mem_map.mpr ⟨_, isPending, rfl⟩)
  · -- The promises of a session's calls are told about that session alone.
    rename_i different
    have notAmong : promise ∉ client.pending.map Prod.snd := by
      intro member
      obtain ⟨⟨known, _⟩, isThere, rfl⟩ := List.mem_map.mp member
      have toldAgain := ((poised.toSound.clientFits found).pending _ isThere).1
      cases told.symm.trans toldAgain
      exact different rfl
    have stillPends : station.step.Pends other number promise :=
      Pends.of_runs_eq ⟨owner, isOwner, isPending⟩ sameRuns
    exact ⟨stillPends, now.trans (if_neg notAmong)⟩

/-- A poised station correlates calls and messages. -/
theorem Poised.correlates (poised : station.Poised) : station.Correlates where
  numbered := poised.toSound.tale.numbers
  ends := poised.toSound.tale.calls
  once session number := by
    have once := poised.toSound.count_spent_le_one (.call session number)
    rwa [spent, count_call_spends] at once
  spares _ _ received _ _ _ isOpen apart := poised.spares received isOpen apart
  single _ _ received _ _ _ isOpen ended _ _ _ isOpenToo endedToo := by
    obtain ⟨rfl, answers⟩ := poised.answers_of_ended received isOpen ended
    obtain ⟨rfl, again⟩ := poised.answers_of_ended received isOpenToo endedToo
    exact ⟨rfl, answers.unique again⟩
  handlesOn _ _ _ _ running isTop isHandling _ _ _ isOpen :=
    poised.handlesOn running isTop isHandling isOpen
  fails _ _ _ _ running isTop apart _ _ _ isOpen :=
    poised.failsCalls running isTop apart isOpen

/-! ## A crowd of calls -/

theorem isOpen_of_pending
    {session number promise : Nat}
    {calls : List (Nat × Nat)}
    (pending : (station.client? session).map Client.pending = some calls)
    (member : (number, promise) ∈ calls)
    (unsettled : station.loop.outcome? promise = none) :
    station.IsOpen session number promise := by
  obtain ⟨client, found, rfl⟩ := Option.map_eq_some_iff.mp pending
  exact ⟨⟨client, found, member⟩, unsettled⟩

/-- An attended station where a client introduces itself and makes a request besides. -/
def crowded : Station :=
  ((attended.undertake (.startClient 1)).2.undertake (.request 1 "a" .null .null)).2

/-- Making requests is part of a run. -/
theorem crowded_run : StationRun attended crowded := by
  have started : StationRun attended (attended.undertake (.startClient 1)).2 :=
    StationRun.begin.undertake ⟨_, rfl⟩ id
  exact started.undertake trivial id

/-- An answer to the second request. -/
def secondAnswer : Json :=
  .obj [("jsonrpc", .str "2.0"), ("id", .int 2), ("result", .int 5)]

/-- A message whose identifier is a list. -/
def unanswerable : Json :=
  .obj [("id", .arr []), ("result", .int 5)]

/-- The server of a crowded station has sent a message, which is about to be received. -/
def crowdedBefore (message : Json) : Station :=
  settleWithin 2 (crowded.doServerAct 1 (.send (Wire.frame message)))

/-- What a server sends is part of a run. -/
theorem crowdedBefore_run (message : Json) : StationRun attended (crowdedBefore message) :=
  (crowded_run.next (.server 1 (.send (Wire.frame message)))).settleWithin 2

end Station

namespace StationRun

variable {initial station : Station}

/-- Requests are numbered in order, a call ends once, and only by an answer with its number where it
ends with what a server says; and no message has to do with a call that it does not answer, unless
its handling fails: then every open call of the session fails. -/
theorem correlates_calls
    (isNew : initial.IsNew)
    (reached : StationRun initial station) :
    station.Correlates :=
  (reached.poised isNew).1.correlates

/-- An answer that is received while two calls are open. -/
theorem crowded_calls_correlate :
    Station.attended.IsNew ∧
      StationRun Station.attended (Station.crowdedBefore Station.secondAnswer) ∧
      (Station.crowdedBefore Station.secondAnswer).received? 1 = some Station.secondAnswer ∧
      ((Station.crowdedBefore Station.secondAnswer).client? 1).map Client.pending =
        some [(1, 2), (2, 6)] ∧
      (Station.crowdedBefore Station.secondAnswer).Correlates :=
  ⟨Station.isNew_attended, Station.crowdedBefore_run Station.secondAnswer, by decide +kernel,
    by decide +kernel, correlates_calls Station.isNew_attended
      (Station.crowdedBefore_run Station.secondAnswer)⟩

/-- Not every message leaves all open calls but one alone: one that cannot be looked up among them
ends them all. -/
theorem unanswerable_message_ends_every_call :
    ¬∀ station, StationRun Station.attended station →
      ∀ message first second promise other, first ≠ second →
        station.IsOpen 1 first promise → station.IsOpen 1 second other →
          (station.doServerAct 1 (.send (Wire.frame message))).settle.IsOpen 1 first promise ∨
            (station.doServerAct 1 (.send (Wire.frame message))).settle.IsOpen 1 second other := by
  intro leaves
  have pending : (Station.crowded.client? 1).map Client.pending = some [(1, 2), (2, 6)] := by
    decide +kernel
  have firstOpen : Station.crowded.IsOpen 1 1 2 :=
    Station.isOpen_of_pending pending (by decide) (by decide +kernel)
  have secondOpen : Station.crowded.IsOpen 1 2 6 :=
    Station.isOpen_of_pending pending (by decide) (by decide +kernel)
  have settled : ∀ promise ∈ [2, 6], (Station.crowded.doServerAct 1
      (.send (Wire.frame Station.unanswerable))).settle.loop.outcome? promise ≠ none := by
    decide +kernel
  rcases leaves _ Station.crowded_run Station.unanswerable 1 2 2 6 (by decide) firstOpen secondOpen
    with stillOpen | stillOpen
  · exact settled 2 (by decide) stillOpen.isOpen
  · exact settled 6 (by decide) stillOpen.isOpen

end StationRun

end AnalyzerSessions
