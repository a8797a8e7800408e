import AnalyzerSessions.Proofs.ClientStops
import AnalyzerSessions.Proofs.CorrelatedCalls

namespace AnalyzerSessions

/-!
# Wanted answers

An answer that the reader finds settles the call with its number, if that call still
waits, and is dropped if no call has its number.  In both cases reading goes on, and
every other call is as it was.  What is left is a call that was given up from outside:
it is still among the unanswered ones, its promise is settled, and a late answer ends
the reading.
-/

/-- The members of an answer: a whole number that identifies a request, no method, and if there is an
error it is an object. -/
structure IsResponse (fields : List (String × Json)) (id : Int) : Prop where
  noMethod : Json.lookup? "method" fields = none
  identified : Json.lookup? "id" fields = some (.int id)
  wellFormed : ∀ error, Json.lookup? "error" fields = some error → ∃ members, error = .obj members

namespace Station

/-- A call is among the unanswered ones of its session although its promise is settled.  So it stays
when the call was given up from outside; a call whose own time is up is among them until its task
goes on. -/
def IsGivenUp (station : Station) (session number : Nat) : Prop :=
  ∃ client promise, station.client? session = some client ∧
    client.promise? number = some promise ∧ station.loop.isSettled promise = true

/-- The next step reads on for a session, and leaves all calls as they are but one that has a given
number. -/
structure ReadsPast (station : Station) (session : Nat) (id : Int) : Prop where
  reads : station.step.reads? session = some .initial
  others : ∀ other (number promise : Nat), ¬(other = session ∧ (number : Int) = id) →
    (station.step.Pends other number promise ↔ station.Pends other number promise)
  outcomes : ∀ other (number promise : Nat), ¬(other = session ∧ (number : Int) = id) →
    station.Pends other number promise →
      station.step.loop.outcome? promise = station.loop.outcome? promise

/-- A station where a client has forgotten a call. -/
def forgets (station : Station) (session number : Nat) : Station :=
  station.modifyClient session fun client => client.forget number

variable {station : Station} {session number : Nat}

/-- The other calls wait as before when one is forgotten. -/
theorem pends_forgets
    {other known promise : Nat}
    (apart : ¬(other = session ∧ known = number)) :
    (station.forgets session number).Pends other known promise ↔
      station.Pends other known promise := by
  unfold Pends forgets
  rw [client?_modifyClient]
  refine ⟨?_, ?_⟩
  · rintro ⟨client, found, isPending⟩
    obtain ⟨old, wasFound, rfl⟩ := Option.map_eq_some_iff.mp found
    refine ⟨old, wasFound, ?_⟩
    split at isPending
    · exact List.mem_of_mem_filter isPending
    · exact isPending
  · rintro ⟨client, found, isPending⟩
    refine ⟨_, congrArg (Option.map _) found, ?_⟩
    split
    · rename_i same
      refine List.mem_filter.mpr ⟨isPending, ?_⟩
      simpa using fun isNumber => apart ⟨same, isNumber⟩
    · exact isPending

end Station

/-- A number is always looked up. -/
theorem Client.answered?_int_ne_error
    (client : Client)
    (id : Int)
    (misuse : Misuse) :
    client.answered? (.int id) ≠ .error misuse := by
  unfold answered?
  split <;> exact nofun

namespace Move

variable {station : Station} {session : Nat} {id : Int} {fields : List (String × Json)}

/-- A promise that is not settled can be settled. -/
theorem perform_settleRequest
    {promise : Nat}
    (unsettled : station.loop.isSettled promise = false)
    (outcome : Outcome) :
    perform (settleRequest promise outcome) station =
      (.ok (), station.modifyLoop fun loop => loop.settle promise outcome) := by
  show perform (if station.loop.isSettled promise then throw .alreadySettled
    else modifyLoop fun loop => loop.settle promise outcome) station = _
  rw [unsettled]
  rfl

/-- An answer to a call that still waits settles it and forgets it. -/
theorem perform_handleAnswer
    {number promise : Nat}
    (isResponse : IsResponse fields id)
    (unsettled : station.loop.isSettled promise = false)
    (text : Json) :
    ∃ log outcome, perform (handleAnswer session number promise text fields) station =
      (.ok (), (({ station with desk := { station.desk with log } } : Station).forgets
        session number).modifyLoop fun loop => loop.settle promise outcome) := by
  have forgotten : perform (modifyClient session fun client => client.forget number) station =
      (.ok (), station.forgets session number) := rfl
  have settles : ∀ log outcome, perform (settleRequest promise outcome)
      (({ station with desk := { station.desk with log } } : Station).forgets session number) =
        (.ok (), (({ station with desk := { station.desk with log } } : Station).forgets
          session number).modifyLoop fun loop => loop.settle promise outcome) := by
    intro log outcome
    have stillUnsettled : (({ station with desk := { station.desk with log } } : Station).forgets
        session number).loop.isSettled promise = false := unsettled
    exact perform_settleRequest stillUnsettled outcome
  unfold handleAnswer
  rw [perform_bind, forgotten]
  dsimp only
  split
  · exact ⟨station.desk.log, _, settles _ _⟩
  · rename_i error failed
    obtain ⟨members, rfl⟩ := isResponse.wellFormed error failed
    exact ⟨_, _, settles _ _⟩

/-- An answer is handled when its call still waits, or is not known. -/
theorem perform_handleResponse
    {client : Client}
    (isResponse : IsResponse fields id)
    (found : station.client? session = some client)
    (wanted : ¬station.IsGivenUp session id.toNat) :
    ∃ log, perform (handleResponse session (.int id) fields) station =
        (.ok .done, { station with desk := { station.desk with log } }) ∨
      ∃ (number promise : Nat) (outcome : Outcome), (number : Int) = id ∧ (number, promise) ∈ client.pending ∧
        perform (handleResponse session (.int id) fields) station =
          (.ok .done, (({ station with desk := { station.desk with log } } : Station).forgets
            session number).modifyLoop fun loop => loop.settle promise outcome) := by
  unfold handleResponse
  rw [perform_bind, perform_client found]
  dsimp only
  split
  · rename_i misuse isMisuse
    exact absurd isMisuse (client.answered?_int_ne_error id misuse)
  · rename_i answered isFor
    split
    case h_2 => exact ⟨_, .inl rfl⟩
    rename_i number promise
    obtain ⟨isNumber, waits⟩ := Client.answered?_eq_some isFor
    dsimp only [requestNumber?] at isNumber
    have notNegative : 0 ≤ id := by
      by_contra negative
      rw [if_neg negative] at isNumber
      cases isNumber
    rw [if_pos notNegative] at isNumber
    cases isNumber
    have unsettled : station.loop.isSettled promise = false := by
      by_contra settled
      exact wanted ⟨client, promise, found, waits, by simpa using settled⟩
    obtain ⟨log, outcome, answered⟩ := perform_handleAnswer isResponse unsettled (.int id)
    refine ⟨log, .inr ⟨id.toNat, promise, outcome, Int.toNat_of_nonneg notNegative,
      client.mem_of_promise? waits, ?_⟩⟩
    rw [perform_bind, answered]
    rfl

/-- A received answer is handled when its call still waits, or is not known. -/
theorem make_handleMessage_of_response
    {client : Client}
    (isResponse : IsResponse fields id)
    (found : station.client? session = some client)
    (wanted : ¬station.IsGivenUp session id.toNat) :
    ∃ desk chronicle, make (handleMessage session (.obj fields)) station =
        (.done, { station with desk, chronicle }) ∨
      ∃ (number promise : Nat) (outcome : Outcome), (number : Int) = id ∧
        (number, promise) ∈ client.pending ∧
        make (handleMessage session (.obj fields)) station =
          (.done, (({ station with desk, chronicle } : Station).forgets session number).modifyLoop
            fun loop => loop.settle promise outcome) := by
  have interpreted : interpret session (.obj fields) = handleResponse session (.int id) fields := by
    unfold interpret
    dsimp only
    rw [isResponse.noMethod, isResponse.identified]
  have arrived : perform (record (.arrived session (.obj fields))) station =
      (.ok (), { station with
        chronicle := station.chronicle ++ [.arrived session (.obj fields)] }) := rfl
  have same := make_bind arrived fun _ => interpret session (.obj fields)
  have foundNow : ({ station with
      chronicle := station.chronicle ++ [.arrived session (.obj fields)] } : Station).client?
        session = some client := found
  obtain ⟨log, handled⟩ := perform_handleResponse isResponse foundNow wanted
  refine ⟨{ station.desk with log }, station.chronicle ++ [.arrived session (.obj fields)], ?_⟩
  unfold handleMessage
  rw [same, interpreted, make_eq]
  rcases handled with performed | ⟨number, promise, outcome, isNumber, isPending, performed⟩
  · refine .inl ?_
    rw [performed]
  · refine .inr ⟨number, promise, outcome, isNumber, isPending, ?_⟩
    rw [performed]

end Move

namespace Station

variable {station : Station} {session : Nat} {id : Int} {fields : List (String × Json)}

/-- Reading goes on past what has been handled, when the handling leaves the other calls as they
are. -/
theorem readsPast_of_follow
    {after : Station}
    {hand : List Token}
    {task : Nat}
    {rest : List Frame}
    {outcome : Outcome}
    (sound : after.Sound hand)
    (running : after.loop.running = some (task, outcome))
    (step : station.step = after.follow task rest (Next.done.into (.handled session)))
    (spared : ∀ other (number promise : Nat), ¬(other = session ∧ (number : Int) = id) →
      (after.Pends other number promise ↔ station.Pends other number promise) ∧
        (station.Pends other number promise →
          after.loop.outcome? promise = station.loop.outcome? promise)) :
    station.ReadsPast session id := by
  refine ⟨?_, fun other number promise apart => ?_, fun other number promise apart pends => ?_⟩
  · rw [step]
    exact sound.reads?_follow running rfl _
  · rw [step]
    exact (spared other number promise apart).1
  · rw [step]
    exact (spared other number promise apart).2 pends

/-- Reading goes on past an answer, unless its call was given up. -/
theorem Poised.readsPast
    (poised : station.Poised)
    (received : station.received? session = some (.obj fields))
    (isResponse : IsResponse fields id)
    (wanted : ¬station.IsGivenUp session id.toNat) :
    station.ReadsPast session id := by
  obtain ⟨task, rest, client, read, receives⟩ := poised.receives received
  obtain ⟨_, sameLoop, sameRuns, _⟩ := receives.readsFrom.same
  have found : read.client? session = some client :=
    (client?_congr sameRuns session).trans receives.found
  have wantedNow : ¬read.IsGivenUp session id.toNat := by
    rintro ⟨other, promise, isOther, waits, settled⟩
    rw [sameLoop] at settled
    exact wanted ⟨other, promise, (client?_congr sameRuns session).symm.trans isOther, waits, settled⟩
  obtain ⟨hand, sound⟩ := receives.sound
  obtain ⟨given, running⟩ := receives.running
  have step := receives.step
  obtain ⟨desk, chronicle, handled⟩ :=
    Move.make_handleMessage_of_response isResponse found wantedNow
  have samePending : ∀ other (number promise : Nat),
      ({ read with desk, chronicle } : Station).Pends other number promise ↔
        station.Pends other number promise :=
    fun other number promise => ⟨fun pends => pends.of_runs_eq sameRuns.symm,
      fun pends => pends.of_runs_eq sameRuns⟩
  have sameOutcome : ∀ promise, read.loop.outcome? promise = station.loop.outcome? promise := by
    intro promise
    rw [sameLoop]
    rfl
  rcases handled with dropped | ⟨number, promise, outcome, isNumber, isPending, settled⟩
  · rw [dropped] at step sound running
    refine readsPast_of_follow sound running step fun other known waits _ => ?_
    exact ⟨samePending other known waits, fun _ => sameOutcome waits⟩
  · rw [settled] at step sound running
    have told := ((poised.toSound.clientFits receives.found).pending _ isPending).1
    refine readsPast_of_follow sound running step fun other known waits apart => ?_
    -- The answer settles the promise of its own call; every other call waits for another promise.
    have notThis : ¬(other = session ∧ known = number) := by
      rintro ⟨rfl, rfl⟩
      exact apart ⟨rfl, isNumber⟩
    refine ⟨(pends_forgets notThis).trans (samePending other known waits), ?_⟩
    rintro ⟨owner, isOwner, isThere⟩
    have otherTold := ((poised.toSound.clientFits isOwner).pending _ isThere).1
    have different : waits ≠ promise := by
      rintro rfl
      cases told.symm.trans otherTold
      exact notThis ⟨rfl, rfl⟩
    refine (Loop.outcome?_settle _ promise outcome waits).trans ?_
    exact (if_neg fun same => different same.1).trans (sameOutcome waits)

/-! ## A call that was given up -/

/-- An attended station where a client was accepted, made a request, and gave up its stop waiting for
the answer to the shutdown. -/
def impatient : Station :=
  let introduced := (attended.undertake (.startClient 1)).2
  let ready := (introduced.doServerAct 1 (.send (Wire.frame acceptedAnswer))).settle
  let busy := (ready.undertake (.request 1 "a" .null .null)).2
  (busy.undertake (.stopClient 1)).2.pass (.ofInt 5)

/-- Waiting in vain for the answer to the shutdown is a run. -/
theorem impatient_run : StationRun attended impatient := by
  have introduced : StationRun attended (attended.undertake (.startClient 1)).2 :=
    StationRun.begin.undertake ⟨_, rfl⟩ id
  have ready := (introduced.next (.server 1 (.send (Wire.frame acceptedAnswer)))).settle
  have busy := ready.undertake (show Station.Admits _ (.request 1 "a" .null .null) from trivial) id
  exact (busy.undertake (show Station.Admits _ (.stopClient 1) from trivial) id).pass _

/-- The answer to the shutdown, which comes too late. -/
def lateFields : List (String × Json) :=
  [("jsonrpc", .str "2.0"), ("id", .int 3), ("result", .null)]

theorem isResponse_late : IsResponse lateFields 3 :=
  ⟨rfl, rfl, nofun⟩

/-- The late answer is about to be received. -/
def overdue : Station :=
  settleWithin 2 (impatient.doServerAct 1 (.send (Wire.frame (.obj lateFields))))

/-- A late answer is part of a run. -/
theorem overdue_run : StationRun attended overdue :=
  (impatient_run.next (.server 1 (.send (Wire.frame (.obj lateFields))))).settleWithin 2

theorem isResponse_second :
    IsResponse [("jsonrpc", .str "2.0"), ("id", .int 2), ("result", .int 5)] 2 :=
  ⟨rfl, rfl, nofun⟩

/-- A call whose promise is not settled was not given up. -/
theorem not_isGivenUp
    {number promise : Nat}
    (waits : (station.client? session).bind (fun client => client.promise? number) = some promise)
    (unsettled : station.loop.isSettled promise = false) :
    ¬station.IsGivenUp session number := by
  rintro ⟨client, other, found, isOther, settled⟩
  rw [found, Option.bind_some, isOther] at waits
  cases waits
  rw [unsettled] at settled
  cases settled

end Station

namespace StationRun

variable {initial station : Station}

/-- A well-formed answer that is received never ends the reading, and leaves every other call as it
is, whether its own call waits or nobody knows it; only the call that it answers must not have been
given up from outside. -/
theorem reads_past_answers
    {session : Nat}
    {id : Int}
    {fields : List (String × Json)}
    (isNew : initial.IsNew)
    (reached : StationRun initial station)
    (received : station.received? session = some (.obj fields))
    (isResponse : IsResponse fields id)
    (wanted : ¬station.IsGivenUp session id.toNat) :
    station.ReadsPast session id :=
  (reached.poised isNew).1.readsPast received isResponse wanted

/-- Reading goes on past an answer to one of two calls. -/
theorem second_answer_is_read_past :
    Station.attended.IsNew ∧
      StationRun Station.attended (Station.crowdedBefore Station.secondAnswer) ∧
      (Station.crowdedBefore Station.secondAnswer).received? 1 = some Station.secondAnswer ∧
      ¬(Station.crowdedBefore Station.secondAnswer).IsGivenUp 1 2 ∧
      (Station.crowdedBefore Station.secondAnswer).ReadsPast 1 2 := by
  have received : (Station.crowdedBefore Station.secondAnswer).received? 1 =
      some Station.secondAnswer := by decide +kernel
  have waits : ((Station.crowdedBefore Station.secondAnswer).client? 1).bind
      (fun client => client.promise? 2) = some 6 := by decide +kernel
  have wanted := Station.not_isGivenUp waits (by decide +kernel)
  have reached := Station.crowdedBefore_run Station.secondAnswer
  exact ⟨Station.isNew_attended, reached, received, wanted,
    reads_past_answers Station.isNew_attended reached received Station.isResponse_second wanted⟩

/-- Not every well-formed answer is harmless: one to a shutdown that was given up ends the reading. -/
theorem late_answer_ends_reading :
    ¬∀ station, StationRun Station.attended station →
      ∀ session fields id, station.received? session = some (.obj fields) →
        IsResponse fields id → station.ReadsPast session id := by
  intro harmless
  have received : Station.overdue.received? 1 = some (.obj Station.lateFields) := by decide +kernel
  have stopsReading : Station.overdue.step.reads? 1 = none := by decide +kernel
  have past := harmless _ Station.overdue_run 1 Station.lateFields 3 received Station.isResponse_late
  cases stopsReading.symm.trans past.reads

end StationRun

end AnalyzerSessions
