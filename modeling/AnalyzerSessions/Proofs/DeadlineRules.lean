import AnalyzerSessions.Proofs.RunChanges

namespace AnalyzerSessions.Move

/-!
# Rules for parts of moves

What the small moves of a station give, and where waiting within a limit leads.
-/

variable {α β : Type} {hand : List Token} {station : Station}

/-- A move that never fails goes before another one. -/
theorem Keeps.then_keeps
    {move : Move α}
    {next : α → Move β}
    {gives : α → Station → Prop}
    {tells : β → Station → Prop}
    {fails : Failure → Prop}
    (first : Keeps hand station move gives fun _ => False)
    (second : ∀ value mid, Comes hand station mid → gives value mid →
      Keeps hand mid (next value) tells fails) :
    Keeps hand station (move >>= next) tells fails :=
  (first.imp (fun _ _ _ => id) fun _ => False.elim).bind second

/-- What is next after a move that never fails and another one is what the other one says. -/
theorem Keeps.make_bind
    {move : Move α}
    {gives : α → Station → Prop}
    (first : Keeps hand station move gives fun _ => False)
    (next : α → Move Next) :
    ∃ value mid, Comes hand station mid ∧ gives value mid ∧
      make (move >>= next) station = make (next value) mid := by
  unfold Keeps at first
  rw [make_eq, perform_bind]
  generalize perform move station = result at first ⊢
  rcases result with ⟨failure | value, mid⟩
  · exact first.2.elim
  · exact ⟨value, mid, first.1, first.2, rfl⟩

/-- A move that never fails goes before one that comes to what is next. -/
theorem Keeps.then_leads
    {other : List Token}
    {move : Move α}
    {next : α → Move Next}
    {gives : α → Station → Prop}
    {goal : Topic}
    (first : Keeps other station move gives fun _ => False)
    (second : ∀ value mid, Comes other station mid → gives value mid →
      Leads hand mid (next value) goal) :
    Leads hand station (move >>= next) goal := by
  obtain ⟨value, mid, comes, given, same⟩ := first.make_bind next
  obtain ⟨later, leads⟩ := second value mid comes given
  unfold Leads
  rw [same]
  exact ⟨comes.trans later, leads⟩

/-- A look at the station before a move that comes to what is next. -/
theorem leads_get
    {next : Station → Move Next}
    {goal : Topic}
    (leads : Leads hand station (next station) goal) :
    Leads hand station (get >>= next) goal :=
  leads

theorem keeps_change
    {change : Station → Station}
    (comes : Comes hand station (change station)) :
    Keeps hand station (modify change) (fun _ after => after = change station) fun _ => False :=
  ⟨comes, rfl⟩

/-- A change of the station before a move that comes to what is next. -/
theorem leads_change
    {other : List Token}
    {change : Station → Station}
    {next : Unit → Move Next}
    {goal : Topic}
    (comes : Comes other station (change station))
    (leads : Leads hand (change station) (next ()) goal) :
    Leads hand station (modify change >>= next) goal :=
  ⟨comes.trans leads.1, leads.2⟩

theorem keeps_newPromise
    {topic : Topic}
    (sound : station.Sound hand)
    (ordinary : ¬topic.IsSteady) :
    Keeps hand station (newPromise topic)
      (fun promise after => after.loop.topic? promise = some topic ∧ after.runs = station.runs)
      fun _ => False := by
  refine ⟨sound.newPromise ordinary, ?_, rfl⟩
  show (station.loop.newPromise topic).2.topic? station.loop.promises.length = some topic
  rw [Loop.topic?_newPromise, if_pos rfl]

theorem keeps_spawn
    {job : Job}
    (sound : station.Sound hand)
    (admitted : station.Admits job)
    (ordinary : ¬job.topic.IsSteady) :
    Keeps hand station (spawn job)
      (fun task after => after.loop.topic? task = some job.topic) fun _ => False := by
  refine ⟨sound.spawn admitted ordinary, ?_⟩
  show (station.loop.newPromise job.topic).2.topic? station.loop.promises.length = some job.topic
  rw [Loop.topic?_newPromise, if_pos rfl]

theorem keeps_observe
    (sound : station.Sound hand)
    (event : Event) :
    Keeps hand station (observe event) (fun _ _ => True) fun _ => False := by
  have same : ({ station.desk with history := station.desk.history ++ [event] } : Desk).ledger =
      station.desk.ledger := rfl
  exact ⟨sound.withPapers same sound.desk.silent station.launches, trivial⟩

theorem keeps_say
    (sound : station.Sound hand)
    (level : Level)
    (text : String) :
    Keeps hand station (say level text) (fun _ _ => True) fun _ => False := by
  have same : ({ station.desk with log := station.desk.log ++ [⟨level, text⟩] } : Desk).ledger =
      station.desk.ledger := rfl
  exact ⟨sound.withPapers same sound.desk.silent station.launches, trivial⟩

/-! ## Deadlines -/

/-- What was promised holds of the outcome. -/
theorem holds_outcome
    {promise : Nat}
    {topic : Topic}
    {outcome : Outcome}
    (sound : station.Sound hand)
    (told : station.loop.topic? promise = some topic)
    (settled : station.loop.outcome? promise = some outcome) :
    station.Holds topic outcome :=
  sound.loop.outcomes told settled

/-- Cancelling something leads on in a frame that only wants to be told that it happened. -/
theorem leads_cancelAndWait
    {frame : Frame}
    {goal : Topic}
    (sound : station.Sound hand)
    (promise : Nat)
    (free : frame.tokens = [])
    (taken : ∀ after, station.Onward after → after.Takes frame .tick goal) :
    Leads hand station (cancelAndWait promise frame) goal := by
  refine (keeps_newPromise sound id).then_leads ?_
  rintro waiter mid comes ⟨told, _⟩
  have waits := comes.sound.whenSettled promise told
  refine (keeps_change (waits.trans (waits.sound.cancel promise))).then_leads ?_
  intro _ after later _
  have late : ∀ session, ¬frame.Starts session := by
    intro session starts
    cases starts.tokens.symm.trans free
  refine leads_pure ?_ ?_
  · rw [Next.tokens_into, free]
    exact later.sound
  · refine (Station.leads_await ?_).into (.refl .tick)
      (taken after (comes.onward.trans later.onward)) late
    exact .told (later.onward.loop.topics told) trivial

/-- Waiting for a number of seconds leads to what was waited for. -/
theorem leads_awaitFor
    {promise : Nat}
    {goal : Topic}
    (sound : station.Sound hand)
    (told : station.loop.topic? promise = some goal)
    (lapses : goal.MayLapse)
    (seconds : Number.Binary64) :
    Leads hand station (awaitFor promise seconds) goal := by
  unfold awaitFor
  split
  · refine leads_get ?_
    split
    · rename_i outcome settled
      exact leads_give sound (holds_outcome sound told settled)
    · exact leads_cancelAndWait sound promise rfl fun after onward =>
        .expired (onward.loop.topics told) lapses
  · refine (keeps_newPromise sound id).then_leads ?_
    rintro waiter mid comes ⟨isTick, _⟩
    have timed := comes.sound.settleAfter isTick seconds
    have waits := timed.sound.whenSettled promise (timed.onward.loop.topics isTick)
    refine (keeps_change (timed.trans waits)).then_leads fun _ after later _ => ?_
    refine leads_pure later.sound ((Station.leads_await ?_).into (.refl .tick) ?_ nofun)
    · exact .told (later.onward.loop.topics isTick) trivial
    · exact .deadline ((comes.onward.trans later.onward).loop.topics told) lapses

/-- Waiting within a limit leads to what was waited for, where a wrong limit may be told. -/
theorem leads_awaitWithin
    {promise : Nat}
    {goal : Topic}
    (sound : station.Sound hand)
    (told : station.loop.topic? promise = some goal)
    (lapses : goal.MayLapse)
    (mayFail : ∀ misuse, station.Holds goal (.error (.misuse misuse)))
    (limit : Json) :
    Leads hand station (awaitWithin promise limit) goal := by
  unfold awaitWithin
  split
  · exact leads_throw sound (mayFail _)
  · exact leads_pure sound (Station.leads_await (.told told lapses.shared))
  · exact leads_awaitFor sound told lapses _

/-- A job leads to what its outcome tells. -/
theorem leads_perform
    {job : Job}
    (admitted : station.Admits job)
    (ordinary : ¬job.topic.IsSteady) :
    station.Leads (Next.perform job) job.topic := by
  refine ⟨⟨.tick, (Station.Takes.begin admitted).reaches, Station.isQuiet_ok _⟩, ?_⟩
  intro frame member
  cases List.mem_singleton.mp member
  refine (Station.Takes.begin admitted).frameFits fun session starts => ?_
  cases starts
  exact ordinary trivial

/-- A job that is not the run of a server has no tokens. -/
theorem tokens_perform
    {job : Job}
    (ordinary : ¬job.topic.IsSteady) :
    (Next.perform job).tokens = [] := by
  cases job with
  | runServer session =>
      exact (ordinary trivial).elim
  | _ =>
      rfl

/-- Doing a job within a limit leads to what its outcome tells. -/
theorem leads_performFor
    {job : Job}
    (sound : station.Sound hand)
    (admitted : station.Admits job)
    (lapses : job.topic.MayLapse)
    (limit : Limit) :
    Leads hand station (performFor job limit) job.topic := by
  cases limit with
  | none =>
      refine leads_pure ?_ (leads_perform admitted lapses.ordinary)
      rw [tokens_perform lapses.ordinary]
      exact sound
  | within seconds =>
      refine (keeps_spawn sound admitted lapses.ordinary).then_leads fun task mid comes told => ?_
      exact leads_awaitFor comes.sound told lapses seconds

/-- Doing a job within the limit that a value stands for leads to what its outcome tells, if that may
be that the value stands for none. -/
theorem leads_performWithin
    {job : Job}
    (sound : station.Sound hand)
    (admitted : station.Admits job)
    (lapses : job.topic.MayLapse)
    (mayMisuse : ∀ misuse, station.Holds job.topic (.error (.misuse misuse)))
    (limit : Json) :
    Leads hand station (performWithin job limit) job.topic := by
  unfold performWithin
  split
  · exact leads_throw sound (mayMisuse _)
  · exact leads_performFor sound admitted lapses _

/-- What lapsed is told as such, and not as a cancellation. -/
theorem holds_expiredOutcome
    {topic : Topic}
    {outcome : Outcome}
    (lapses : topic.MayLapse)
    (told : station.Holds topic outcome) :
    station.Holds topic (expiredOutcome outcome) := by
  unfold expiredOutcome
  split
  · exact Station.holds_timedOut lapses
  · exact told

/-- After a deadline there is an outcome, or what was waited for is given up. -/
theorem leads_afterDeadline
    {promise : Nat}
    {goal : Topic}
    (sound : station.Sound hand)
    (told : station.loop.topic? promise = some goal)
    (lapses : goal.MayLapse)
    (time : Nat)
    (outcome : Outcome) :
    Leads hand station (afterDeadline promise time outcome) goal := by
  refine leads_get ?_
  split
  · rename_i settled isSettled
    refine (keeps_change (sound.cancelTimer time)).then_leads fun _ after comes _ => ?_
    exact leads_give comes.sound (comes.onward.holds (holds_outcome sound told isSettled))
  · exact leads_cancelAndWait sound promise rfl fun after onward =>
      .expired (onward.loop.topics told) lapses
  · exact leads_cancelAndWait sound promise rfl fun after onward => .abandoned lapses

/-- After the cancellation of what took too long there is an outcome. -/
theorem leads_afterExpiry
    {promise : Nat}
    {goal : Topic}
    {outcome : Outcome}
    (sound : station.Sound hand)
    (told : station.loop.topic? promise = some goal)
    (lapses : goal.MayLapse)
    (quiet : outcome.IsQuiet) :
    Leads hand station (afterExpiry promise outcome) goal := by
  unfold afterExpiry
  split
  · rename_i failure
    cases quiet failure rfl
    exact leads_give sound (Station.holds_cancelled lapses.ordinary)
  · refine leads_get (leads_give sound (holds_expiredOutcome lapses ?_))
    cases settled : station.loop.outcome? promise with
    | none =>
        exact Station.holds_cancelled lapses.ordinary
    | some given =>
        exact holds_outcome sound told settled

/-- What was given up was cancelled. -/
theorem leads_afterGivingUpOn
    {goal : Topic}
    (sound : station.Sound hand)
    (lapses : goal.MayLapse)
    (time : Nat) :
    Leads hand station (afterGivingUpOn time) goal := by
  refine (keeps_change (sound.cancelTimer time)).then_leads fun _ after comes _ => ?_
  exact leads_give comes.sound (Station.holds_cancelled lapses.ordinary)

end AnalyzerSessions.Move
