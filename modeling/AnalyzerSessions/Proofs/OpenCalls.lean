import AnalyzerSessions.Proofs.IncomingRules

namespace AnalyzerSessions

/-!
# Open calls

A call is open as long as its promise is among those of the unanswered requests and is
not settled.  Whoever else waits for something at a station does not wait by that
promise, so that handling a message from a server spares every open call but the one
whose number the message has.
-/

/-- Nobody who waits for a process is told by a promise. -/
structure ServerProcess.Ignores (process : ServerProcess) (promise : Nat) : Prop where
  output : process.output.reader ≠ some promise
  errors : ∀ channel, process.errors = some channel → channel.reader ≠ some promise
  exit : promise ∉ process.exitWaiters

namespace Station

/-! ## What processes do -/

/-- What holds of a station where no process tells a promise: settling other promises keeps it, and so
does every change of a process that still does not tell the promise. -/
structure Withstands (promise : Nat) (holds : Station → Prop) : Prop where
  ignores : ∀ {station}, holds station → ∀ entry ∈ station.processes, entry.2.Ignores promise
  settle : ∀ {station other}, holds station → other ≠ promise → ∀ outcome,
    holds (station.modifyLoop fun loop => loop.settle other outcome)
  modifyProcess : ∀ {station change}, holds station → ∀ chosen,
    (∀ process, process.Ignores promise → (change process).Ignores promise) →
      holds (station.modifyProcess chosen change)

section

variable {promise : Nat} {holds : Station → Prop} (withstands : Withstands promise holds)
  {station : Station} (held : holds station)

include withstands held

theorem Withstands.settleAll
    {promises : List Nat}
    (apart : promise ∉ promises)
    (outcome : Outcome) :
    holds (station.modifyLoop fun loop => loop.settleAll promises outcome) := by
  induction promises generalizing station with
  | nil =>
      exact held
  | cons other rest inductionHypothesis =>
      rw [List.mem_cons, not_or] at apart
      exact inductionHypothesis (withstands.settle held (Ne.symm apart.1) outcome) apart.2

theorem Withstands.ignoresFound
    {chosen : Nat}
    {process : ServerProcess}
    (found : station.process? chosen = some process) :
    process.Ignores promise :=
  withstands.ignores held _ (mem_of_process? found)

theorem Withstands.wakeReader
    {channel : Channel}
    (apart : channel.reader ≠ some promise) :
    holds (station.wakeReader channel).1 ∧ (station.wakeReader channel).2.reader = none := by
  unfold Station.wakeReader
  split
  · rename_i nobody
    exact ⟨held, nobody⟩
  · rename_i other reads
    rw [reads] at apart
    exact ⟨withstands.settle held (fun same => apart (congrArg some same)) .done, rfl⟩

theorem Withstands.changeOutput
    (chosen : Nat)
    (change : Wire.Stream → Wire.Stream) :
    holds (station.changeOutput chosen change) := by
  unfold Station.changeOutput
  split
  · exact held
  · rename_i process found
    have ignored := withstands.ignoresFound held found
    obtain ⟨woken, nobody⟩ := withstands.wakeReader held ignored.output
    refine withstands.modifyProcess woken chosen fun known ignored =>
      ⟨fun reads => ?_, ignored.errors, ignored.exit⟩
    cases nobody.symm.trans reads

theorem Withstands.changeErrors
    (chosen : Nat)
    (change : Wire.Stream → Wire.Stream) :
    holds (station.changeErrors chosen change) := by
  unfold Station.changeErrors
  split
  · exact held
  · rename_i errors found
    obtain ⟨process, isThere, logs⟩ := Option.bind_eq_some_iff.mp found
    have ignored := withstands.ignoresFound held isThere
    obtain ⟨woken, nobody⟩ := withstands.wakeReader held (ignored.errors errors logs)
    refine withstands.modifyProcess woken chosen fun known ignored =>
      ⟨ignored.output, fun channel same reads => ?_, ignored.exit⟩
    cases same
    cases nobody.symm.trans reads

theorem Withstands.exitProcess
    (chosen : Nat)
    (code : Int) :
    holds (station.exitProcess chosen code) := by
  unfold Station.exitProcess
  split
  · exact held
  · rename_i process found
    split
    · exact held
    · have marked : holds (station.modifyProcess chosen fun process =>
          { process with exitCode := some code, exitWaiters := [] }) :=
        withstands.modifyProcess held chosen fun known ignored =>
          ⟨ignored.output, ignored.errors, List.not_mem_nil⟩
      have ended := withstands.changeErrors (withstands.changeOutput marked chosen .finish)
        chosen .finish
      exact withstands.settleAll ended (withstands.ignoresFound held found).exit _

/-- What a process does when it gets a message. -/
theorem Withstands.react
    (chosen : Nat)
    (message : Json) :
    holds (station.react chosen message) := by
  have reacts : ∀ reactions : List Reaction, ∀ station : Station, holds station →
      holds (reactions.foldl (fun station reaction => station.doReaction chosen reaction)
        station) := by
    intro reactions
    induction reactions with
    | nil =>
        exact fun _ held => held
    | cons reaction rest inductionHypothesis =>
        intro station held
        refine inductionHypothesis _ ?_
        cases reaction with
        | send message =>
            exact withstands.changeOutput held chosen fun stream =>
              stream.feed (Wire.frame message)
        | exit code =>
            exact withstands.exitProcess held chosen code
  unfold Station.react
  split
  · exact held
  · exact reacts _ station held

end

/-! ## Open calls -/

/-- A call is open. -/
structure IsOpen (station : Station) (session number promise : Nat) : Prop where
  pending : ∃ client, station.client? session = some client ∧ (number, promise) ∈ client.pending
  isOpen : station.loop.outcome? promise = none

/-- A call is open, and nothing else is told by its promise. -/
structure Waits (station : Station) (session number promise : Nat) : Prop
    extends station.IsOpen session number promise where
  own : ∀ other client known, station.client? other = some client →
    (known, promise) ∈ client.pending → other = session ∧ known = number
  quiescent : ∀ other client, station.client? other = some client →
    promise ∉ client.quiescent.waiters
  processes : ∀ entry ∈ station.processes, entry.2.Ignores promise

/-- A call that is open at a sound station waits: the topic of its promise is its own. -/
theorem Sound.waits
    {station : Station}
    {hand : List Token}
    {session number promise : Nat}
    (sound : station.Sound hand)
    (isOpen : station.IsOpen session number promise) :
    station.Waits session number promise := by
  obtain ⟨client, found, isPending⟩ := isOpen.pending
  have told := ((sound.clientFits found).pending _ isPending).1
  have noTick : station.loop.topic? promise ≠ some .tick := by
    rw [told]
    nofun
  refine ⟨isOpen, fun other owner known isThere waits => ?_, fun other owner isThere waits => ?_,
    fun entry member => ?_⟩
  · have toldAgain := ((sound.clientFits isThere).pending _ waits).1
    cases told.symm.trans toldAgain
    exact ⟨rfl, rfl⟩
  · exact noTick ((sound.clientFits isThere).quiescent promise waits)
  · have fits := sound.processes entry member
    refine ⟨fun reads => noTick (fits.output promise reads), fun channel logs reads =>
      noTick (fits.errors channel promise logs reads), fun waits => ?_⟩
    cases told.symm.trans (fits.exit promise waits)

section

variable {station : Station} {session number promise : Nat}
  (waits : station.Waits session number promise)

include waits

/-- A call waits on where its promise stays open and clients and processes stay what they are. -/
theorem Waits.of_same
    {after : Station}
    (isOpen : after.loop.outcome? promise = station.loop.outcome? promise)
    (runs : after.runs = station.runs)
    (processes : after.processes = station.processes) :
    after.Waits session number promise := by
  have clients : ∀ other, after.client? other = station.client? other := by
    intro other
    unfold client? run?
    rw [runs]
  refine ⟨⟨?_, isOpen.trans waits.isOpen⟩, ?_, ?_, ?_⟩
  · simpa only [clients] using waits.pending
  · simpa only [clients] using waits.own
  · simpa only [clients] using waits.quiescent
  · simpa only [processes] using waits.processes

/-- Settling another promise leaves a call open. -/
theorem Waits.settle
    {other : Nat}
    (apart : other ≠ promise)
    (outcome : Outcome) :
    (station.modifyLoop fun loop => loop.settle other outcome).Waits session number promise := by
  refine waits.of_same ?_ rfl rfl
  show (station.loop.settle other outcome).outcome? promise = _
  rw [Loop.outcome?_settle, if_neg fun same => apart same.1.symm]

/-- A call waits on when a process changes that is still not told by its promise. -/
theorem Waits.modifyProcess
    {change : ServerProcess → ServerProcess}
    (chosen : Nat)
    (ignores : ∀ process, process.Ignores promise → (change process).Ignores promise) :
    (station.modifyProcess chosen change).Waits session number promise := by
  refine ⟨⟨waits.pending, waits.isOpen⟩, waits.own, waits.quiescent, fun entry member => ?_⟩
  obtain ⟨old, isThere, rfl⟩ := List.mem_map.mp member
  have ignored := waits.processes old isThere
  split
  · exact ignores old.2 ignored
  · exact ignored

end

/-- A call waits on whatever processes do. -/
theorem withstands_waits (session number promise : Nat) :
    Withstands promise fun station => station.Waits session number promise where
  ignores waits := waits.processes
  settle waits apart outcome := waits.settle apart outcome
  modifyProcess waits chosen ignores := waits.modifyProcess chosen ignores

end Station

end AnalyzerSessions
