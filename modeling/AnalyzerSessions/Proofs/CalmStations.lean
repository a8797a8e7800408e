import AnalyzerSessions.Proofs.ReceivedMessages
import AnalyzerSessions.Station.Stimulus

namespace AnalyzerSessions

/-!
# Calm stations

Most of what is done at a station is calm.  Servers are sent nothing but answers, no
session goes on with its life unless to end it, every client is introduced if and only
if it was, and tasks lay down only frames that may do anything but talk to a server for
a client that starts or stops.
-/

namespace Station

/-! ## What servers do -/

/-- Two stations with the same desk, the same runs, the same record and the same frames. -/
structure Agrees (before after : Station) : Prop where
  desk : after.desk = before.desk
  runs : after.runs = before.runs
  chronicle : after.chronicle = before.chronicle
  frameStacks : after.loop.frameStacks = before.loop.frameStacks

theorem Agrees.refl (station : Station) : station.Agrees station :=
  ⟨rfl, rfl, rfl, rfl⟩

theorem Agrees.trans
    {first second third : Station}
    (early : first.Agrees second)
    (late : second.Agrees third) :
    first.Agrees third :=
  ⟨late.desk.trans early.desk, late.runs.trans early.runs, late.chronicle.trans early.chronicle,
    late.frameStacks.trans early.frameStacks⟩

variable (station : Station) (number : Nat)

/-! What servers do changes processes and wakes those who wait for them, and is not put on record. -/

theorem agrees_modifyProcess (change : ServerProcess → ServerProcess) :
    station.Agrees (station.modifyProcess number change) :=
  ⟨rfl, rfl, rfl, rfl⟩

theorem agrees_wakeReader (channel : Channel) :
    station.Agrees (station.wakeReader channel).1 := by
  unfold wakeReader
  split
  · exact .refl station
  · exact ⟨rfl, rfl, rfl, Loop.frameStacks_settle _ _ _⟩

theorem agrees_changeOutput (change : Wire.Stream → Wire.Stream) :
    station.Agrees (station.changeOutput number change) := by
  unfold changeOutput
  split
  · exact .refl station
  · rename_i process _
    exact (station.agrees_wakeReader process.output).trans (agrees_modifyProcess _ _ _)

theorem agrees_changeErrors (change : Wire.Stream → Wire.Stream) :
    station.Agrees (station.changeErrors number change) := by
  unfold changeErrors
  split
  · exact .refl station
  · rename_i errors _
    exact (station.agrees_wakeReader errors).trans (agrees_modifyProcess _ _ _)

theorem agrees_exitProcess (code : Int) :
    station.Agrees (station.exitProcess number code) := by
  unfold exitProcess
  split
  · exact .refl station
  · split
    · exact .refl station
    · have marked := station.agrees_modifyProcess number fun process =>
        { process with exitCode := some code, exitWaiters := [] }
      have ended := (marked.trans (agrees_changeOutput _ number .finish)).trans
        (agrees_changeErrors _ number .finish)
      exact ended.trans ⟨rfl, rfl, rfl, Loop.frameStacks_settleAll _ _ _⟩

theorem agrees_signal (sent : Signal) :
    station.Agrees (station.signal number sent) := by
  unfold signal
  split
  · exact .refl station
  · have noted := station.agrees_modifyProcess number fun process =>
      { process with received := process.received ++ [sent] }
    dsimp only
    split
    · exact noted
    · exact noted.trans (agrees_exitProcess _ number _)

theorem agrees_doReactions (reactions : List Reaction) :
    station.Agrees
      (reactions.foldl (fun station reaction => station.doReaction number reaction) station) := by
  induction reactions generalizing station with
  | nil =>
      exact .refl station
  | cons reaction rest inductionHypothesis =>
      have reacts : station.Agrees (station.doReaction number reaction) := by
        cases reaction with
        | send message =>
            exact station.agrees_changeOutput number fun stream => stream.feed (Wire.frame message)
        | exit code => exact station.agrees_exitProcess number code
      exact reacts.trans (inductionHypothesis _)

theorem agrees_react (message : Json) :
    station.Agrees (station.react number message) := by
  unfold react
  split
  · exact .refl station
  · exact station.agrees_doReactions number _

theorem agrees_doServerAct (act : ServerAct) :
    station.Agrees (station.doServerAct number act) := by
  cases act with
  | send bytes =>
      exact station.agrees_changeOutput number fun stream => stream.feed bytes
  | endOutput =>
      exact station.agrees_changeOutput number .finish
  | log bytes =>
      exact station.agrees_changeErrors number fun stream => stream.feed bytes
  | exit code =>
      exact station.agrees_exitProcess number code
  | breakPipe =>
      exact station.agrees_modifyProcess number fun process => { process with isBroken := true }

end Station

/-! ## Calm changes -/

/-- A job that has no part in the conversation of a client that starts or stops, and sends nothing
in the name of a client that may not be introduced. -/
def Job.IsFree : Job → Prop
  | request _ _ _ _ => False
  | notify _ _ _ => False
  | startClient _ => False
  | stopClient _ => False
  | leaf _ _ _ => False
  | _ => True

/-- A frame that has no part in the conversation of a client that starts or stops. -/
def Frame.IsFree : Frame → Prop
  | begin job => job.IsFree
  | handshaken _ => False
  | greeted _ => False
  | shutDown _ => False
  | _ => True

/-- No session goes on with its life unless to end it. -/
structure Ledger.Wanes (before after : Ledger) : Prop where
  numbered : after.Numbered
  ids : after.ids = before.ids
  serving : ∀ entry ∈ after.entries, entry.state.isServing = true →
    ∃ old ∈ before.entries, old.id = entry.id ∧ old.state = entry.state

theorem Ledger.Wanes.trans
    {first second third : Ledger}
    (early : first.Wanes second)
    (late : second.Wanes third) :
    first.Wanes third := by
  refine ⟨late.numbered, late.ids.trans early.ids, fun entry member serves => ?_⟩
  obtain ⟨mid, isMid, sameId, sameState⟩ := late.serving entry member serves
  obtain ⟨old, isOld, oldId, oldState⟩ := early.serving mid isMid (sameState ▸ serves)
  exact ⟨old, isOld, oldId.trans sameId, oldState.trans sameState⟩

theorem Ledger.SameSessions.wanes
    {before after : Ledger}
    (sameSessions : before.SameSessions after)
    (numbered : before.Numbered) :
    before.Wanes after := by
  obtain ⟨same, orders⟩ := sameSessions
  rw [same]
  exact ⟨⟨numbered.distinct, numbered.below, numbered.listedDistinct, numbered.listedKnown,
    fun id launched => numbered.launchedKnown id (orders launched)⟩, rfl,
    fun entry member _ => ⟨entry, member, rfl, rfl⟩⟩

/-- A session that leaves does not serve any more. -/
theorem Ledger.Numbered.wanes_leave
    {ledger : Ledger}
    (numbered : ledger.Numbered)
    (entry : LedgerEntry)
    (code : Json) :
    ledger.Wanes (ledger.leave entry code) := by
  refine ⟨numbered.leave entry code, change_ids fun entry => entry.departed_id code,
    fun known member serves => ?_⟩
  obtain ⟨old, isThere, rfl⟩ := List.mem_map.mp member
  split at serves
  · cases serves
  · rename_i different
    rw [if_neg different]
    exact ⟨old, isThere, rfl, rfl⟩

namespace Station

/-- Nothing was said to a server in the name of its client, and what may be said is what it was. -/
structure Unspoken (before after : Station) : Prop where
  frameStacks : ∃ more, after.loop.frameStacks = before.loop.frameStacks ++ more ∧
    ∀ stack ∈ more, ∀ frame ∈ stack.2, frame.IsFree
  chronicle : ∃ more, after.chronicle = before.chronicle ++ more ∧
    ∀ occurrence ∈ more, occurrence.IsSilent
  sessions : before.desk.ledger.Numbered → before.desk.ledger.Wanes after.desk.ledger
  clients : ∀ session, (after.client? session).map Client.isInitialized =
    (before.client? session).map Client.isInitialized
  runs : ∀ session, (before.run? session).isSome = true → (after.run? session).isSome = true

/-- What was done is calm: nothing was said in the name of a client, and nothing is about to be. -/
structure Calm (before after : Station) : Prop extends before.Unspoken after where
  numbers : ∀ session, after.lastRequest session = before.lastRequest session

theorem Unspoken.trans
    {first second third : Station}
    (early : first.Unspoken second)
    (late : second.Unspoken third) :
    first.Unspoken third := by
  refine ⟨?_, ?_, fun numbered => ?_, fun session =>
    (late.clients session).trans (early.clients session), fun session isRun =>
    late.runs session (early.runs session isRun)⟩
  · obtain ⟨more, same, free⟩ := early.frameStacks
    obtain ⟨evenMore, sameLate, freeLate⟩ := late.frameStacks
    refine ⟨more ++ evenMore, by rw [sameLate, same, List.append_assoc], fun stack member => ?_⟩
    exact (List.mem_append.mp member).elim (free stack) (freeLate stack)
  · obtain ⟨more, same, silent⟩ := early.chronicle
    obtain ⟨evenMore, sameLate, silentLate⟩ := late.chronicle
    refine ⟨more ++ evenMore, by rw [sameLate, same, List.append_assoc], fun occurrence member => ?_⟩
    exact (List.mem_append.mp member).elim (silent occurrence) (silentLate occurrence)
  · have wanes := early.sessions numbered
    exact wanes.trans (late.sessions wanes.numbered)

theorem Calm.trans
    {first second third : Station}
    (early : first.Calm second)
    (late : second.Calm third) :
    first.Calm third :=
  ⟨early.toUnspoken.trans late.toUnspoken, fun session =>
    (late.numbers session).trans (early.numbers session)⟩

theorem Unspoken.grows
    {before after : Station}
    (unspoken : before.Unspoken after) :
    before.chronicle <+: after.chronicle := by
  obtain ⟨more, same, _⟩ := unspoken.chronicle
  exact ⟨more, same.symm⟩

theorem lastRequest_congr
    {before after : Station}
    (sameRuns : after.runs = before.runs)
    (session : Nat) :
    after.lastRequest session = before.lastRequest session := by
  unfold lastRequest
  rw [client?_congr sameRuns]

/-- What concerns neither sessions nor clients is calm where only free frames are laid down, and
nothing but what is silent is put on record. -/
theorem calm_of_runs_eq
    {before after : Station}
    {frames : List (Nat × List Frame)}
    {occurrences : List Occurrence}
    (runs : after.runs = before.runs)
    (sessions : before.desk.ledger.Numbered → before.desk.ledger.Wanes after.desk.ledger)
    (frameStacks : after.loop.frameStacks = before.loop.frameStacks ++ frames)
    (free : ∀ stack ∈ frames, ∀ frame ∈ stack.2, frame.IsFree)
    (chronicle : after.chronicle = before.chronicle ++ occurrences)
    (silent : ∀ occurrence ∈ occurrences, occurrence.IsSilent) :
    before.Calm after where
  frameStacks := ⟨frames, frameStacks, free⟩
  chronicle := ⟨occurrences, chronicle, silent⟩
  sessions := sessions
  clients session := by rw [client?_congr runs]
  runs session := by
    unfold run?
    rw [runs]
    exact id
  numbers := lastRequest_congr runs

theorem Agrees.calm
    {before after : Station}
    (agrees : before.Agrees after) :
    before.Calm after := by
  refine calm_of_runs_eq agrees.runs ?_
    (agrees.frameStacks.trans (List.append_nil _).symm)
    (fun _ member => (List.not_mem_nil member).elim)
    (agrees.chronicle.trans (List.append_nil _).symm) fun _ member => (List.not_mem_nil member).elim
  rw [agrees.desk]
  exact (Ledger.SameSessions.refl _).wanes

variable (station : Station)

theorem calm_refl : station.Calm station :=
  (Agrees.refl station).calm

theorem calm_modifyLoop
    {change : Loop Frame → Loop Frame}
    (same : (change station.loop).frameStacks = station.loop.frameStacks) :
    station.Calm (station.modifyLoop change) :=
  Agrees.calm ⟨rfl, rfl, rfl, same⟩

theorem calm_spawn
    {job : Job}
    (free : job.IsFree) :
    station.Calm (station.modifyLoop fun loop => (loop.spawn job.topic [.begin job]).2) := by
  refine calm_of_runs_eq rfl (Ledger.SameSessions.refl _).wanes (Loop.frameStacks_spawn _ _ _) ?_
    (List.append_nil _).symm fun _ member => (List.not_mem_nil member).elim
  intro stack isLast frame isFrame
  cases List.mem_singleton.mp isLast
  cases List.mem_singleton.mp isFrame
  exact free

theorem calm_record
    {occurrence : Occurrence}
    (silent : occurrence.IsSilent) :
    station.Calm { station with chronicle := station.chronicle ++ [occurrence] } := by
  refine calm_of_runs_eq rfl (Ledger.SameSessions.refl _).wanes (List.append_nil _).symm
    (fun _ member => (List.not_mem_nil member).elim) rfl fun other isLast => ?_
  cases List.mem_singleton.mp isLast
  exact silent

theorem calm_desk
    {desk : Desk}
    (sessions : station.desk.ledger.Numbered → station.desk.ledger.Wanes desk.ledger) :
    station.Calm { station with desk } :=
  calm_of_runs_eq rfl sessions (List.append_nil _).symm
    (fun _ member => (List.not_mem_nil member).elim) (List.append_nil _).symm
    fun _ member => (List.not_mem_nil member).elim

theorem client?_enterRun
    {run : Run}
    (noClient : run.client = none)
    (session : Nat) :
    ({ station with runs := station.runs ++ [run] } : Station).client? session =
      station.client? session := by
  unfold client? run?
  dsimp only
  rw [List.find?_append]
  cases station.runs.find? fun run => run.session == session with
  | some old =>
      rfl
  | none =>
      rw [Option.none_or, List.find?_singleton]
      split
      · exact noClient
      · rfl

theorem calm_enterRun
    {run : Run}
    (noClient : run.client = none) :
    station.Calm { station with runs := station.runs ++ [run] } := by
  have same := station.client?_enterRun noClient
  refine ⟨⟨(calm_refl station).frameStacks, (calm_refl station).chronicle,
    (calm_refl station).sessions,
    fun session => by rw [same], fun session isRun => ?_⟩, fun session => ?_⟩
  · obtain ⟨old, found⟩ := Option.isSome_iff_exists.mp isRun
    unfold run? at found ⊢
    dsimp only
    rw [List.find?_append, found]
    rfl
  · unfold lastRequest
    rw [same]

theorem map_client?_modifyRun
    {α : Type}
    {change : Run → Run}
    {part : Client → α}
    (session other : Nat)
    (sameSession : ∀ run, (change run).session = run.session)
    (same : ∀ run, (change run).client.map part = run.client.map part) :
    ((station.modifyRun session change).client? other).map part =
      (station.client? other).map part := by
  rw [client?_modifyRun station session other sameSession, Station.client?]
  cases station.run? other with
  | none =>
      rfl
  | some run =>
      show (if other = session then (change run).client else run.client).map part = _
      split
      · exact same run
      · rfl

/-- A run may change in anything but its session and whether its client is introduced. -/
theorem unspoken_modifyRun
    (session : Nat)
    {change : Run → Run}
    (sameSession : ∀ run, (change run).session = run.session)
    (initialized : ∀ run, (change run).client.map Client.isInitialized =
      run.client.map Client.isInitialized) :
    station.Unspoken (station.modifyRun session change) := by
  refine ⟨(calm_refl station).frameStacks, (calm_refl station).chronicle,
    (calm_refl station).sessions,
    fun other => station.map_client?_modifyRun session other sameSession initialized,
    fun other isRun => ?_⟩
  rw [run?_modifyRun station session other sameSession, Option.isSome_map]
  exact isRun

theorem map_map_client
    {α : Type}
    {change : Client → Client}
    {part : Client → α}
    (same : ∀ client, part (change client) = part client)
    (run : Run) :
    (run.client.map change).map part = run.client.map part := by
  rw [Option.map_map]
  exact congrArg (run.client.map ·) (funext same)

theorem unspoken_modifyClient
    (session : Nat)
    {change : Client → Client}
    (initialized : ∀ client, (change client).isInitialized = client.isInitialized) :
    station.Unspoken (station.modifyClient session change) :=
  station.unspoken_modifyRun session (fun _ => rfl) (map_map_client initialized)

theorem calm_modifyRun
    (session : Nat)
    {change : Run → Run}
    (sameSession : ∀ run, (change run).session = run.session)
    (sameClient : ∀ run, (change run).client = run.client) :
    station.Calm (station.modifyRun session change) := by
  refine ⟨station.unspoken_modifyRun session sameSession fun run => by rw [sameClient],
    fun other => ?_⟩
  unfold lastRequest
  rw [station.map_client?_modifyRun session other sameSession fun run => by rw [sameClient]]

theorem calm_modifyClient
    (session : Nat)
    {change : Client → Client}
    (initialized : ∀ client, (change client).isInitialized = client.isInitialized)
    (numbers : ∀ client, (change client).lastRequest = client.lastRequest) :
    station.Calm (station.modifyClient session change) := by
  refine ⟨station.unspoken_modifyClient session initialized, fun other => ?_⟩
  unfold lastRequest modifyClient
  rw [map_client?_modifyRun]
  · exact fun _ => rfl
  · exact map_map_client numbers

theorem calm_setFlag
    (signpost : Signpost)
    (flag : Flag) :
    station.Calm (station.setFlag signpost flag) := by
  cases signpost with
  | settled session =>
      exact station.calm_modifyRun session (fun _ => rfl) fun _ => rfl
  | quiescent session =>
      exact station.calm_modifyClient session (fun _ => rfl) fun _ => rfl

theorem calm_raise (signpost : Signpost) : station.Calm (station.raise signpost) := by
  have settled : (station.setFlag signpost ⟨true, []⟩).Agrees (station.raise signpost) :=
    ⟨rfl, rfl, rfl, Loop.frameStacks_settleAll _ _ _⟩
  exact (station.calm_setFlag signpost ⟨true, []⟩).trans settled.calm

theorem isLight_of_calm
    {holds : Station → Prop}
    (kept : ∀ {before after : Station}, before.Calm after → holds before → holds after) :
    IsLight holds where
  papers same := kept (calm_desk _ same.wanes)
  record silent := kept (calm_record _ silent)
  promise := kept (calm_modifyLoop _ rfl)
  timers := kept (calm_modifyLoop _ rfl)
  react number message := kept (agrees_react _ number message).calm
  raise _ := kept (calm_raise _ _)
  lower _ := kept (calm_setFlag _ _ _)

theorem isLight_calm : IsLight station.Calm :=
  isLight_of_calm fun late early => early.trans late

end Station

end AnalyzerSessions
