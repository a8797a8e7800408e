import AnalyzerSessions.Proofs.FittingLoops
import AnalyzerSessions.Proofs.SafeActs
import AnalyzerSessions.Station.Step

namespace AnalyzerSessions

/-!
# Topics of frames

Each frame goes on with an outcome on one topic and gives one on another, so that a
stack of frames leads from what a task waits for to what the task itself is about.
What an outcome has to tell is said of a station, and everything that is said so
lasts: promises keep their topics, servers that have exited stay gone, and what is
on record stays there.
-/

/-- A failure that a server told, or that stands for one. -/
def Failure.IsResponse : Failure → Prop
  | .response _ _ _ => True
  | _ => False

/-- A failure with which the start of a server is given up in good order: the server answered with an
error or broke the protocol, it has exited, or it cannot be written to. -/
inductive Failure.IsFailedStart : Failure → Prop where
  | response (code message data : Json) : IsFailedStart (.response code message data)
  | frame {fault : Wire.FrameFault} (isProtocolError : fault.isProtocolError = true) :
      IsFailedStart (.frame fault)
  | serverExited : IsFailedStart .serverExited
  | brokenPipe : IsFailedStart .brokenPipe

/-- Just these failures of a handshake lead to the stop of the server. -/
theorem Move.isFailedStart_iff {failure : Failure} :
    Move.isFailedStart failure = true ↔ failure.IsFailedStart := by
  constructor
  · intro failed
    cases failure with
    | response code message data =>
        exact .response code message data
    | frame fault =>
        exact .frame failed
    | serverExited =>
        exact .serverExited
    | brokenPipe =>
        exact .brokenPipe
    | _ =>
        cases failed
  · intro failed
    cases failed with
    | frame isProtocolError =>
        exact isProtocolError
    | _ =>
        rfl

/-- A stop expects every failure that a start expects. -/
theorem Failure.IsFailedStart.endsPolitely
    {failure : Failure}
    (failed : failure.IsFailedStart) :
    Move.endsPolitely failure = true := by
  cases failed with
  | frame isProtocolError =>
      exact isProtocolError
  | _ =>
      rfl

/-- A message answers a request: it has no method, its identifier stands for the number of the
request, and the outcome is its result or its error. -/
inductive IsAnswer : Json → Nat → Outcome → Prop where
  | value {fields : List (String × Json)} {id : Json} {number : Nat}
      (noMethod : Json.lookup? "method" fields = none)
      (identified : Json.lookup? "id" fields = some id)
      (sameNumber : requestNumber? id = .ok (some number))
      (noError : Json.lookup? "error" fields = none) :
      IsAnswer (.obj fields) number (.ok (.json ((Json.lookup? "result" fields).getD .null)))
  | error {fields : List (String × Json)} {id error : Json} {number : Nat} {failure : Failure}
      (noMethod : Json.lookup? "method" fields = none)
      (identified : Json.lookup? "id" fields = some id)
      (sameNumber : requestNumber? id = .ok (some number))
      (failed : Json.lookup? "error" fields = some error)
      (read : Move.answeredError error = .ok failure) :
      IsAnswer (.obj fields) number (.error failure)

/-- A message has no method, and its identifier stands for the number of a request. -/
inductive IsAnswerTo : Json → Nat → Prop where
  | answer {fields : List (String × Json)} {id : Json} {number : Nat}
      (noMethod : Json.lookup? "method" fields = none)
      (identified : Json.lookup? "id" fields = some id)
      (sameNumber : requestNumber? id = .ok (some number)) :
      IsAnswerTo (.obj fields) number

/-- An outcome that only a server can bring about. -/
def Outcome.IsServers : Outcome → Prop
  | .ok _ => True
  | .error failure => failure.IsResponse

/-- A message that answers a request arrived after the request was written. -/
def WasAnswered
    (chronicle : List Occurrence)
    (session number : Nat)
    (outcome : Outcome) : Prop :=
  ∃ before message after, chronicle = before ++ .arrived session message :: after ∧
    .written session number ∈ before ∧ IsAnswer message number outcome

/-- A request with a method was written and answered with a value. -/
def WasReplied
    (chronicle : List Occurrence)
    (session : Nat)
    (method : String)
    (value : Value) : Prop :=
  ∃ number params, .sent session (Move.requestMessage number method params) ∈ chronicle ∧
    WasAnswered chronicle session number (.ok value)

/-- The server was told that its answer to the handshake is accepted. -/
def IsIntroduced (chronicle : List Occurrence) (session : Nat) : Prop :=
  ∃ message, .sent session message ∈ chronicle ∧
    message.get? "method" = some (.str "initialized")

theorem WasAnswered.mono
    {before after : List Occurrence}
    {session number : Nat}
    {outcome : Outcome}
    (answered : WasAnswered before session number outcome)
    (grows : before <+: after) :
    WasAnswered after session number outcome := by
  obtain ⟨early, message, late, rfl, written, answers⟩ := answered
  obtain ⟨more, rfl⟩ := grows
  exact ⟨early, message, late ++ more, by simp, written, answers⟩

theorem WasReplied.mono
    {before after : List Occurrence}
    {session : Nat}
    {method : String}
    {value : Value}
    (replied : WasReplied before session method value)
    (grows : before <+: after) :
    WasReplied after session method value := by
  obtain ⟨number, params, sent, answered⟩ := replied
  exact ⟨number, params, grows.subset sent, answered.mono grows⟩

theorem IsIntroduced.mono
    {before after : List Occurrence}
    {session : Nat}
    (introduced : IsIntroduced before session)
    (grows : before <+: after) :
    IsIntroduced after session := by
  obtain ⟨message, sent, isMethod⟩ := introduced
  exact ⟨message, grows.subset sent, isMethod⟩

namespace Topic

/-- What no cancellation ends: the closing of a client, and a run, which closes its client. -/
def IsSteady : Topic → Prop
  | run _ => True
  | closing => True
  | _ => False

/-- What anyone may wait for: what a cancellation ends, but for the draining of a log. -/
def IsShared : Topic → Prop
  | run _ => False
  | closing => False
  | draining => False
  | greeting _ => False
  | _ => True

/-- What a task may be about. -/
def IsErrand : Topic → Prop
  | tick => False
  | closing => False
  | _ => True

/-- What may take too long. -/
def MayLapse : Topic → Prop
  | answer _ _ => True
  | reply _ _ => True
  | exit _ => True
  | work => True
  | _ => False

/-- An outcome on a topic serves whoever wants one on that topic, or on none in particular. -/
def Serves (topic wanted : Topic) : Prop :=
  topic = wanted ∨ wanted = work

theorem Serves.refl (topic : Topic) : topic.Serves topic :=
  .inl rfl

theorem Serves.trans
    {first second third : Topic}
    (early : first.Serves second)
    (late : second.Serves third) :
    first.Serves third := by
  rcases early with rfl | rfl
  · exact late
  · exact .inr (late.elim Eq.symm id)

/-- A cancellation ends what anyone may wait for. -/
theorem IsShared.ordinary
    {topic : Topic}
    (shared : topic.IsShared) :
    ¬topic.IsSteady := by
  cases topic with
  | run session =>
      cases shared
  | closing =>
      cases shared
  | _ =>
      exact id

/-- Anyone may wait for what may take too long. -/
theorem MayLapse.shared
    {topic : Topic}
    (lapses : topic.MayLapse) :
    topic.IsShared := by
  cases topic with
  | run session =>
      cases lapses
  | closing =>
      cases lapses
  | draining =>
      cases lapses
  | greeting session =>
      cases lapses
  | _ =>
      trivial

/-- A cancellation ends what may take too long. -/
theorem MayLapse.ordinary
    {topic : Topic}
    (lapses : topic.MayLapse) :
    ¬topic.IsSteady :=
  lapses.shared.ordinary

end Topic

namespace Station

/-- A session has a client. -/
def HasClient (station : Station) (session : Nat) : Prop :=
  ∃ client, station.client? session = some client

/-- The client of a session talks to a process. -/
def TalksTo (station : Station) (session process : Nat) : Prop :=
  ∃ client, station.client? session = some client ∧ client.process = process

/-- A process has exited with a code. -/
def HasExited (station : Station) (process : Nat) (code : Int) : Prop :=
  ∃ known, station.process? process = some known ∧ known.exitCode = some code

/-- A process was sent a signal. -/
def WasSignalled (station : Station) (process : Nat) : Prop :=
  ∃ known, station.process? process = some known ∧ known.received ≠ []

/-- A process was sent a certain signal. -/
def WasSent (station : Station) (process : Nat) (sent : Signal) : Prop :=
  ∃ known, station.process? process = some known ∧ sent ∈ known.received

/-- A process that was sent a certain signal was sent one. -/
theorem WasSent.wasSignalled
    {station : Station}
    {process : Nat}
    {sent : Signal}
    (wasSent : station.WasSent process sent) :
    station.WasSignalled process := by
  obtain ⟨known, found, received⟩ := wasSent
  exact ⟨known, found, List.ne_nil_of_mem received⟩

/-- A call has come to its end. -/
def IsClosed (station : Station) (session number : Nat) : Prop :=
  ∃ outcome, .settled session number outcome ∈ station.chronicle

/-- The run of a session has come to its end. -/
def IsOver (station : Station) (session : Nat) : Prop :=
  (∃ code outcome, .parted session code outcome ∈ station.chronicle) ∨
    ∃ failure, .forsaken session failure ∈ station.chronicle

/-- What an outcome on a topic has to tell. -/
def Holds (station : Station) : Topic → Outcome → Prop
  | .tick, outcome => outcome.IsQuiet
  | .reading, outcome => outcome.IsQuiet
  | .closing, outcome => ∃ value, outcome = .ok value
  | .stopping, outcome => ∀ failure, outcome = .error failure → Move.endsPolitely failure = false
  | .handling, outcome => ∀ failure, outcome = .error failure → ¬failure.IsResponse
  | .answer session number, outcome => outcome.IsServers →
    WasAnswered station.chronicle session number outcome ∨ station.IsClosed session number
  | .reply session method, outcome => ∀ value, outcome = .ok value →
    WasReplied station.chronicle session method value
  | .greeting session, outcome => ∀ value, outcome = .ok value →
    IsIntroduced station.chronicle session
  | .exit process, .ok value => ∃ code, value = .json (.int code) ∧ station.HasExited process code
  | .exit _, .error failure => failure = .cancelled ∨ failure = .timedOut
  | .run session, _ => station.IsOver session
  | .draining, _ => True
  | .work, _ => True

/-- How a run that ends with an outcome parts from its server. -/
inductive PartsWith (station : Station) (process : Nat) : Json → Outcome → Prop where
  /-- The server has exited, and its code is told. -/
  | exited {code : Int} {outcome : Outcome}
      (hasExited : station.HasExited process code) :
      PartsWith station process (.int code) outcome
  /-- The run was cancelled when the server had just exited, or again while it waited for the exit of
  the server that it had killed; no code is told. -/
  | cancelled
      (gone : (∃ code, station.HasExited process code) ∨ station.WasSent process .kill) :
      PartsWith station process .null .cancelled
  /-- The run failed in a way that it does not expect; no code is told, and the server is left to
  itself. -/
  | left {failure : Failure}
      (unexpected : ¬failure.IsFailedStart)
      (notCancelled : failure ≠ .cancelled) :
      PartsWith station process .null (.error failure)

/-- What a job needs to be begun. -/
def Admits (station : Station) : Job → Prop
  | .awaitExit process => ∃ known, station.process? process = some known
  | .readMessages session => station.HasClient session
  | .drainErrors session => station.HasClient session
  | .startClient session => station.HasClient session
  | _ => True

end Station

/-- A frame of which nothing depends on what it is told. -/
def Frame.IsPlain : Frame → Prop
  | readySettled _ _ => True
  | readyQuiescent _ => True
  | becameQuiescent _ => True
  | ignoringCancellation => True
  | slept _ _ _ => True
  | leafAnswered _ => True
  | firing _ _ _ => True
  | discarding => True
  | checkedReady _ _ => True
  | checkedClosed _ => True
  | _ => False

namespace Station

/-- The topic that a frame takes, and the topic on which it gives an outcome then. -/
inductive Takes (station : Station) : Frame → Topic → Topic → Prop where
  | begin {job : Job} (admitted : station.Admits job) :
      Takes station (.begin job) .tick job.topic
  | deadline {promise time : Nat} {topic : Topic}
      (told : station.loop.topic? promise = some topic)
      (lapses : topic.MayLapse) :
      Takes station (.deadline promise time) .tick topic
  | expired {promise : Nat} {topic : Topic}
      (told : station.loop.topic? promise = some topic)
      (lapses : topic.MayLapse) :
      Takes station (.expired promise) .tick topic
  | abandoned {time : Nat} {topic : Topic} (lapses : topic.MayLapse) :
      Takes station (.abandoned time) .tick topic
  | requested {session number : Nat} {method : String} {limit params : Json}
      (written : .written session number ∈ station.chronicle)
      (sent : .sent session (Move.requestMessage number method params) ∈ station.chronicle) :
      Takes station (.requested session number method limit) (.answer session number)
        (.reply session method)
  | handshaken {session : Nat} :
      Takes station (.handshaken session) (.reply session "initialize") (.greeting session)
  | reading {session : Nat} {phase : Wire.ReadPhase} (present : station.HasClient session) :
      Takes station (.reading session phase) .tick .reading
  | handled {session : Nat} (present : station.HasClient session) :
      Takes station (.handled session) .handling .reading
  | answering {session : Nat} {method id : Json} :
      Takes station (.answering session method id) .work .handling
  | noted {session : Nat} {method : Json} :
      Takes station (.noted session method) .work .handling
  | draining {session : Nat} (present : station.HasClient session) :
      Takes station (.draining session) .tick .draining
  | shutDown {session : Nat} (present : station.HasClient session) :
      Takes station (.shutDown session) (.reply session "shutdown") .stopping
  | grace {session process : Nat} (talks : station.TalksTo session process) :
      Takes station (.grace session) (.exit process) .stopping
  | lastGrace {session process : Nat}
      (talks : station.TalksTo session process)
      (signalled : station.WasSignalled process) :
      Takes station (.lastGrace session) (.exit process) .stopping
  | closing {session : Nat} {rest : List Nat}
      (present : station.HasClient session)
      (quiet : ∀ task ∈ rest, station.loop.topic? task = some .reading ∨
        station.loop.topic? task = some .draining) :
      Takes station (.closing session rest) .reading .closing
  | spawned {session number : Nat} {plan : SpawnPlan} {time : Nat} :
      Takes station (.spawned session number plan time) .tick (.run session)
  | greeted {session : Nat} (present : station.HasClient session) :
      Takes station (.greeted session) (.greeting session) (.run session)
  | gaveUp {session : Nat} (present : station.HasClient session) :
      Takes station (.gaveUp session) .stopping (.run session)
  | exited {session process : Nat} (talks : station.TalksTo session process) :
      Takes station (.exited session) (.exit process) (.run session)
  | killed {session process : Nat}
      (talks : station.TalksTo session process)
      (wasKilled : station.WasSent process .kill) :
      Takes station (.killed session) (.exit process) (.run session)
  | parted {session process : Nat} {code : Json} {outcome : Outcome}
      (talks : station.TalksTo session process)
      (parts : station.PartsWith process code outcome) :
      Takes station (.parted session code outcome) .closing (.run session)
  | plain {frame : Frame} (isPlain : frame.IsPlain) :
      Takes station frame .work .work

/-- A stack of frames, the innermost one first, leads from one topic to another. -/
def Reaches (station : Station) : Topic → List Frame → Topic → Prop
  | start, [], goal => start.Serves goal
  | start, frame :: rest, goal => ∃ wanted given, start.Serves wanted ∧
    station.Takes frame wanted given ∧ Reaches station given rest goal

/-- Whoever waits for a promise gets an outcome on a topic. -/
inductive Yields (station : Station) (promise : Nat) : Topic → Prop where
  | told {topic : Topic}
      (isTold : station.loop.topic? promise = some topic)
      (shared : topic.IsShared) :
      Yields station promise topic
  | any :
      Yields station promise .work
  | doomed (isDoomed : station.loop.Doomed promise) :
      Yields station promise .reading

/-- A task waits as it may: its frames lead from what it waits for to what it is about. -/
def Rests (station : Station) (stance : Stance Frame) : Prop :=
  ∃ goal start, station.loop.topic? stance.task = some goal ∧ goal.IsErrand ∧
    station.Reaches start stance.frames goal ∧
    (stance.waitingOn = none → start = .tick) ∧
    ∀ promise, stance.waitingOn = some promise → station.Yields promise start

/-- A task goes on as it may: its frames lead from what it is told to what it is about. -/
def Goes (station : Station) (task : Nat) (frames : List Frame) (outcome : Outcome) : Prop :=
  ∃ goal start, station.loop.topic? task = some goal ∧ goal.IsErrand ∧
    station.Reaches start frames goal ∧ station.Holds start outcome

/-- What stays as it is at a station. -/
structure Lasts (before after : Station) : Prop where
  loop : before.loop.Lasts after.loop
  chronicle : before.chronicle <+: after.chronicle
  processes : ∀ {number process}, before.process? number = some process →
    ∃ now, after.process? number = some now ∧
      (∀ code, process.exitCode = some code → now.exitCode = some code) ∧
      process.received ⊆ now.received
  runs : ∀ {session run}, before.run? session = some run →
    ∃ now, after.run? session = some now ∧ (run.settled.isSet = true → now.settled.isSet = true) ∧
      ∀ client, run.client = some client →
        ∃ clientNow, now.client = some clientNow ∧ clientNow.process = client.process
  sessions : before.desk.ledger.Lasts after.desk.ledger
  environment : after.environment = before.environment

theorem Lasts.refl (station : Station) : station.Lasts station :=
  ⟨.refl _, List.prefix_rfl,
    fun {_ process} found => ⟨process, found, fun _ same => same, List.Subset.refl _⟩,
    fun {_ run} found => ⟨run, found, id, fun client talks => ⟨client, talks, rfl⟩⟩,
    Ledger.lasts_of_entries_eq rfl, rfl⟩

theorem Lasts.trans
    {first second third : Station}
    (early : first.Lasts second)
    (late : second.Lasts third) :
    first.Lasts third := by
  refine ⟨early.loop.trans late.loop, early.chronicle.trans late.chronicle, ?_, ?_,
    early.sessions.trans late.sessions, late.environment.trans early.environment⟩
  · intro number process found
    obtain ⟨between, foundBetween, exitsBetween, receivedBetween⟩ := early.processes found
    obtain ⟨now, foundNow, exitsNow, receivedNow⟩ := late.processes foundBetween
    exact ⟨now, foundNow, fun code exited => exitsNow code (exitsBetween code exited),
      List.Subset.trans receivedBetween receivedNow⟩
  · intro session run found
    obtain ⟨between, foundBetween, setBetween, talksBetween⟩ := early.runs found
    obtain ⟨now, foundNow, setNow, talksNow⟩ := late.runs foundBetween
    refine ⟨now, foundNow, fun isSet => setNow (setBetween isSet), fun client talks => ?_⟩
    obtain ⟨clientBetween, isBetween, sameBetween⟩ := talksBetween client talks
    obtain ⟨clientNow, isNow, sameNow⟩ := talksNow clientBetween isBetween
    exact ⟨clientNow, isNow, sameNow.trans sameBetween⟩

section

variable {before after : Station} (lasts : before.Lasts after)

include lasts

/-- What is on record stays there. -/
theorem Lasts.mem
    {occurrence : Occurrence}
    (member : occurrence ∈ before.chronicle) :
    occurrence ∈ after.chronicle :=
  lasts.chronicle.subset member

/-- A client talks to the same process as long as it is there. -/
theorem Lasts.talksTo
    {session process : Nat}
    (talks : before.TalksTo session process) :
    after.TalksTo session process := by
  obtain ⟨client, found, rfl⟩ := talks
  obtain ⟨run, isRun, isClient⟩ := Option.bind_eq_some_iff.mp found
  obtain ⟨now, isNow, _, talksNow⟩ := lasts.runs isRun
  obtain ⟨clientNow, isClientNow, same⟩ := talksNow client isClient
  exact ⟨clientNow, Option.bind_eq_some_iff.mpr ⟨now, isNow, isClientNow⟩, same⟩

/-- A client stays. -/
theorem Lasts.hasClient
    {session : Nat}
    (present : before.HasClient session) :
    after.HasClient session := by
  obtain ⟨client, found⟩ := present
  obtain ⟨now, foundNow, _⟩ := lasts.talksTo ⟨client, found, rfl⟩
  exact ⟨now, foundNow⟩

/-- A process that has exited stays gone. -/
theorem Lasts.hasExited
    {process : Nat}
    {code : Int}
    (exited : before.HasExited process code) :
    after.HasExited process code := by
  obtain ⟨known, found, isCode⟩ := exited
  obtain ⟨now, foundNow, exits, _⟩ := lasts.processes found
  exact ⟨now, foundNow, exits code isCode⟩

/-- A process that was sent a certain signal has been sent it. -/
theorem Lasts.wasSent
    {process : Nat}
    {sent : Signal}
    (wasSent : before.WasSent process sent) :
    after.WasSent process sent := by
  obtain ⟨known, found, received⟩ := wasSent
  obtain ⟨now, foundNow, _, receivedNow⟩ := lasts.processes found
  exact ⟨now, foundNow, receivedNow received⟩

/-- A process that was sent a signal has been sent one. -/
theorem Lasts.wasSignalled
    {process : Nat}
    (signalled : before.WasSignalled process) :
    after.WasSignalled process := by
  obtain ⟨known, found, received⟩ := signalled
  obtain ⟨sent, isSent⟩ := List.exists_mem_of_ne_nil _ received
  exact (lasts.wasSent ⟨known, found, isSent⟩).wasSignalled

/-- A call that has come to its end stays there. -/
theorem Lasts.isClosed
    {session number : Nat}
    (closed : before.IsClosed session number) :
    after.IsClosed session number :=
  closed.imp fun _ => lasts.mem

/-- A run that has come to its end stays there. -/
theorem Lasts.isOver
    {session : Nat}
    (isOver : before.IsOver session) :
    after.IsOver session := by
  rcases isOver with ⟨code, outcome, parted⟩ | ⟨failure, forsaken⟩
  · exact .inl ⟨code, outcome, lasts.mem parted⟩
  · exact .inr ⟨failure, lasts.mem forsaken⟩

/-- What an outcome told it still tells. -/
theorem Lasts.holds
    {topic : Topic}
    {outcome : Outcome}
    (told : before.Holds topic outcome) :
    after.Holds topic outcome := by
  cases topic with
  | answer session number =>
      intro isServers
      rcases told isServers with answered | closed
      · exact .inl (answered.mono lasts.chronicle)
      · exact .inr (lasts.isClosed closed)
  | reply session method =>
      exact fun value same => (told value same).mono lasts.chronicle
  | greeting session =>
      exact fun value same => (told value same).mono lasts.chronicle
  | exit process =>
      cases outcome with
      | ok value =>
          obtain ⟨code, same, exited⟩ := told
          exact ⟨code, same, lasts.hasExited exited⟩
      | error failure =>
          exact told
  | run session =>
      exact lasts.isOver told
  | _ =>
      exact told

/-- A run still parts as it did. -/
theorem Lasts.partsWith
    {process : Nat}
    {code : Json}
    {outcome : Outcome}
    (parts : before.PartsWith process code outcome) :
    after.PartsWith process code outcome := by
  cases parts with
  | exited hasExited =>
      exact .exited (lasts.hasExited hasExited)
  | cancelled gone =>
      exact .cancelled (gone.imp (fun ⟨code, isGone⟩ => ⟨code, lasts.hasExited isGone⟩) lasts.wasSent)
  | left unexpected notCancelled =>
      exact .left unexpected notCancelled

/-- What a job needed is still there. -/
theorem Lasts.admits
    {job : Job}
    (admitted : before.Admits job) :
    after.Admits job := by
  cases job with
  | awaitExit process =>
      obtain ⟨known, found⟩ := admitted
      obtain ⟨now, foundNow, _⟩ := lasts.processes found
      exact ⟨now, foundNow⟩
  | readMessages session =>
      exact lasts.hasClient admitted
  | drainErrors session =>
      exact lasts.hasClient admitted
  | startClient session =>
      exact lasts.hasClient admitted
  | _ =>
      trivial

/-- A frame still takes what it took. -/
theorem Lasts.takes
    {frame : Frame}
    {wanted given : Topic}
    (taken : before.Takes frame wanted given) :
    after.Takes frame wanted given := by
  cases taken with
  | begin admitted =>
      exact .begin (lasts.admits admitted)
  | deadline told lapses =>
      exact .deadline (lasts.loop.topics told) lapses
  | expired told lapses =>
      exact .expired (lasts.loop.topics told) lapses
  | abandoned lapses =>
      exact .abandoned lapses
  | requested written sent =>
      exact .requested (lasts.mem written) (lasts.mem sent)
  | handshaken =>
      exact .handshaken
  | reading present =>
      exact .reading (lasts.hasClient present)
  | handled present =>
      exact .handled (lasts.hasClient present)
  | answering =>
      exact .answering
  | noted =>
      exact .noted
  | draining present =>
      exact .draining (lasts.hasClient present)
  | shutDown present =>
      exact .shutDown (lasts.hasClient present)
  | grace talks =>
      exact .grace (lasts.talksTo talks)
  | lastGrace talks signalled =>
      exact .lastGrace (lasts.talksTo talks) (lasts.wasSignalled signalled)
  | closing present quiet =>
      exact .closing (lasts.hasClient present)
        fun task member => (quiet task member).imp lasts.loop.topics lasts.loop.topics
  | spawned =>
      exact .spawned
  | greeted present =>
      exact .greeted (lasts.hasClient present)
  | gaveUp present =>
      exact .gaveUp (lasts.hasClient present)
  | exited talks =>
      exact .exited (lasts.talksTo talks)
  | killed talks wasKilled =>
      exact .killed (lasts.talksTo talks) (lasts.wasSent wasKilled)
  | parted talks parts =>
      exact .parted (lasts.talksTo talks) (lasts.partsWith parts)
  | plain isPlain =>
      exact .plain isPlain

/-- Frames still lead where they led. -/
theorem Lasts.reaches
    {start goal : Topic}
    {frames : List Frame}
    (leads : before.Reaches start frames goal) :
    after.Reaches start frames goal := by
  induction frames generalizing start with
  | nil =>
      exact leads
  | cons frame rest inductionHypothesis =>
      obtain ⟨wanted, given, serves, taken, later⟩ := leads
      exact ⟨wanted, given, serves, lasts.takes taken, inductionHypothesis later⟩

/-- A promise still yields what it did. -/
theorem Lasts.yields
    {promise : Nat}
    {topic : Topic}
    (yields : before.Yields promise topic) :
    after.Yields promise topic := by
  cases yields with
  | told isTold shared =>
      exact .told (lasts.loop.topics isTold) shared
  | any =>
      exact .any
  | doomed isDoomed =>
      exact .doomed (lasts.loop.doomed isDoomed)

/-- A task still waits as it may. -/
theorem Lasts.rests
    {stance : Stance Frame}
    (rests : before.Rests stance) :
    after.Rests stance := by
  obtain ⟨goal, start, told, errand, leads, isTick, yields⟩ := rests
  exact ⟨goal, start, lasts.loop.topics told, errand, lasts.reaches leads, isTick,
    fun promise waits => lasts.yields (yields promise waits)⟩

/-- A task still goes on as it may. -/
theorem Lasts.goes
    {task : Nat}
    {frames : List Frame}
    {outcome : Outcome}
    (goes : before.Goes task frames outcome) :
    after.Goes task frames outcome := by
  obtain ⟨goal, start, told, errand, leads, holds⟩ := goes
  exact ⟨goal, start, lasts.loop.topics told, errand, lasts.reaches leads, lasts.holds holds⟩

end

/-! ## What outcomes tell -/

variable {station : Station}

/-- An outcome that tells something serves whoever wants that, or nothing in particular. -/
theorem holds_of_serves
    {topic wanted : Topic}
    {outcome : Outcome}
    (serves : topic.Serves wanted)
    (told : station.Holds topic outcome) :
    station.Holds wanted outcome := by
  rcases serves with rfl | rfl
  · exact told
  · trivial

/-- A value and a cancellation are quiet ends. -/
theorem isQuiet_ok (value : Value) : Outcome.IsQuiet (.ok value) := by
  intro failure same
  cases same

/-- A cancellation is a quiet end. -/
theorem isQuiet_cancelled : Outcome.IsQuiet .cancelled := by
  intro failure same
  cases same
  rfl

/-- Everything that is not steady may be cancelled. -/
theorem holds_cancelled
    {topic : Topic}
    (ordinary : ¬topic.IsSteady) :
    station.Holds topic .cancelled := by
  cases topic with
  | tick =>
      exact isQuiet_cancelled
  | reading =>
      exact isQuiet_cancelled
  | handling =>
      intro failure same
      cases same
      exact id
  | answer session number =>
      intro isServers
      cases isServers
  | reply session method =>
      exact nofun
  | greeting session =>
      exact nofun
  | exit process =>
      exact .inl rfl
  | run session =>
      exact (ordinary trivial).elim
  | closing =>
      exact (ordinary trivial).elim
  | stopping =>
      intro failure same
      cases same
      rfl
  | draining =>
      trivial
  | work =>
      trivial

/-- What may take too long may be given up. -/
theorem holds_timedOut
    {topic : Topic}
    (lapses : topic.MayLapse) :
    station.Holds topic (.error .timedOut) := by
  cases topic with
  | answer session number =>
      intro isServers
      cases isServers
  | reply session method =>
      exact nofun
  | exit process =>
      exact .inr rfl
  | work =>
      trivial
  | _ =>
      cases lapses

end Station

end AnalyzerSessions
