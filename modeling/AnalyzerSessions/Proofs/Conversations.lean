import AnalyzerSessions.Proofs.ClientStops
import AnalyzerSessions.Proofs.CourteousStations

namespace AnalyzerSessions

/-!
# Conversations

A managed run is a run of a station where the manager is told to start and to stop
sessions, commands are run, files are saved, servers do what they like, and time
passes.  What is said to a server in such a run is said in order: the introduction,
the acceptance of its answer, then anything else, the request to shut down, and the
farewell.
-/

namespace Station

variable {station after : Station}

/-! ## What happens when sessions are managed -/

/-- Something that happens at a station when sessions are managed: the manager is told to start and to
stop sessions, and what is given to a task talks to servers only by commands. -/
inductive Proceeds (before : Station) : Station → Prop where
  /-- The running task goes on, or the next turn is taken. -/
  | step :
      Proceeds before before.step
  /-- A task is given a job: a command, the saving of a file, waiting for a session, and so on. -/
  | job {job : Job}
      (admitted : before.Admits job)
      (ordinary : ¬job.topic.IsSteady)
      (free : job.IsFree) :
      Proceeds before (before.modifyLoop fun loop => (loop.spawn job.topic [.begin job]).2)
  /-- A session is started, or joined. -/
  | start (overrides : Config.Entries Setting) (buffer : Option Int) :
      Proceeds before (Move.perform (Move.atDesk (Act.start overrides buffer)) before).2
  /-- The sessions of a buffer are stopped. -/
  | stop (buffer : Option Int) :
      Proceeds before (Move.perform (Move.atDesk (Act.stop buffer)) before).2
  /-- Something on the desk changes that does not concern sessions. -/
  | outside {desk : Desk}
      (same : desk.ledger = before.desk.ledger) :
      Proceeds before { before with desk }
  /-- A server does something by itself. -/
  | server (number : Nat) (act : ServerAct) :
      Proceeds before (before.doServerAct number act)
  /-- The clock moves. -/
  | clock (time : Number.Binary64) :
      Proceeds before (before.modifyLoop fun loop => loop.moveClock time)
  /-- A timer of its own is set. -/
  | timer (seconds : Number.Binary64) :
      Proceeds before (before.modifyLoop fun loop =>
        (loop.newPromise .tick).2.settleAfter (loop.newPromise .tick).1 seconds)
  /-- Cancelled timers are removed. -/
  | tidy :
      Proceeds before (before.modifyLoop Loop.tidyTimers)

/-- What happens when sessions are managed can happen. -/
theorem Poised.happensOf
    (poised : station.Poised)
    (proceeds : station.Proceeds after) :
    station.Happens after := by
  have desk := poised.toSound.desk
  cases proceeds with
  | step => exact .step
  | job admitted ordinary _ => exact .job admitted ordinary
  | start overrides buffer =>
      exact .act (Act.isSafeAt_start desk.numbered desk.silent overrides buffer)
  | stop buffer => exact .act (Act.isSafeAt_stop desk.numbered desk.silent buffer)
  | outside same => exact .outside same
  | server number act => exact .server number act
  | clock time => exact .clock time
  | timer seconds => exact .timer seconds
  | tidy => exact .tidy

end Station

namespace Move

variable {α : Type} {station : Station}

theorem retains_clients_atDesk
    (act : Act α)
    (session : Nat) :
    Retains (fun after => after.client? session = station.client? session) station (atDesk act)
      fun _ _ => True := by
  -- A launch enters a run that has no client yet.
  have launched : ∀ mid : Station, ∀ id, mid.client? session = station.client? session →
      Retains (fun after => after.client? session = station.client? session) mid (launch id)
        fun _ _ => True := by
    intro mid id same
    have spawned : Retains (fun after => after.client? session = station.client? session) mid
        (spawn (.runServer id)) fun _ _ => True := ⟨same, fun _ _ => trivial⟩
    refine spawned.bind fun task begun same _ => retains_modify ?_
    exact (begun.client?_enterRun rfl session).trans same
  have carriedOut : ∀ order, ∀ mid : Station, mid.client? session = station.client? session →
      Retains (fun after => after.client? session = station.client? session) mid (carryOut order)
        fun _ _ => True := by
    intro order mid same
    refine retains_get ?_
    split
    · exact retains_modify same
    · exact retains_modify same
    · exact launched mid _ same
    · refine retains_get ?_
      split
      · exact ⟨same, fun _ _ => trivial⟩
      · split
        · exact retains_modify same
        · exact retains_pure same trivial
  have allCarriedOut : ∀ orders, ∀ mid : Station, mid.client? session = station.client? session →
      Retains (fun after => after.client? session = station.client? session) mid
        (carryOutAll orders) fun _ _ => True := by
    intro orders
    induction orders with
    | nil => exact fun mid same => retains_pure same trivial
    | cons order rest inductionHypothesis =>
        exact fun mid same => (carriedOut order mid same).bind fun _ after same _ =>
          inductionHypothesis after same
  refine retains_get ?_
  generalize (ExceptT.run act).run { station.desk with orders := [] } = done
  obtain ⟨result, desk⟩ := done
  have cleared : Retains (fun after => after.client? session = station.client? session) station
      (set { station with desk := { desk with orders := [] } }) fun _ _ => True :=
    ⟨rfl, fun _ _ => trivial⟩
  refine cleared.bind fun _ mid same _ => (allCarriedOut _ mid same).bind fun _ after same _ => ?_
  cases result with
  | ok value => exact retains_pure same trivial
  | error failure => exact retains_throw same

end Move

namespace Station

variable {station after : Station}

/-- Clients stay courteous when the manager does something mannerly. -/
theorem Courteous.act
    {α : Type}
    {act : Act α}
    (courteous : station.Courteous)
    (poised : station.Poised)
    (safe : act.IsSafeAt station.desk)
    (mannerly : act.IsMannerlyAt (IsIntroduced station.chronicle)
      { station.desk with orders := [] }) :
    (Move.perform (Move.atDesk act) station).2.Courteous := by
  refine courteous.beside poised (poised.toSound.act safe)
    (Move.retains_atDesk_of_mannerly courteous.toMannered mannerly).1 ?_
  rintro session ⟨client, found, initialized⟩
  exact ⟨client, (Move.retains_clients_atDesk act session).1.symm.trans found, initialized⟩

/-- Whatever happens when sessions are managed leaves clients courteous. -/
theorem Courteous.proceeds
    (courteous : station.Courteous)
    (poised : station.Poised)
    (proceeds : station.Proceeds after) :
    after.Courteous := by
  have sound := poised.toSound
  have cleared := station.numbered_cleared sound.desk.numbered
  cases proceeds with
  | step =>
      exact courteous.step poised
  | job admitted ordinary free =>
      exact courteous.calm poised (sound.spawn admitted ordinary) (station.calm_spawn free)
  | start overrides buffer =>
      exact courteous.act poised
        (Act.isSafeAt_start sound.desk.numbered sound.desk.silent overrides buffer)
        (Act.isMannerlyAt_start cleared overrides buffer)
  | stop buffer =>
      exact courteous.act poised
        (Act.isSafeAt_stop sound.desk.numbered sound.desk.silent buffer)
        (Act.isMannerlyAt_stop cleared buffer)
  | @outside desk same =>
      have silent : desk.orders = [] := (congrArg Ledger.orders same).trans sound.desk.silent
      have wanes : station.desk.ledger.Wanes desk.ledger :=
        same ▸ (Ledger.SameSessions.refl station.desk.ledger).wanes sound.desk.numbered
      exact courteous.calm poised (sound.withPapers same silent station.launches)
        (station.calm_desk fun _ => wanes)
  | server number act =>
      exact courteous.calm poised (sound.doServerAct number act)
        (station.agrees_doServerAct number act).calm
  | clock time =>
      exact courteous.calm poised (sound.moveClock time) (station.calm_modifyLoop rfl)
  | timer seconds =>
      exact courteous.calm poised (sound.ownTimer seconds) (station.calm_modifyLoop rfl)
  | tidy =>
      exact courteous.calm poised sound.tidyTimers (station.calm_modifyLoop rfl)

/-- At a new station without sessions clients are courteous. -/
theorem IsNew.courteous
    (isNew : station.IsNew)
    (noSessions : station.desk.ledger.entries = []) :
    station.Courteous := by
  have noRun : ∀ run, run ∉ station.runs := by
    intro run member
    have known := (isNew.runs run member).known
    rw [Ledger.ids, noSessions] at known
    cases known
  have noClient : ∀ session, station.client? session = none := by
    intro session
    unfold client? run?
    rw [List.eq_nil_iff_forall_not_mem.mpr noRun]
    rfl
  have noRights : station.rights = [] := by
    simp [Station.rights, isNew.loop, isNew.chronicle, Loop.gathered, Loop.frameStacks, Loop.stances,
      Loop.empty]
  have noStack : ∀ stack, stack ∉ station.loop.frameStacks := by
    simp [isNew.loop, Loop.frameStacks, Loop.stances, Loop.empty]
  refine ⟨⟨⟨?_, ?_, ?_⟩, fun stack member => (noStack stack member).elim, ?_, fun session _ => ?_,
    fun session client found => ?_, isNew.numbered, fun entry member => ?_⟩,
    fun task failure session rest running => ?_⟩
  · simp [noRights]
  · simp [noRights]
  · simp [noSessions]
  · intro before session message isPart
    rw [isNew.chronicle] at isPart
    simp at isPart
  · rintro ⟨message, sent, _⟩
    rw [isNew.chronicle] at sent
    cases sent
  · cases (noClient session).symm.trans found
  · rw [noSessions] at member
    cases member
  · rw [isNew.loop] at running
    cases running

end Station

/-- A station that has come from another one by what happened when sessions were managed. -/
inductive ManagedRun (initial : Station) : Station → Prop where
  | begin :
      ManagedRun initial initial
  | next {station after : Station}
      (earlier : ManagedRun initial station)
      (proceeded : station.Proceeds after) :
      ManagedRun initial after

namespace ManagedRun

variable {initial station : Station}

/-- Every station of a managed run of a new station without sessions is poised, and its clients are
courteous. -/
theorem courteous
    (isNew : initial.IsNew)
    (noSessions : initial.desk.ledger.entries = [])
    (run : ManagedRun initial station) :
    station.Poised ∧ station.Courteous := by
  induction run with
  | begin =>
      exact ⟨isNew.poised, isNew.courteous noSessions⟩
  | next _ proceeded inductionHypothesis =>
      obtain ⟨poised, courteous⟩ := inductionHypothesis
      exact ⟨(poised.happens (poised.happensOf proceeded)).1, courteous.proceeds poised proceeded⟩

end ManagedRun

/-! ## The order of a conversation -/

/-- A message says something with a method. -/
def IsAbout (message : Json) (method : String) : Prop :=
  message.get? "method" = some (.str method)

/-- A request or a notification comes at its place among what was said to the server of a session. -/
structure IsInPlace (before : List Occurrence) (session : Nat) (message : Json) : Prop where
  /-- The first thing that is said is the introduction, with the first number. -/
  first : ¬HasSpoken before session →
    ∃ params, message = Move.requestMessage 1 "initialize" params
  introduction : IsAbout message "initialize" → ¬HasSpoken before session
  /-- The answer to the introduction is accepted once, when it was received and is valid. -/
  acceptance : IsAbout message "initialized" → ¬Says before session "initialized" ∧
    ∃ answer result, WasReplied before session "initialize" (.json answer) ∧
      Schema.check "InitializeResult" InitializeResult.read (Act.presentParams answer) = .ok result
  /-- All else is said after that. -/
  others : ¬IsAbout message "initialize" → ¬IsAbout message "initialized" →
    Says before session "initialized"
  /-- The server is asked once to shut down, and nothing is asked of it after that. -/
  shutdown : IsAbout message "shutdown" ∨ message.get? "id" ≠ none →
    ¬Says before session "shutdown"
  /-- The server is told once to exit, when it has agreed to shut down. -/
  farewell : IsAbout message "exit" → ¬Says before session "exit" ∧
    ∃ value, WasReplied before session "shutdown" value

/-- The method of what is sent to the server of a session. -/
def Occurrence.methodTo? (session : Nat) : Occurrence → Option String
  | .sent known message =>
    match message.get? "method" with
    | some (.str method) => if known = session then some method else none
    | _ => none
  | _ => none

section

variable {before : List Occurrence} {session : Nat} {message : Json}

theorem isAbout_requestMessage
    (number : Nat)
    (params : Json)
    (method other : String) :
    IsAbout (Move.requestMessage number method params) other ↔ method = other := by
  have isMethod : (Move.requestMessage number method params).get? "method" =
      some (.str method) := rfl
  simp [IsAbout, isMethod]

theorem isAbout_notificationMessage
    (params : Json)
    (method other : String) :
    IsAbout (Move.notificationMessage method params) other ↔ method = other := by
  have isMethod : (Move.notificationMessage method params).get? "method" =
      some (.str method) := rfl
  simp [IsAbout, isMethod]

theorem get?_id_notificationMessage
    (method : String)
    (params : Json) :
    (Move.notificationMessage method params).get? "id" = none := by
  unfold Move.notificationMessage Move.paramsFields
  split <;> rfl

theorem WasReplied.wasSaid
    {method : String}
    {value : Value}
    (replied : WasReplied before session method value) :
    Says before session method := by
  obtain ⟨number, params, sent, _⟩ := replied
  exact ⟨_, sent, rfl⟩

/-- A server was asked to shut down by a client that was introduced. -/
theorem IsOrderly.isIntroduced_of_said
    (orderly : IsOrderly before)
    (asked : Says before session "shutdown") :
    IsIntroduced before session := by
  obtain ⟨message, sent, isMethod⟩ := asked
  obtain ⟨early, late, rfl⟩ := List.append_of_mem sent
  have isPart : early ++ [.sent session message] <+: early ++ .sent session message :: late :=
    ⟨late, by simp⟩
  have may := orderly early session message isPart (by simp [isMethod])
  have isShutdown : IsAbout message "shutdown" := isMethod
  have grows : early <+: early ++ .sent session message :: late := List.prefix_append _ _
  cases may with
  | introduction _ =>
      simp [isAbout_requestMessage] at isShutdown
  | acceptance _ _ =>
      simp [isAbout_notificationMessage] at isShutdown
  | request introduced _ _ =>
      exact introduced.mono grows
  | notification introduced _ =>
      exact introduced.mono grows
  | farewell _ =>
      simp [isAbout_notificationMessage] at isShutdown

theorem IsOrderly.earlier
    {chronicle : List Occurrence}
    (orderly : IsOrderly chronicle)
    (isPart : before <+: chronicle) :
    IsOrderly before :=
  fun early other known isEarly => orderly early other known (isEarly.trans isPart)

end

namespace Station

variable {station : Station} {hand : List Right} {session : Nat} {before : List Occurrence}
  {message : Json}

/-- What takes a right is said once. -/
theorem Warrants.not_said_before
    {method : String}
    {right : Right}
    (warrants : station.Warrants hand)
    (isPart : before ++ [.sent session message] <+: station.chronicle)
    (about : IsAbout message method)
    (isRight : methodRights session method = [right]) :
    ¬Says before session method := by
  rintro ⟨earlier, sent, isMethod⟩
  obtain ⟨late, same⟩ := isPart
  have used : right ∈ before.flatMap Occurrence.rights := by
    refine List.mem_flatMap.mpr ⟨_, sent, ?_⟩
    simp [Occurrence.rights, messageRights, isMethod, isRight]
  have uses : messageRights session message = [right] := by
    rw [messageRights, about]
    exact isRight
  have once := (List.nodup_append.mp (List.nodup_append.mp warrants.once).2.1).2.1
  rw [← same, List.append_assoc, List.flatMap_append] at once
  refine (List.nodup_append.mp once).2.2 right used right ?_ rfl
  simp [Occurrence.rights, uses]

/-- What clients with manners say comes at its place. -/
theorem Mannered.isInPlace
    (mannered : station.Mannered hand)
    (isPart : before ++ [.sent session message] <+: station.chronicle)
    (isSpoken : message.get? "method" ≠ none) :
    IsInPlace before session message := by
  have once : ∀ {method right}, IsAbout message method → methodRights session method = [right] →
      ¬Says before session method :=
    fun about isRight => mannered.toWarrants.not_said_before isPart about isRight
  have orderly : IsOrderly before :=
    mannered.orderly.earlier ((List.prefix_append _ _).trans isPart)
  have may := mannered.orderly before session message isPart isSpoken
  have spoken : IsIntroduced before session → HasSpoken before session := Says.hasSpoken
  -- One case for each thing that may be said: the opening, the acceptance of its answer, an
  -- ordinary request or notification, and the farewell.
  cases may with
  | @introduction params silent =>
      simp only [isAbout_requestMessage] at once
      refine ⟨fun _ => ⟨params, rfl⟩, fun _ => silent, ?_, ?_, ?_, ?_⟩
      · simp [isAbout_requestMessage]
      · simp [isAbout_requestMessage]
      · exact fun _ said => silent said.hasSpoken
      · simp [isAbout_requestMessage]
  | @acceptance answer result replied valid =>
      refine ⟨fun silent => (silent replied.wasSaid.hasSpoken).elim, ?_, ?_, ?_, ?_, ?_⟩
      · simp [isAbout_notificationMessage]
      · exact fun about => ⟨once about rfl, answer, result, replied, valid⟩
      · simp [isAbout_notificationMessage]
      · rintro (about | isRequest)
        · exact once about rfl
        · exact (isRequest (get?_id_notificationMessage _ _)).elim
      · simp [isAbout_notificationMessage]
  | @request number method params introduced ordinary goesOn =>
      simp only [List.mem_cons, List.not_mem_nil, or_false, not_or] at ordinary
      obtain ⟨noIntroduction, noAcceptance, noExit⟩ := ordinary
      refine ⟨fun silent => (silent (spoken introduced)).elim, ?_, ?_, fun _ _ => introduced,
        fun _ => goesOn, ?_⟩
      · simp [isAbout_requestMessage, noIntroduction]
      · simp [isAbout_requestMessage, noAcceptance]
      · simp [isAbout_requestMessage, noExit]
  | @notification method params introduced ordinary =>
      simp only [List.mem_cons, List.not_mem_nil, or_false, not_or] at ordinary
      obtain ⟨noIntroduction, noAcceptance, noShutdown, noExit⟩ := ordinary
      refine ⟨fun silent => (silent (spoken introduced)).elim, ?_, ?_, fun _ _ => introduced, ?_, ?_⟩
      · simp [isAbout_notificationMessage, noIntroduction]
      · simp [isAbout_notificationMessage, noAcceptance]
      · rintro (about | isRequest)
        · exact once about rfl
        · exact (isRequest (get?_id_notificationMessage _ _)).elim
      · simp [isAbout_notificationMessage, noExit]
  | @farewell value replied =>
      have introduced := orderly.isIntroduced_of_said replied.wasSaid
      refine ⟨fun silent => (silent (spoken introduced)).elim, ?_, ?_, fun _ _ => introduced, ?_, ?_⟩
      · simp [isAbout_notificationMessage]
      · simp [isAbout_notificationMessage]
      · rintro (about | isRequest)
        · exact once about rfl
        · exact (isRequest (get?_id_notificationMessage _ _)).elim
      · exact fun about => ⟨once about rfl, value, replied⟩

/-- The answer of a server that agrees to shut down. -/
def agreement : Json :=
  .obj [("jsonrpc", .str "2.0"), ("id", .int 2), ("result", .null)]

/-- A server that was accepted, was asked to shut down, and agreed to it. -/
def dismissed : Station :=
  (((accepted.act (Act.stop none)).2).doServerAct 1 (.send (Wire.frame agreement))).settle

end Station

namespace ManagedRun

variable {initial station : Station}

/-- Taking steps until nothing can go on is part of a managed run. -/
theorem settleWithin
    (fuel : Nat)
    (run : ManagedRun initial station) :
    ManagedRun initial (Station.settleWithin fuel station) :=
  Station.holds_settleWithin (fun _ run => run.next .step) fuel run

/-- Letting everything go on that can is part of a managed run. -/
theorem settle (run : ManagedRun initial station) : ManagedRun initial station.settle :=
  (run.settleWithin _).next .tidy

/-- Starting a session, having its server accepted, and dismissing it is a managed run. -/
theorem dismissed : ManagedRun (Station.vacant .bare []) Station.dismissed := by
  have launched : ManagedRun (Station.vacant .bare []) (Station.launched .bare []) :=
    (begin.next (.start Station.terse none)).settle
  have accepted : ManagedRun (Station.vacant .bare []) Station.accepted :=
    (launched.next (.server 1 (.send (Wire.frame Station.acceptedAnswer)))).settle
  have stopped : ManagedRun (Station.vacant .bare []) (Station.accepted.act (Act.stop none)).2 :=
    (accepted.next (.stop none)).settle
  exact (stopped.next (.server 1 (.send (Wire.frame Station.agreement)))).settle

/-- Whenever sessions are managed, every request and every notification to a server comes at its
place: the introduction first, then the acceptance of its answer, then everything else, with nothing
asked after the request to shut down, and the farewell only when that was agreed to. -/
theorem converses_in_order
    (isNew : initial.IsNew)
    (noSessions : initial.desk.ledger.entries = [])
    (reached : ManagedRun initial station) :
    ∀ before session message, before ++ [.sent session message] <+: station.chronicle →
      message.get? "method" ≠ none → IsInPlace before session message :=
  fun _ _ _ isPart isSpoken =>
    (reached.courteous isNew noSessions).2.toMannered.isInPlace isPart isSpoken

/-- A whole conversation is in order. -/
theorem dismissed_server_converses_in_order :
    (Station.vacant .bare []).IsNew ∧ (Station.vacant .bare []).desk.ledger.entries = [] ∧
      ManagedRun (Station.vacant .bare []) Station.dismissed ∧
      Station.dismissed.chronicle.filterMap (Occurrence.methodTo? 1) =
        ["initialize", "initialized", "shutdown", "exit"] ∧
      ∀ before session message,
        before ++ [.sent session message] <+: Station.dismissed.chronicle →
          message.get? "method" ≠ none → IsInPlace before session message :=
  ⟨Station.isNew_vacant .bare [], rfl, dismissed, by decide +kernel,
    converses_in_order (Station.isNew_vacant .bare []) rfl dismissed⟩

end ManagedRun

end AnalyzerSessions
