import AnalyzerSessions.Proofs.AnsweredRequests
import AnalyzerSessions.Proofs.ReadySessions
import AnalyzerSessions.Proofs.StatusReports

namespace AnalyzerSessions

/-!
# Flags that mirror statuses

The flag of a quiet server is set when the status of its session says that the server has
nothing left to do, and only then.  A task that goes on changes neither unless it handles a
message that the status handler is there for, starts the server, or closes the client.
-/

namespace Station

variable {scope : Scope} {known : Nat} {base before after station : Station} {session : Nat}

/-! ## Statuses and flags after edits -/

/-- Whether the status of a session says that its server has nothing left to do. -/
def saysQuiet (station : Station) (session : Nat) : Bool :=
  Move.isSettledStatus ((station.session? session).bind Session.status)

/-- The flag of a quiet server is set exactly when the status of the session says so. -/
def Mirrors (station : Station) (session : Nat) : Prop :=
  (station.flag (.quiescent session)).isSet = station.saysQuiet session

theorem saysQuiet_congr
    (registry : after.desk.registry = before.desk.registry)
    (session : Nat) :
    after.saysQuiet session = before.saysQuiet session := by
  unfold saysQuiet session?
  rw [registry]

theorem Mirrors.of_same
    (mirrors : before.Mirrors session)
    (registry : after.desk.registry = before.desk.registry)
    (runs : after.runs = before.runs) :
    after.Mirrors session := by
  unfold Mirrors
  rw [flag_congr runs, saysQuiet_congr registry]
  exact mirrors

end Station

/-- What is noted of one session leaves the others alone. -/
theorem Act.get?_noteStatus_of_ne
    {owner : Session}
    {session : Nat}
    (apart : session ≠ owner.id)
    (params : Json)
    (desk : Desk) :
    (after (noteStatus owner params) desk).registry.get? session = desk.registry.get? session := by
  rcases registry_noteStatus owner params desk with same | ⟨status, _, registry⟩
  · rw [same]
  · have found : (desk.registry.modify owner.id fun current =>
        { current with status := some status }).get? session =
          (desk.registry.get? session).map fun current =>
            if current.id = owner.id then { current with status := some status } else current := by
      apply Registry.get?_modify_any
      exact fun _ => rfl
    rw [registry, found]
    cases isKnown : desk.registry.get? session with
    | none => rfl
    | some current =>
        have isSession : current.id = session := (entry_of_get? isKnown).2
        rw [Option.map_some, if_neg fun same => apart (isSession.symm.trans same)]

namespace Station

variable {scope : Scope} {known : Nat} {base before after station : Station} {session : Nat}

/-- An edit that does not concern the status of a session keeps it. -/
theorem EditWithin.saysQuiet
    (edit : before.EditWithin scope known after)
    (deaf : ¬scope.hears session) :
    after.saysQuiet session = before.saysQuiet session := by
  have sameDesk : after.desk = before.desk → after.saysQuiet session = before.saysQuiet session :=
    fun same => saysQuiet_congr (congrArg Desk.registry same) session
  cases edit with
  | desk deed =>
      have statuses : before.desk.KeepsAspect .statuses _ := deed.keepsAspect
        Aspect.isFree_statuses fun same => (congrArg Session.status same : _)
      exact congrArg Move.isSettledStatus (statuses.sessions session)
  | @welcome other present =>
      have statuses := Desk.keepsAspect_welcomed Aspect.isFree_statuses other before.desk
      exact congrArg Move.isSettledStatus (statuses.sessions session)
  | @heard other owner message method hears arrived owns named handled =>
      have isOwner : owner.id = other := (Act.entry_of_get? owns).2
      have apart : session ≠ owner.id := by
        rintro rfl
        exact deaf (isOwner ▸ hears)
      have same := Act.get?_noteStatus_of_ne apart (message.getD "params") before.desk
      exact congrArg (fun found => Move.isSettledStatus (found.bind Session.status)) same
  | output number change => exact sameDesk (agrees_changeOutput _ _ _).desk
  | errors number change => exact sameDesk (agrees_changeErrors _ _ _).desk
  | exit number code => exact sameDesk (agrees_exitProcess _ _ _).desk
  | await signpost isNew => cases signpost <;> exact sameDesk rfl
  | _ => exact sameDesk rfl

/-- How the flag of a quiet server may stand after an edit: as it stood, as the status says, or lowered
where the client is a new one. -/
inductive FlagStands (scope : Scope) (before after : Station) (session : Nat) : Prop where
  | kept
      (same : (after.flag (.quiescent session)).isSet = (before.flag (.quiescent session)).isSet)
  | follows
      (follows : (after.flag (.quiescent session)).isSet = before.saysQuiet session)
  | begins
      (starts : scope.starts session)
      (lowered : (after.flag (.quiescent session)).isSet = false)

theorem flagStands_of_eq
    (same : after.flag (.quiescent session) = before.flag (.quiescent session)) :
    FlagStands scope before after session :=
  .kept (congrArg Flag.isSet same)

theorem FlagStands.of_runs
    {last : Station}
    (stands : FlagStands scope before after session)
    (runs : last.runs = after.runs) :
    FlagStands scope before last session := by
  have sameFlag := congrArg Flag.isSet (flag_congr runs (.quiescent session))
  cases stands with
  | kept same => exact .kept (sameFlag.trans same)
  | follows follows => exact .follows (sameFlag.trans follows)
  | begins starts lowered => exact .begins starts (sameFlag.trans lowered)

/-- A flag that is changed stands as it stood, or as it was changed. -/
theorem flagStands_setFlag
    {signpost : Signpost}
    {flag : Flag}
    (changed : signpost = .quiescent session →
      flag.isSet = (station.flag signpost).isSet ∨ flag.isSet = station.saysQuiet session) :
    FlagStands scope station (station.setFlag signpost flag) session := by
  by_cases isSignpost : .quiescent session = signpost
  · subst isSignpost
    rcases flag_setFlag_self station (.quiescent session) flag with isChanged | kept
    · rcases changed rfl with same | follows
      · exact .kept ((congrArg Flag.isSet isChanged).trans same)
      · exact .follows ((congrArg Flag.isSet isChanged).trans follows)
    · exact flagStands_of_eq kept
  · exact flagStands_of_eq (flag_setFlag_of_ne isSignpost flag)

theorem flagStands_seat
    {other number : Nat}
    {process : ServerProcess}
    {client : Client}
    (starts : scope.starts other)
    (lowered : client.quiescent = .lowered) :
    FlagStands scope station (station.seat other number process client) session := by
  by_cases isOther : session = other
  · subst isOther
    refine .begins starts ?_
    rw [flag_quiescent, client?_seat]
    cases station.run? session with
    | none => rfl
    | some run => simp [lowered, Flag.lowered]
  · refine flagStands_of_eq ?_
    rw [flag_quiescent, flag_quiescent, client?_seat, client?]
    simp only [if_neg isOther]

theorem EditWithin.flagStands
    (edit : before.EditWithin scope known after)
    (session : Nat) :
    FlagStands scope before after session := by
  have sameRuns : after.runs = before.runs → FlagStands scope before after session :=
    fun runs => flagStands_of_eq (flag_congr runs _)
  cases edit with
  | output number change => exact sameRuns (agrees_changeOutput _ _ _).runs
  | errors number change => exact sameRuns (agrees_changeErrors _ _ _).runs
  | exit number code => exact sameRuns (agrees_exitProcess _ _ _).runs
  | seat number starts ignores silent lowered => exact flagStands_seat starts lowered
  | enlist other task =>
      refine flagStands_of_eq ?_
      rw [flag_quiescent, client?_enterRun _ rfl]
      rfl
  | run other sameSession sameFlag sameClient =>
      exact flagStands_of_eq (flag_modifyRun before other sameSession sameFlag sameClient _)
  | client other pending sameFlag =>
      exact flagStands_of_eq (flag_modifyClient before other sameFlag _)
  | @issue other promise number told =>
      have sameFlag : ∀ client : Client, (client.enter promise).quiescent = client.quiescent :=
        fun _ => rfl
      have entered := flag_modifyClient before other sameFlag (.quiescent session)
      exact flagStands_of_eq ((flag_congr rfl _).trans entered)
  | settled other =>
      have apart : Signpost.quiescent session ≠ .settled other := nofun
      exact flagStands_of_eq (flag_setFlag_of_ne apart _)
  | calm quiet =>
      have stands : FlagStands scope before (before.setFlag _ ⟨true, []⟩) session :=
        flagStands_setFlag fun same => .inr (Signpost.quiescent.inj same ▸ quiet.symm)
      exact stands.of_runs rfl
  | stir restless =>
      exact flagStands_setFlag fun same => .inr (Signpost.quiescent.inj same ▸ restless.symm)
  | await signpost isNew => exact flagStands_setFlag fun _ => .inl rfl
  | _ => exact sameRuns rfl

/-- An edit that does not concern the status of a session keeps its flag a mirror of the status. -/
theorem EditWithin.mirrors
    (edit : before.EditWithin scope known after)
    (deaf : ¬scope.hears session)
    (restless : scope.starts session → before.saysQuiet session = false)
    (mirrors : before.Mirrors session) :
    after.Mirrors session := by
  unfold Mirrors
  rw [edit.saysQuiet deaf]
  cases edit.flagStands session with
  | kept same => exact same.trans mirrors
  | follows follows => exact follows
  | begins starts lowered => exact lowered.trans (restless starts).symm

theorem ReworkedWithin.mirrors
    (reworked : base.ReworkedWithin scope known station)
    (deaf : ¬scope.hears session)
    (restless : scope.starts session → base.saysQuiet session = false)
    (mirrors : base.Mirrors session) :
    station.Mirrors session := by
  have edits := reworked.edits
  clear reworked
  have both : station.saysQuiet session = base.saysQuiet session ∧ station.Mirrors session := by
    induction edits with
    | refl => exact ⟨rfl, mirrors⟩
    | tail _ edit inductionHypothesis =>
        obtain ⟨same, stillMirrors⟩ := inductionHypothesis
        exact ⟨(edit.saysQuiet deaf).trans same,
          edit.mirrors deaf (fun starts => same.trans (restless starts)) stillMirrors⟩
  exact both.2

/-- Where a client is closed, the flags of the others stay as they are. -/
theorem Mirrors.hangUp
    {other : Nat}
    (mirrors : station.Mirrors session)
    (apart : session ≠ other) :
    (station.hangUp other).Mirrors session := by
  have sameFlag : (station.hangUp other).flag (.quiescent session) =
      station.flag (.quiescent session) :=
    flag_setFlag_of_ne (fun same => apart (Signpost.quiescent.inj same)) _
  have sameStatus : (station.hangUp other).saysQuiet session = station.saysQuiet session := rfl
  unfold Mirrors
  rw [sameFlag, sameStatus]
  exact mirrors

/-- However a task goes on that does not concern the status of a session, the flag mirrors the status
afterwards, or the client is closed. -/
theorem EvolvesWithin.mirrors
    (evolves : base.EvolvesWithin scope after)
    (deaf : ¬scope.hears session)
    (restless : scope.starts session → base.saysQuiet session = false)
    (mirrors : base.Mirrors session) :
    after.Mirrors session ∨ .hungUp session none ∈ after.chronicle := by
  cases evolves with
  | edited reworked =>
      exact .inl (reworked.mirrors deaf restless mirrors)
  | closed reworked other =>
      by_cases isOther : session = other
      · subst isOther
        exact .inr (List.mem_append_right _ (List.mem_singleton_self _))
      · exact .inl ((reworked.mirrors deaf restless mirrors).hangUp isOther)

end Station

/-!
## Moves of listening clients

Whatever frame goes on, it is made of edits, and a client may be closed last; only a frame
that handles a message which the status handler is there for changes the status of a
session.  Such a frame is followed at once by the one in which the flag follows the status,
unless the message asks for an answer.
-/

/-- The method of the messages in which servers tell their statuses. -/
def statusMethod : Json :=
  .str "experimental/serverStatus"

/-- A frame in which one of some jobs is begun at most. -/
def Frame.BeginsAmong (gives : Job → Prop) : Frame → Prop
  | begin job => gives job
  | _ => True

theorem Frame.beginsAmong_of_isGiven
    {gives : Job → Prop}
    {frame : Frame}
    (given : frame.IsGiven gives) :
    frame.BeginsAmong gives := by
  cases frame <;> first | exact given | trivial

theorem Frame.BeginsAmong.mono
    {gives others : Job → Prop}
    {frame : Frame}
    (begins : frame.BeginsAmong gives)
    (allowed : ∀ {job}, gives job → others job) :
    frame.BeginsAmong others := by
  cases frame <;> first | exact allowed begins | trivial

namespace Station

variable {scope : Scope} {base before after station : Station} {session : Nat}

/-- A job that a task may be given from outside: messages are handled by clients, and handlers are called
by those only who handle messages. -/
def Permits (station : Station) : Job → Prop
  | .handler _ _ _ => False
  | .handleMessage session _ => station.HasClient session
  | _ => True

theorem permits_of_isInner
    {job : Job}
    (inner : job.IsInner) :
    station.Permits job := by
  cases job <;> first | exact inner.elim | trivial

theorem Lasts.permits
    {job : Job}
    (lasts : before.Lasts after)
    (permits : before.Permits job) :
    after.Permits job := by
  cases job <;> first | exact lasts.hasClient permits | exact permits

/-- What a frame that goes on comes to: the station is edited, a client may be closed last, and what is
next begins some jobs at most. -/
structure EvolvesInto (scope : Scope) (base : Station) (result : Next × Station) : Prop where
  evolves : base.EvolvesWithin scope result.2
  begins : ∀ frame ∈ result.1.frames, frame.BeginsAmong scope.gives

theorem evolvesInto_of_retains
    {move : Move Next}
    (retains : Move.Retains (base.ReworkedWithin scope base.loop.promises.length) base move
      fun next _ => ∀ frame ∈ next.frames, frame.BeginsAmong scope.gives) :
    base.EvolvesInto scope (move.make base) := by
  unfold Move.Retains at retains
  rw [Move.make_eq]
  generalize Move.perform move base = result at retains ⊢
  rcases result with ⟨failure | next, after⟩
  · exact ⟨.edited retains.1, List.forall_mem_nil _⟩
  · exact ⟨.edited retains.1, retains.2 next rfl⟩

theorem evolvesInto_of_manages
    {move : Move Next}
    (manages : Move.Manages scope base.loop.promises.length base base move) :
    base.EvolvesInto scope (move.make base) :=
  evolvesInto_of_retains (manages.imp fun _ _ isGiven frame member =>
    Frame.beginsAmong_of_isGiven (isGiven frame member))

theorem evolvesInto_of_shuts
    {result : Next × Station}
    (shuts : Move.ShutsWithin scope base.loop.promises.length session base result) :
    base.EvolvesInto scope result := by
  cases shuts with
  | waits reworked =>
      refine ⟨.edited reworked, fun frame member => ?_⟩
      cases List.mem_singleton.mp member
      trivial
  | dismisses reworked =>
      exact ⟨.closed reworked session, List.forall_mem_nil _⟩

theorem evolvesInto_of_ends
    {result : Next × Station}
    (ends : Move.EndsWithin scope base.loop.promises.length base result) :
    base.EvolvesInto scope result := by
  cases ends with
  | ordinary reworked isGiven =>
      exact ⟨.edited reworked, fun frame member =>
        Frame.beginsAmong_of_isGiven (isGiven frame member)⟩
  | closes shuts =>
      have evolves := evolvesInto_of_shuts shuts
      refine ⟨evolves.evolves, fun frame member => ?_⟩
      rcases List.mem_append.mp member with inner | isLast
      · exact evolves.begins frame inner
      · cases List.mem_singleton.mp isLast
        trivial

end Station

/-! ## Frames -/

namespace Move

variable {scope : Scope} {known session : Nat} {base station : Station}

theorem retains_afterSettling
    (held : base.ReworkedWithin scope known station)
    (session : Nat)
    (deadline : Number.Binary64)
    (outcome : Outcome) :
    Retains (base.ReworkedWithin scope known) station (afterSettling session deadline outcome)
      fun next _ => ∀ frame ∈ next.frames, frame.BeginsAmong scope.gives := by
  unfold afterSettling
  split
  · exact retains_pure held (List.forall_mem_nil _)
  · exact retains_pure held (List.forall_mem_nil _)
  · refine retains_get ?_
    dsimp only
    split
    · refine Retains.into (manages_awaitQuiescentFor held session _)
        (fun _ _ _ => Next.isGiven_of_noFrames _) fun next _ isGiven frame member => ?_
      rcases List.mem_append.mp member with inner | isLast
      · exact Frame.beginsAmong_of_isGiven (isGiven frame inner)
      · cases List.mem_singleton.mp isLast
        trivial
    · exact retains_pure held (List.forall_mem_nil _)

end Move

namespace Station

variable {scope : Scope} {base station : Station} {session : Nat} {outcome : Outcome}

theorem evolvesInto_closeClient
    (held : base.ReworkedWithin scope base.loop.promises.length base)
    (session : Nat) :
    base.EvolvesInto scope ((Move.closeClient session).make base) := by
  cases found : base.client? session with
  | none =>
      refine evolvesInto_of_retains ((Move.retains_client held session).bind
        fun client _ _ told => ?_)
      cases found.symm.trans told.2
  | some client =>
      exact evolvesInto_of_shuts (Move.shuts_closeClient held ⟨client, found⟩)

/-- Whatever frame goes on, the station is edited, and a client may be closed last. -/
theorem Takes.evolvesInto
    {frame : Frame}
    {wanted given : Topic}
    (taken : base.Takes frame wanted given)
    (told : base.Holds wanted outcome)
    (held : base.ReworkedWithin scope base.loop.promises.length base)
    (begins : frame.BeginsAmong base.Permits)
    (hears : ∀ value, outcome = .ok value → ∀ session, base.Hears session frame →
      scope.hears session)
    (starts : ∀ session, frame.Starts session → scope.starts session) :
    base.EvolvesInto scope ((Move.resume frame outcome).make base) := by
  have ordinary : frame.IsManaged → (∀ session deadline, frame ≠ .readySettled session deadline) →
      base.EvolvesInto scope ((Move.resume frame outcome).make base) :=
    fun managed other =>
      evolvesInto_of_ends (Move.ends_resume held managed other taken hears starts)
  cases frame with
  | begin job =>
      cases job with
      | closeClient session =>
          cases outcome with
          | ok value => exact evolvesInto_closeClient held session
          | error failure => exact evolvesInto_of_manages (Move.manages_give held _)
      | handler session method params => exact begins.elim
      | _ => exact ordinary trivial nofun
  | closing session others =>
      exact evolvesInto_of_shuts (Move.shuts_resume held taken told)
  | readySettled session deadline =>
      exact evolvesInto_of_retains (Move.retains_afterSettling held session deadline outcome)
  | readyQuiescent session =>
      exact evolvesInto_of_manages (Move.manages_afterReadiness held session outcome)
  | _ => exact ordinary trivial nofun

end Station

/-! ## Statuses -/

/-- The status handler ends well, whatever it is told. -/
theorem Act.perform_noteStatus
    (owner : Session)
    (report : Json)
    (desk : Desk) :
    (perform (noteStatus owner report) desk).1 = .ok () := by
  cases isStatus : ServerStatus.of? report with
  | none =>
      obtain ⟨reason, noted⟩ := perform_noteStatus_of_malformed isStatus owner desk
      rw [noted]
  | some status =>
      rw [perform_noteStatus_of_isStatus isStatus]

/-- A server has asked for an answer to a message in which it tells its status. -/
def IsAsked (chronicle : List Occurrence) (session : Nat) : Prop :=
  ∃ message, .arrived session message ∈ chronicle ∧
    message.get? "method" = some statusMethod ∧ message.get? "id" ≠ none

theorem IsAsked.mono
    {before after : List Occurrence}
    {session : Nat}
    (asked : IsAsked before session)
    (grows : before ⊆ after) :
    IsAsked after session := by
  obtain ⟨message, arrived, asks⟩ := asked
  exact ⟨message, grows arrived, asks⟩

namespace Move

variable {base station : Station} {session : Nat} {owner : Session} {message : Json}

theorem perform_dispatch_of_status
    (owns : station.session? session = some owner)
    (handled : owner.handler? statusMethod = some .status)
    (params : Json) :
    ∃ after, perform (dispatch session statusMethod params) station =
      (.ok (some Next.done), after) := by
  have found : findHandler? owner statusMethod = .ok (some .status) := by
    show Except.ok ((owner.handler? statusMethod).filter _) = _
    rw [handled]
    rfl
  have noted := perform_atDesk (Act.keeps_noteStatus owner params).spares station
  rw [Act.perform_noteStatus] at noted
  unfold dispatch
  rw [perform_bind, perform_session owns]
  dsimp only
  rw [found]
  dsimp only
  rw [perform_bind, perform_tryCatch]
  unfold callHandler
  rw [perform_bind, noted]
  exact ⟨_, rfl⟩

/-- A line in the log changes nothing at the desk that concerns sessions. -/
theorem make_say_bind
    (level : Level)
    (text : String)
    (next : Unit → Move Next)
    (station : Station) :
    ∃ desk, desk.registry = station.desk.registry ∧
      make (say level text >>= next) station = make (next ()) { station with desk } :=
  ⟨{ station.desk with log := station.desk.log ++ [⟨level, text⟩] }, rfl, rfl⟩

/-- A message that the status handler is there for is followed by the frame in which the flag follows the
status. -/
theorem make_handleMessage_of_status
    (owns : station.session? session = some owner)
    (handled : owner.handler? statusMethod = some .status)
    (named : message.get? "method" = some statusMethod)
    (noId : message.get? "id" = none) :
    (make (handleMessage session message) station).1 =
      Next.done.into (.noted session statusMethod) := by
  cases message with
  | obj fields =>
      have interpreted : interpret session (.obj fields) =
          handleNotification session statusMethod ((Json.lookup? "params" fields).getD .null) := by
        have noId : Json.lookup? "id" fields = none := noId
        have named : Json.lookup? "method" fields = some statusMethod := named
        unfold interpret
        dsimp only
        rw [noId, named]
      have arrives : perform (record (.arrived session (.obj fields))) station =
          (.ok (), { station with
            chronicle := station.chronicle ++ [.arrived session (.obj fields)] }) := rfl
      unfold handleMessage
      rw [interpreted, make_bind arrives]
      unfold handleNotification
      obtain ⟨desk, registry, said⟩ := make_say_bind _ _ _ _
      rw [said]
      have ownsNow : ({ station with
          desk, chronicle := station.chronicle ++ [.arrived session (.obj fields)] } :
            Station).session? session = some owner := by
        show desk.registry.get? session = some owner
        rw [registry]
        exact owns
      obtain ⟨after, dispatched⟩ := perform_dispatch_of_status ownsNow handled
        ((Json.lookup? "params" fields).getD .null)
      rw [make_bind dispatched]
      rfl
  | _ => cases named

/-- A message that is handled is on record afterwards. -/
theorem arrived_handleMessage
    (answers : station.AnswersFit)
    (session : Nat)
    (message : Json) :
    .arrived session message ∈ (make (handleMessage session message) station).2.chronicle := by
  have recorded : perform (record (.arrived session message)) station = (.ok (), { station with
      chronicle := station.chronicle ++ [.arrived session message] }) := rfl
  have arrived : Occurrence.arrived session message ∈
      ({ station with chronicle := station.chronicle ++ [.arrived session message] } :
        Station).chronicle :=
    List.mem_append_right _ (List.mem_singleton_self _)
  have answersNow : ({ station with
      chronicle := station.chronicle ++ [.arrived session message] } : Station).AnswersFit :=
    answers
  unfold handleMessage
  rw [make_bind recorded]
  generalize ({ station with chronicle := station.chronicle ++ [.arrived session message] } :
    Station) = after at arrived answersNow
  have held : after.Reworked after.loop.promises.length after :=
    Station.reworked_refl (Nat.le_refl _) answersNow
  have interpreted := manages_interpret held arrived fun _ => trivial
  exact (Station.evolvesInto_of_manages interpreted).evolves.chronicle arrived

theorem perform_followStatus
    (session : Nat)
    (station : Station) :
    perform (followStatus session) station = (.ok (), if station.saysQuiet session then
      station.raise (.quiescent session) else station.lower (.quiescent session)) := by
  unfold followStatus
  rw [perform_get_bind]
  show perform (if station.saysQuiet session = true then _ else _) station = _
  split
  · rfl
  · rfl

/-- The flag of a client that is there follows the status of its session. -/
theorem mirrors_afterNotification
    (present : station.HasClient session)
    (value : Value) :
    (make (afterNotification session statusMethod (.ok value)) station).2.Mirrors session := by
  obtain ⟨client, found⟩ := present
  have isChanged : ∀ flag : Flag,
      (station.setFlag (.quiescent session) flag).flag (.quiescent session) = flag := by
    intro flag
    refine (station.quiescentFlag_modifyClient session session _).trans ?_
    rw [found]
    simp
  have follows : make (afterNotification session statusMethod (.ok value)) station =
      make (do followStatus session; return Next.done) station := rfl
  rw [follows, make_bind (perform_followStatus session station)]
  cases isQuiet : station.saysQuiet session with
  | true =>
      exact (congrArg Flag.isSet (isChanged _)).trans isQuiet.symm
  | false =>
      exact (congrArg Flag.isSet (isChanged _)).trans isQuiet.symm

end Move

namespace Station

variable {base : Station} {session : Nat}

/-- When a status may be noted, a message is handled that the status handler is there for. -/
theorem Hears.handlesMessage
    {frame : Frame}
    (hears : base.Hears session frame)
    (value : Value) :
    ∃ message read outer, base.Notes session message ∧
      (read.desk = base.desk ∧ read.loop = base.loop ∧ read.runs = base.runs) ∧
      (Move.resume frame (.ok value)).make base =
        (⟨((Move.handleMessage session message).make read).1.frames ++ outer,
          ((Move.handleMessage session message).make read).1.pause⟩,
          ((Move.handleMessage session message).make read).2) := by
  cases hears with
  | @handles message notes =>
      refine ⟨message, base, [], notes, ⟨rfl, rfl, rfl⟩, ?_⟩
      rw [List.append_nil]
      rfl
  | @reads _ phase message reads finds notes =>
      obtain ⟨process, stream, isProcess, whole⟩ := finds
      obtain ⟨client, found, talks⟩ := Option.bind_eq_some_iff.mp isProcess
      obtain ⟨read, readsFrom, same⟩ := Move.make_resume_of_phase value reads found talks whole
      obtain ⟨desk, loop, runs, _⟩ := readsFrom.same
      refine ⟨message, read, [.handled session], notes, ⟨desk, loop, runs⟩, ?_⟩
      rw [same, Move.make_into]
      rfl

/-- What comes of a message that the status handler is there for: the flag follows the status next, or an
answer to the message was asked for. -/
theorem Hears.tells
    {frame : Frame}
    (hears : base.Hears session frame)
    (informed : base.Informed)
    (answers : base.AnswersFit)
    (value : Value) :
    (∃ outer, ((Move.resume frame (.ok value)).make base).1 =
        ⟨.noted session statusMethod :: outer, .give .done⟩) ∨
      IsAsked ((Move.resume frame (.ok value)).make base).2.chronicle session := by
  obtain ⟨message, read, outer, notes, ⟨desk, loop, runs⟩, same⟩ := hears.handlesMessage value
  obtain ⟨method, owner, named, owns, handled⟩ := notes
  have strayless : owner.strayHandler? = none := by
    have none := informed.strayless session
    rwa [owns] at none
  have isStatus : method = statusMethod := Session.eq_of_handler?_status strayless handled
  subst isStatus
  have ownsThere : read.session? session = some owner := by
    unfold session?
    rw [desk]
    exact owns
  rw [same]
  cases isId : message.get? "id" with
  | none =>
      refine .inl ⟨outer, ?_⟩
      rw [Move.make_handleMessage_of_status ownsThere handled named isId]
      rfl
  | some id =>
      have answersThere : read.AnswersFit := by
        intro other client found entry isPending
        rw [client?_congr runs] at found
        rw [loop]
        exact answers other client found entry isPending
      have arrived := Move.arrived_handleMessage answersThere session message
      exact .inr ⟨message, arrived, named, isId ▸ nofun⟩

end Station

end AnalyzerSessions
