import AnalyzerSessions.Proofs.MannerlyActs
import AnalyzerSessions.Proofs.ResumedFrames

namespace AnalyzerSessions

/-!
# Moves that speak

A client speaks when it starts, when it stops, and when it is asked to send a request or a
notification.  Each of these moves uses the rights that it has, leaves the rest to the
frames that go on, and says only what may be said.  A right that could not be used, as
the message was not written, is still there.
-/

/-- The rights that the frames of what is next hold. -/
def Next.rights (next : Next) : List Right :=
  next.frames.flatMap Frame.rights

theorem Next.IsFree.rights
    {next : Next}
    (isFree : next.IsFree) :
    next.rights = [] :=
  List.flatMap_eq_nil_iff.mpr fun frame member => (isFree frame member).rights

theorem Next.rights_into
    (next : Next)
    (frame : Frame) :
    (next.into frame).rights = next.rights ++ frame.rights := by
  simp [Next.rights, Next.into]

namespace Station

/-- The client of a session is introduced. -/
def IsInitialized (station : Station) (session : Nat) : Prop :=
  ∃ client, station.client? session = some client ∧ client.isInitialized = true

/-- What is next is an outcome, and if that is a failure the client of a session is not introduced. -/
def Refuses (station : Station) (next : Next) (session : Nat) : Prop :=
  ∃ outcome, next.pause = .give outcome ∧
    ∀ failure, outcome = .error failure → ¬station.IsInitialized session

/-- What is next may be so: its frames may stand, and a start of a client that is over at once has
not failed after it introduced the client. -/
structure Expects (station : Station) (next : Next) : Prop where
  frames : ∀ frame ∈ next.frames, frame.MayStand station.chronicle
  refuses : ∀ session rest, next.frames = .greeted session :: rest → station.Refuses next session

theorem expects_of_isFree
    {station : Station}
    {next : Next}
    (isFree : next.IsFree) :
    station.Expects next := by
  refine ⟨fun frame member => (isFree frame member).mayStand _, fun session rest same => ?_⟩
  have free := isFree (.greeted session) (same ▸ List.mem_cons_self)
  exact free.elim

theorem Expects.into
    {station : Station}
    {next : Next}
    {frame : Frame}
    (expects : station.Expects next)
    (stands : frame.MayStand station.chronicle)
    (refuses : ∀ session, frame = .greeted session → next.frames = [] →
      station.Refuses next session) :
    station.Expects (next.into frame) := by
  refine ⟨fun known member => ?_, fun session rest same => ?_⟩
  · rcases List.mem_append.mp member with old | isLast
    · exact expects.frames known old
    · cases List.mem_singleton.mp isLast
      exact stands
  · have same : next.frames ++ [frame] = .greeted session :: rest := same
    cases isFrames : next.frames with
    | nil =>
        rw [isFrames] at same
        exact refuses session (List.cons.inj same).1 isFrames
    | cons top others =>
        rw [isFrames] at same
        refine expects.refuses session others ?_
        rw [isFrames, (List.cons.inj same).1]

/-- A right to accept an answer that is still there was not used. -/
theorem Mannered.not_isInitialized
    {station : Station}
    {hand : List Right}
    {session : Nat}
    (mannered : station.Mannered hand)
    (held : .accept session ∈ hand) :
    ¬station.IsInitialized session := by
  rintro ⟨client, found, initialized⟩
  exact mannered.not_says rfl held (mannered.introduced session client found initialized)

end Station

namespace Move

variable {α : Type} {station : Station} {hand : List Right}

/-- After a move manners are kept, with the rights that the frames of what is next hold. -/
def Behaves (hand : List Right) (station : Station) (move : Move Next) : Prop :=
  (make move station).2.Mannered ((make move station).1.rights ++ hand) ∧
    (make move station).2.Expects (make move station).1

theorem Retains.behaves
    {move : Move Next}
    (retains : Retains (Station.Mannered hand) station move fun next _ => next.IsFree) :
    Behaves hand station move := by
  unfold Retains at retains
  unfold Behaves
  rw [make_eq]
  generalize perform move station = result at retains ⊢
  obtain ⟨mannered, given⟩ := retains
  rcases result with ⟨failure | next, after⟩
  · have isFree : (Next.fail failure).IsFree := Next.isFree_of_noFrames _
    exact ⟨mannered, Station.expects_of_isFree isFree⟩
  · have isFree := given next rfl
    refine ⟨?_, Station.expects_of_isFree isFree⟩
    rw [isFree.rights]
    exact mannered

theorem IsCalm.retains_unspoken
    {move : Move α}
    {gives : α → Prop}
    {origin : Station}
    (calm : IsCalm move gives)
    (numbered : origin.desk.ledger.Numbered)
    (unspoken : origin.Unspoken station) :
    Retains origin.Unspoken station move fun value _ => gives value := by
  obtain ⟨isCalm, given⟩ := calm station (unspoken.sessions numbered).numbered
  exact ⟨unspoken.trans isCalm.toUnspoken, given⟩

theorem IsCalm.behaves
    {move : Move Next}
    (calm : IsCalm move Next.IsFree)
    (mannered : station.Mannered hand) :
    Behaves hand station move := by
  obtain ⟨retained, given⟩ := calm.retains mannered
  exact Retains.behaves ⟨retained, fun next same => (given next same).1⟩

theorem behaves_get
    {next : Station → Move Next}
    (behaves : Behaves hand station (next station)) :
    Behaves hand station (get >>= next) :=
  behaves

/-- A move that comes to what is next after another one. -/
theorem Retains.bindBehaves
    {move : Move α}
    {next : α → Move Next}
    {holds : Station → Prop}
    {gives : α → Station → Prop}
    (first : Retains holds station move gives)
    (follows : ∀ after, holds after → after.Mannered hand)
    (second : ∀ value mid, holds mid → gives value mid → Behaves hand mid (next value)) :
    Behaves hand station (move >>= next) := by
  unfold Retains at first
  unfold Behaves
  rw [make_eq, perform_bind]
  generalize perform move station = result at first ⊢
  rcases result with ⟨failure | value, mid⟩
  · exact ⟨follows mid first.1, Station.expects_of_isFree (Next.isFree_of_noFrames _)⟩
  · exact second value mid first.1 (first.2 value rfl)

/-- A move that comes to what is next after a calm one. -/
theorem IsCalm.bindBehaves
    {move : Move α}
    {next : α → Move Next}
    {gives : α → Prop}
    (calm : IsCalm move gives)
    (mannered : station.Mannered hand)
    (second : ∀ value mid, mid.Mannered hand → gives value → station.Calm mid →
      Behaves hand mid (next value)) :
    Behaves hand station (move >>= next) :=
  (calm.retains mannered).bindBehaves (fun _ => id) fun value mid mannered given =>
    second value mid mannered given.1 given.2

theorem Behaves.into
    {move : Move Next}
    {frame : Frame}
    (behaves : Behaves (frame.rights ++ hand) station move)
    (stands : ∀ chronicle, frame.MayStand chronicle)
    (other : ∀ session, frame ≠ .greeted session) :
    Behaves hand station (Move.into move frame) := by
  obtain ⟨mannered, expects⟩ := behaves
  unfold Behaves
  rw [make_into, Next.rights_into, List.append_assoc]
  exact ⟨mannered, expects.into (stands _) fun session same => (other session same).elim⟩

/-! ## Writing -/

theorem perform_client_of_none
    {session : Nat}
    (missing : station.client? session = none) :
    perform (client session) station =
      (.error (.misuse (.noMember .null "send_request")), station) := by
  unfold client
  rw [perform_get_bind, missing]
  rfl

/-- A message is written by a client that may say it and has the right to; where it cannot be written
the right is still there. -/
theorem write_spoken
    {session : Nat}
    {message : Json}
    (mannered : station.Mannered (messageRights session message ++ hand))
    (may : MaySay station.chronicle session message) :
    (∃ failure, perform (write session message) station = (.error failure, station)) ∨
      ∃ after, perform (write session message) station = (.ok (), after) ∧
        after.Mannered hand := by
  cases found : station.client? session with
  | none =>
      refine .inl ⟨.misuse (.noMember .null "send_request"), ?_⟩
      unfold write
      rw [perform_bind, perform_client_of_none found]
  | some client =>
      unfold write
      rw [perform_bind, perform_client found]
      dsimp only
      cases Wire.encode message with
      | error fault =>
          exact .inl ⟨.ofWrite fault, rfl⟩
      | ok bytes =>
          simp only [perform_get_bind]
          cases station.process? client.process with
          | none =>
              exact .inr ⟨station, rfl, mannered.fewer (List.sublist_append_right _ _).subperm⟩
          | some process =>
              dsimp only
              cases process.isBroken with
              | true =>
                  exact .inl ⟨.brokenPipe, rfl⟩
              | false =>
                  refine .inr ⟨_, rfl, ?_⟩
                  have observed := (isCalm_observe (.sent client.process message)).retains mannered
                  have heard := observed.1.heard ⟨client, found⟩ may
                  exact heard.unspoken (Station.agrees_react _ client.process message).calm.toUnspoken

/-- A notification is sent by a client that may send it and has the right to; where it cannot be sent
the right is still there. -/
theorem notify_spoken
    {session : Nat}
    {method : String}
    {params : Json}
    (mannered : station.Mannered (methodRights session method ++ hand))
    (may : MaySay station.chronicle session (notificationMessage method params)) :
    (∃ failure, perform (notify session method params) station = (.error failure, station)) ∨
      ∃ after, perform (notify session method params) station = (.ok .done, after) ∧
        after.Mannered hand := by
  have asMessage : station.Mannered
      (messageRights session (notificationMessage method params) ++ hand) := mannered
  unfold notify
  rw [perform_bind]
  obtain ⟨failure, refused⟩ | ⟨after, written, spoken⟩ := write_spoken asMessage may
  · rw [refused]
    exact .inl ⟨failure, rfl⟩
  · rw [written]
    exact .inr ⟨_, rfl, ((isCalm_say _ _).retains spoken).1⟩

theorem retains_record
    {occurrence : Occurrence}
    (mannered : station.Mannered hand)
    (silent : occurrence.IsSilent) :
    Retains (Station.Mannered hand) station (record occurrence) fun _ _ => True :=
  retains_modify (mannered.unspoken (station.calm_record silent).toUnspoken)

theorem retains_writeRequest
    {session : Nat}
    {message : Json}
    (number : Nat)
    (mannered : station.Mannered (messageRights session message ++ hand))
    (may : MaySay station.chronicle session message) :
    Retains (Station.Mannered hand) station (writeRequest session number message)
      fun _ _ => True := by
  have written : Retains (Station.Mannered hand) station (write session message)
      fun _ _ => True := by
    unfold Retains
    obtain ⟨failure, refused⟩ | ⟨after, written, spoken⟩ := write_spoken mannered may
    · rw [refused]
      exact ⟨mannered.fewer (List.sublist_append_right _ _).subperm, nofun⟩
    · rw [written]
      exact ⟨spoken, fun _ _ => trivial⟩
  refine (written.recover fun failure mid refused => ?_).bind fun _ mid spoken _ =>
    retains_record spoken trivial
  exact Retains.bind (retains_record refused trivial) fun _ _ ended _ => retains_throw ended

theorem unspoken_issue
    (station : Station)
    (session number promise : Nat) :
    station.Unspoken { station.modifyClient session fun client => client.enter promise with
      chronicle := station.chronicle ++ [.issued session number] } := by
  have silent : (Occurrence.issued session number).IsSilent := trivial
  have entered : station.Unspoken
      (station.modifyClient session fun client => client.enter promise) :=
    station.unspoken_modifyClient session fun _ => rfl
  exact entered.trans (Station.calm_record _ silent).toUnspoken

theorem retains_request
    {session : Nat}
    {method : String}
    {params : Json}
    (timeout : Json)
    (mannered : station.Mannered (methodRights session method ++ hand))
    (may : ∀ client, station.client? session = some client →
      MaySay station.chronicle session (requestMessage client.nextRequest method params)) :
    Retains (Station.Mannered hand) station (request session method params timeout)
      fun next _ => next.IsFree := by
  have without : station.Mannered hand := mannered.fewer (List.sublist_append_right _ _).subperm
  refine (retains_client without session).bind ?_
  rintro client after _ ⟨rfl, found⟩
  -- Until the message is written nothing is said, and so it may still be said then.
  refine ((isCalm_newPromise _).retains_unspoken mannered.numbered
    after.calm_refl.toUnspoken).bindTo (fun _ => without.unspoken) ?_
  intro promise promised unspoken _
  have issued := unspoken.trans (unspoken_issue promised session client.nextRequest promise)
  refine Retains.bindTo (retains_modify issued) (fun _ => without.unspoken) ?_
  intro _ entered unspoken _
  refine ((isCalm_say _ _).retains_unspoken mannered.numbered unspoken).bindTo
    (fun _ => without.unspoken) ?_
  intro _ noted unspoken _
  have asMessage : noted.Mannered
      (messageRights session (requestMessage client.nextRequest method params) ++ hand) :=
    mannered.unspoken unspoken
  obtain ⟨more, sameChronicle, silent⟩ := unspoken.chronicle
  have mayNow := (may client found).later silent
  rw [← sameChronicle] at mayNow
  refine (retains_writeRequest _ asMessage mayNow).bind fun _ written manneredLate _ => ?_
  have awaits : ∀ limit, IsCalm (Move.into (awaitWithin promise limit)
      (.requested session client.nextRequest method limit)) Next.IsFree :=
    fun limit => (isCalm_awaitWithin promise limit).into trivial
  exact ((awaits _).retains manneredLate).imp fun _ _ given => given.1

/-! ## The start of a client -/

/-- What the start of a client comes to: it waits for the answer to its introduction, or has failed.
The right to accept that answer is still there. -/
inductive Greets (session : Nat) : Next × Station → Prop where
  | goesOn {next : Next} {after : Station}
      (isFree : next.IsFree)
      (mannered : after.Mannered [.accept session]) :
      Greets session (next.into (.handshaken session), after)
  | fails {failure : Failure} {after : Station}
      (mannered : after.Mannered [.accept session]) :
      Greets session (.fail failure, after)

/-- A station at which a client is about to introduce itself. -/
structure IsGreeting (station : Station) (session : Nat) : Prop where
  mannered : station.Mannered [.accept session]
  first : ¬HasSpoken station.chronicle session
  fresh : station.lastRequest session = 0

theorem IsGreeting.calm
    {session : Nat}
    {after : Station}
    (greeting : IsGreeting station session)
    (calm : station.Calm after) :
    IsGreeting after session := by
  refine ⟨greeting.mannered.unspoken calm.toUnspoken, ?_, (calm.numbers session).trans greeting.fresh⟩
  rintro ⟨message, sent, isSpoken⟩
  obtain ⟨more, same, silent⟩ := calm.chronicle
  rw [same] at sent
  exact greeting.first ⟨message, mem_of_silent silent sent isSpoken, isSpoken⟩

/-- A client goes on greeting after a calm move. -/
theorem IsCalm.bindGreets
    {move : Move α}
    {next : α → Move Next}
    {gives : α → Prop}
    {session : Nat}
    (calm : IsCalm move gives)
    (greeting : IsGreeting station session)
    (second : ∀ value mid, IsGreeting mid session → Greets session (make (next value) mid)) :
    Greets session (make (move >>= next) station) := by
  have moved := (calm station greeting.mannered.numbered).1
  rw [make_eq, perform_bind]
  generalize perform move station = result at moved ⊢
  have greetingNow := greeting.calm moved
  rcases result with ⟨failure | value, mid⟩
  · exact .fails greetingNow.mannered
  · exact second value mid greetingNow

theorem isCalm_rootUri (session : Session) : IsCalm (rootUri session) fun _ => True := by
  unfold rootUri
  split
  · exact isCalm_pure trivial
  · refine isCalm_get fun station => ?_
    split
    · exact isCalm_pure trivial
    · exact isCalm_throw _

theorem isCalm_openLog (session : Nat) : IsCalm (openLog session) fun _ => True := by
  refine (isCalm_client session).bind fun client _ => ?_
  split
  · exact isCalm_pure trivial
  · refine (isCalm_changeDisk _).bind fun _ _ => (isCalm_changeDisk _).bind fun _ _ => ?_
    exact isCalm_modifyClient session (fun _ => rfl) fun _ => rfl

theorem greets_get
    {next : Station → Move Next}
    {session : Nat}
    (greets : Greets session (make (next station) station)) :
    Greets session (make (get >>= next) station) :=
  greets

/-- A client introduces itself with its first request. -/
theorem greets_greet
    {id : Nat}
    (greeting : IsGreeting station id) :
    Greets id (make (greet id) station) := by
  refine (isCalm_session id).bindGreets greeting fun session known greeting => greets_get ?_
  refine (isCalm_rootUri session).bindGreets greeting fun uri mid greeting => ?_
  dsimp only
  split
  · exact .fails greeting.mannered
  · rename_i params _
    have may : ∀ client, mid.client? id = some client → MaySay mid.chronicle id
        (requestMessage client.nextRequest "initialize" (params.toJson .dropped)) := by
      intro client found
      have isFirst : client.nextRequest = 1 := by
        have fresh := greeting.fresh
        unfold Station.lastRequest at fresh
        rw [found] at fresh
        exact congrArg (· + 1) fresh
      rw [isFirst]
      exact .introduction greeting.first
    have asked := retains_request .null greeting.mannered may
    unfold Retains at asked
    rw [make_into, make_eq]
    generalize perform (request id "initialize" (params.toJson .dropped) .null) mid = result
      at asked ⊢
    rcases result with ⟨failure | next, after⟩
    · exact .goesOn (Next.isFree_of_noFrames _) asked.1
    · exact .goesOn (asked.2 next rfl) asked.1

/-- The start of a client begins with its introduction, if it gets so far. -/
theorem greets_startClient
    {session : Nat}
    (greeting : IsGreeting station session) :
    Greets session (make (startClient session) station) := by
  refine IsCalm.bindGreets (isCalm_spawn trivial) greeting fun reader mid greeting => ?_
  refine IsCalm.bindGreets (isCalm_modifyClient session (fun _ => rfl) fun _ => rfl) greeting
    fun _ mid greeting => greets_get ?_
  split
  · refine (isCalm_openLog session).bindGreets greeting fun _ mid greeting => ?_
    refine IsCalm.bindGreets (isCalm_spawn trivial) greeting fun drain mid greeting => ?_
    exact IsCalm.bindGreets (isCalm_modifyClient session (fun _ => rfl) fun _ => rfl) greeting
      fun _ mid greeting => greets_greet greeting
  · exact greets_greet greeting

/-- A station at which the server of a session may be started. -/
structure MayLaunch (station : Station) (session : Nat) : Prop where
  mannered : station.Mannered []
  noClient : station.client? session = none
  isRun : (station.run? session).isSome = true

theorem MayLaunch.calm
    {session : Nat}
    {after : Station}
    (mayLaunch : MayLaunch station session)
    (calm : station.Calm after) :
    MayLaunch after session :=
  ⟨mayLaunch.mannered.unspoken calm.toUnspoken,
    (calm.toUnspoken.client?_eq_none session).mpr mayLaunch.noClient,
    calm.runs session mayLaunch.isRun⟩

end Move

namespace Station

variable {station : Station} {hand : List Right}

/-- A client that comes to be has said nothing, and has the right to accept an answer. -/
theorem Mannered.seat
    {session : Nat}
    {client : Client}
    (mannered : station.Mannered hand)
    (noClient : station.client? session = none)
    (isRun : (station.run? session).isSome = true)
    (shy : client.isInitialized = false)
    (number : Nat)
    (process : ServerProcess) :
    (station.seat session number process client).Mannered (.accept session :: hand) := by
  have clients := fun other => client?_seat station session number other process client
  obtain ⟨run, found⟩ := Option.isSome_iff_exists.mp isRun
  have kept : ∀ other, other ≠ session →
      (station.seat session number process client).client? other = station.client? other := by
    intro other different
    rw [clients, client?]
    simp [different]
  have here : (station.seat session number process client).client? session = some client := by
    rw [clients, found]
    simp
  -- A right to accept an answer is held for a client that is there, and there was none.
  have fresh : Right.accept session ∉ hand ++ station.rights := by
    intro held
    obtain ⟨client, found⟩ := mannered.known _ held
    cases noClient.symm.trans found
  have rights : (station.seat session number process client).rights = station.rights := by
    simp [Station.rights, Station.seat, modifyRun, Occurrence.rights]
  have spawned : ∀ occurrence ∈ [Occurrence.spawned session number], occurrence.IsSilent := by
    intro occurrence member
    cases List.mem_singleton.mp member
    trivial
  have grows : station.chronicle <+: (station.seat session number process client).chronicle :=
    List.prefix_append _ _
  have stays : ∀ other, station.HasClient other →
      (station.seat session number process client).HasClient other := by
    rintro other ⟨known, isKnown⟩
    by_cases same : other = session
    · exact ⟨client, same ▸ here⟩
    · exact ⟨known, (kept other same).trans isKnown⟩
  refine ⟨⟨?_, fun right member => ?_, fun entry member serves right isRight => ?_⟩,
    fun stack member frame isFrame => ?_, mannered.orderly.later spawned, fun other missing => ?_,
    fun other known isKnown initialized => ?_, mannered.numbered, fun entry member runs => ?_⟩
  · rw [rights]
    exact List.nodup_cons.mpr ⟨fresh, mannered.once⟩
  · rw [rights] at member
    rcases List.mem_cons.mp member with rfl | old
    · exact ⟨client, here⟩
    · have knew := mannered.known right old
      cases right with
      | accept other => exact stays other knew
      | bid other => exact knew
      | leave other => exact knew
  · rw [rights] at isRight
    rcases List.mem_cons.mp isRight with rfl | old
    · exact ⟨(fun same => by cases same), fun same => by cases same⟩
    · exact mannered.serving entry member serves right old
  · exact (mannered.frames stack member frame isFrame).mono grows
  · rintro ⟨message, sent, isSpoken⟩
    have different : other ≠ session := by
      rintro rfl
      cases missing.symm.trans here
    exact mannered.unheard other ((kept other different).symm.trans missing)
      ⟨message, mem_of_silent spawned sent isSpoken, isSpoken⟩
  · by_cases same : other = session
    · subst same
      cases here.symm.trans isKnown
      cases shy.symm.trans initialized
    · exact (mannered.introduced other known ((kept other same).symm.trans isKnown)
        initialized).mono grows
  · exact (mannered.running entry member runs).mono grows

end Station

namespace Move

variable {α : Type} {station : Station} {session : Nat}

theorem IsCalm.retains_mayLaunch
    {move : Move α}
    {gives : α → Prop}
    (calm : IsCalm move gives)
    (mayLaunch : MayLaunch station session) :
    Retains (fun after => MayLaunch after session) station move fun value _ => gives value := by
  obtain ⟨isCalm, given⟩ := calm station mayLaunch.mannered.numbered
  exact ⟨mayLaunch.calm isCalm, given⟩

/-- A client in its place is about to introduce itself. -/
theorem MayLaunch.isGreeting
    (mayLaunch : MayLaunch station session)
    (number : Nat)
    (process : ServerProcess)
    (logFile : Option Path)
    (timeout : Json) :
    IsGreeting (station.seat session number process (.fresh number logFile timeout)) session := by
  obtain ⟨mannered, noClient, isRun⟩ := mayLaunch
  refine ⟨mannered.seat noClient isRun rfl number process, ?_, ?_⟩
  · rintro ⟨message, sent, isSpoken⟩
    refine mannered.unheard session noClient ⟨message, ?_, isSpoken⟩
    refine mem_of_silent (fun occurrence member => ?_) sent isSpoken
    cases List.mem_singleton.mp member
    trivial
  · obtain ⟨run, found⟩ := Option.isSome_iff_exists.mp isRun
    unfold Station.lastRequest
    rw [Station.client?_seat, found]
    simp [Client.fresh]

theorem retains_settleIn
    (mayLaunch : MayLaunch station session)
    (plan : SpawnPlan)
    (number : Nat) :
    Retains (Station.Mannered []) station (settleIn session plan number)
      fun _ after => IsGreeting after session := by
  refine ((isCalm_session session).retains_mayLaunch mayLaunch).bindTo (fun _ => (·.mannered)) ?_
  intro known _ mayLaunch _
  have noted : IsCalm (modifySession session fun current =>
      { current with pid := some (firstPid + number) }) fun _ => True :=
    isCalm_modifySession session fun _ => rfl
  refine (noted.retains_mayLaunch mayLaunch).bindTo (fun _ => (·.mannered)) ?_
  intro _ mid mayLaunch _
  have greeting := mayLaunch.isGreeting number (.ofPlan (firstPid + number) plan)
    (serverLog? mid known.name) mid.requestTimeout
  have seated : Retains (fun after => IsGreeting after session) mid (modify fun station =>
      station.seat session number (ServerProcess.ofPlan (firstPid + number) plan)
        (Client.fresh number (serverLog? station known.name) station.requestTimeout))
      fun _ _ => True :=
    retains_modify greeting
  have silent : ∀ after, IsGreeting after session → after.Mannered [] :=
    fun _ greeting => greeting.mannered.fewer (List.sublist_append_right [_] []).subperm
  refine seated.bindTo silent fun _ after greeting _ => ?_
  split
  · rename_i code _
    have exited := greeting.calm (after.agrees_exitProcess number code).calm
    exact ⟨silent _ exited, fun _ _ => exited⟩
  · exact retains_pure (silent _ greeting) greeting

/-- A client that is about to introduce itself goes on until its start has come to an end. -/
theorem behaves_started
    (greeting : IsGreeting station session) :
    Behaves [] station (into (startClient session) (.greeted session)) := by
  have greets := greets_startClient greeting
  unfold Behaves
  rw [make_into]
  generalize make (startClient session) station = result at greets ⊢
  cases greets with
  | @goesOn next after isFree mannered =>
      have expects : after.Expects (next.into (.handshaken session)) :=
        (Station.expects_of_isFree isFree).into trivial nofun
      have rights : ((next.into (.handshaken session)).into (.greeted session)).rights =
          [.accept session] := by
        rw [Next.rights_into, Next.rights_into, isFree.rights]
        rfl
      refine ⟨?_, expects.into trivial fun other _ bare => ?_⟩
      · rw [rights]
        exact mannered
      · simp [Next.into] at bare
  | @fails failure after mannered =>
      refine ⟨mannered.fewer (List.nil_subperm), ?_⟩
      refine (Station.expects_of_isFree (Next.isFree_of_noFrames _)).into trivial ?_
      rintro other isGreeted _
      cases isGreeted
      exact ⟨_, rfl, fun _ _ => mannered.not_isInitialized List.mem_cons_self⟩

/-- A program is started, with a client that introduces itself, or it is not. -/
theorem behaves_startProgram
    (mayLaunch : MayLaunch station session)
    (number : Nat)
    (plan : SpawnPlan) :
    Behaves [] station (startProgram session number plan) := by
  refine ((isCalm_session session).retains_mayLaunch mayLaunch).bindBehaves (fun _ => (·.mannered)) ?_
  intro known mid mayLaunch _
  split
  · exact ((isCalm_say _ _).bind fun _ _ => isCalm_windUp _ _ _).behaves mayLaunch.mannered
  · exact (isCalm_windUp _ _ _).behaves mayLaunch.mannered
  · exact (retains_settleIn mayLaunch plan number).bindBehaves (fun _ => id)
      fun _ after _ greeting => behaves_started greeting

theorem behaves_afterSpawn
    (mayLaunch : MayLaunch station session)
    (number : Nat)
    (plan : SpawnPlan)
    (time : Nat)
    (outcome : Outcome) :
    Behaves [] station (afterSpawn session number plan time outcome) := by
  cases outcome with
  | ok value =>
      exact behaves_startProgram mayLaunch number plan
  | error failure =>
      exact ((isCalm_cancelTimer time).bind fun _ _ => isCalm_failRun session failure).behaves
        mayLaunch.mannered

/-- A run begins. -/
theorem behaves_runServer
    (mayLaunch : MayLaunch station session) :
    Behaves [] station (runServer session) := by
  refine ((isCalm_session session).retains_mayLaunch mayLaunch).bindBehaves (fun _ => (·.mannered)) ?_
  intro known mid mayLaunch _
  refine behaves_get ?_
  split
  · exact (isCalm_forsake session _).behaves mayLaunch.mannered
  · dsimp only
    generalize mid.plans[mid.launches]?.getD .plain = plan
    have counted : IsCalm (modify fun station => { station with launches := mid.launches + 1 })
        fun _ => True :=
      isCalm_modify fun station => Station.Agrees.calm ⟨rfl, rfl, rfl, rfl⟩
    refine (counted.retains_mayLaunch mayLaunch).bindBehaves (fun _ => (·.mannered)) ?_
    intro _ _ mayLaunch _
    refine ((isCalm_observe _).retains_mayLaunch mayLaunch).bindBehaves (fun _ => (·.mannered)) ?_
    intro _ _ mayLaunch _
    split
    · refine ((isCalm_newPromise _).bind fun promise _ => ?_).behaves mayLaunch.mannered
      exact IsCalm.bind (isCalm_modifyLoop fun _ => rfl) fun _ _ => isCalm_awaitInto promise trivial
    · exact behaves_startProgram mayLaunch _ plan

end Move

end AnalyzerSessions
