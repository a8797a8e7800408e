import AnalyzerSessions.Proofs.SpeakingMoves

namespace AnalyzerSessions

/-!
# Manners of a client

A client that gets an answer to its introduction accepts it with the right that it has
kept, or its start fails and it still has that right, so that it was never introduced.
Only a client that was introduced asks its server to shut down, and only a server that
has agreed is told to exit.
-/

namespace Station

variable {station : Station} {hand : List Right} {session : Nat}

/-- A client whose server was told that its answer is accepted is introduced. -/
theorem Mannered.introduce
    (mannered : station.Mannered hand)
    (introduced : IsIntroduced station.chronicle session) :
    (station.modifyClient session fun client =>
      { client with isInitialized := true }).Mannered hand := by
  have clients := fun other => client?_modifyClient station session other fun client =>
    { client with isInitialized := true }
  have rights : (station.modifyClient session fun client =>
      { client with isInitialized := true }).rights = station.rights := rfl
  refine ⟨mannered.toWarrants.mono (rights ▸ .refl _) (fun other present => ?_) (fun _ => id)
    fun entry member serves => ⟨entry, member, rfl, serves⟩, mannered.frames, mannered.orderly,
    fun other missing => ?_, fun other client found initialized => ?_, mannered.numbered,
    mannered.running⟩
  · obtain ⟨client, found⟩ := present
    unfold HasClient
    rw [clients, found]
    exact ⟨_, rfl⟩
  · rw [clients] at missing
    exact mannered.unheard other (Option.map_eq_none_iff.mp missing)
  · rw [clients] at found
    obtain ⟨old, isOld, rfl⟩ := Option.map_eq_some_iff.mp found
    split at initialized
    · rename_i same
      exact same ▸ introduced
    · exact mannered.introduced other old isOld initialized

/-- Where nothing is said no client is introduced. -/
theorem Unspoken.not_isInitialized
    {before after : Station}
    (unspoken : before.Unspoken after)
    (refused : ¬before.IsInitialized session) :
    ¬after.IsInitialized session := by
  rintro ⟨client, found, initialized⟩
  obtain ⟨old, wasFound, same⟩ := unspoken.isInitialized found
  exact refused ⟨old, wasFound, same.trans initialized⟩

end Station

/-- An answer is a value that was read. -/
theorem WasReplied.eq_json
    {chronicle : List Occurrence}
    {session : Nat}
    {method : String}
    {value : Value}
    (replied : WasReplied chronicle session method value) :
    ∃ answer, value = .json answer := by
  obtain ⟨_, _, _, _, _, _, _, _, answers⟩ := replied
  cases answers with
  | value _ _ _ _ => exact ⟨_, rfl⟩

namespace Move

variable {station : Station} {hand : List Right} {session : Nat}

/-- What a move keeps is retained by it. -/
theorem Keeps.retains
    {α : Type}
    {tokens : List Token}
    {move : Move α}
    {gives : α → Station → Prop}
    {fails : Failure → Prop}
    (keeps : Keeps tokens station move gives fails) :
    Retains (Comes tokens station) station move gives := by
  unfold Keeps at keeps
  unfold Retains
  generalize perform move station = result at keeps ⊢
  rcases result with ⟨failure | value, after⟩
  · exact ⟨keeps.1, nofun⟩
  · refine ⟨keeps.1, fun other same => ?_⟩
    cases same
    exact keeps.2

/-- A move retains two things at once. -/
theorem Retains.both
    {α : Type}
    {move : Move α}
    {first second : Station → Prop}
    {gives tells : α → Station → Prop}
    (one : Retains first station move gives)
    (other : Retains second station move tells) :
    Retains (fun after => first after ∧ second after) station move
      fun value after => gives value after ∧ tells value after :=
  ⟨⟨one.1, other.1⟩, fun value gave => ⟨one.2 value gave, other.2 value gave⟩⟩

/-! ## The end of a handshake -/

/-- How a handshake ends: with a failure after which the right to accept an answer is still there, or
with a value. -/
inductive Decides (session : Nat) : Next × Station → Prop where
  | refuses {failure : Failure} {after : Station}
      (mannered : after.Mannered [.accept session]) :
      Decides session (.fail failure, after)
  | accepts {value : Json} {after : Station}
      (mannered : after.Mannered []) :
      Decides session (.value value, after)

theorem Decides.behaves
    {move : Move Next}
    (decides : Decides session (make move station)) :
    Behaves [] station move := by
  unfold Behaves
  generalize make move station = result at decides ⊢
  cases decides with
  | refuses mannered =>
      exact ⟨mannered.fewer List.nil_subperm, Station.expects_of_isFree (Next.isFree_of_noFrames _)⟩
  | accepts mannered =>
      exact ⟨mannered, Station.expects_of_isFree (Next.isFree_of_noFrames _)⟩

theorem Decides.isRefused
    {result : Next × Station}
    (decides : Decides session result) :
    result.2.Refuses result.1 session := by
  cases decides with
  | refuses mannered =>
      exact ⟨_, rfl, fun _ _ => mannered.not_isInitialized List.mem_cons_self⟩
  | accepts _ =>
      exact ⟨_, rfl, nofun⟩

theorem Retains.decides
    {α : Type}
    {move : Move α}
    {next : α → Move Next}
    {holds : Station → Prop}
    {gives : α → Station → Prop}
    (first : Retains holds station move gives)
    (follows : ∀ after, holds after → after.Mannered [.accept session])
    (second : ∀ value mid, holds mid → gives value mid →
      Decides session (make (next value) mid)) :
    Decides session (make (move >>= next) station) := by
  unfold Retains at first
  rw [make_eq, perform_bind]
  generalize perform move station = result at first ⊢
  rcases result with ⟨failure | value, mid⟩
  · exact .refuses (follows mid first.1)
  · exact second value mid first.1 (first.2 value rfl)

/-- The server is told that its answer is accepted, and the client is introduced then. -/
theorem decides_acceptance
    {next : Next → Move Next}
    {answer : Json}
    {result : InitializeResult}
    (sound : station.Sound [])
    (mannered : station.Mannered [.accept session])
    (replied : WasReplied station.chronicle session "initialize" (.json answer))
    (valid : Schema.check "InitializeResult" InitializeResult.read (Act.presentParams answer) =
      .ok result)
    (second : ∀ told mid, mid.Mannered [] → IsIntroduced mid.chronicle session →
      Decides session (make (next told) mid)) :
    Decides session (make (notify session "initialized" (.obj []) >>= next) station) := by
  have toSay : station.Mannered (methodRights session "initialized" ++ []) := mannered
  have kept := keeps_notify sound session "initialized" (.obj [])
  unfold Keeps at kept
  rw [make_eq, perform_bind]
  obtain ⟨failure, refused⟩ | ⟨after, told, spoken⟩ :=
    notify_spoken toSay (.acceptance replied valid)
  · rw [refused]
    exact .refuses mannered
  · rw [told] at kept ⊢
    obtain ⟨_, _, sent⟩ := kept
    exact second .done after spoken ⟨_, sent, rfl⟩

theorem decides_modifyClient
    {change : Client → Client}
    {next : Unit → Move Next}
    (decides : Decides session (make (next ()) (station.modifyClient session change))) :
    Decides session (make (modifyClient session change >>= next) station) :=
  decides

theorem decides_acceptHandshake
    {answer : Json}
    (sound : station.Sound [])
    (mannered : station.Mannered [.accept session])
    (replied : WasReplied station.chronicle session "initialize" (.json answer)) :
    Decides session (make (acceptHandshake session answer) station) := by
  unfold acceptHandshake
  split
  · exact .refuses mannered
  · rename_i result valid
    refine Retains.decides (Retains.both (keeps_modifySession sound session ?_).retains
      (IsCalm.retains (isCalm_modifySession session ?_) mannered)) (fun _ both => both.2) ?_
    · exact fun _ => rfl
    · exact fun _ => rfl
    rintro _ mid ⟨comes, manneredMid⟩ _
    refine decides_acceptance comes.sound manneredMid (replied.mono comes.onward.chronicle) valid ?_
    intro _ told spoken introduced
    have introducedNow := spoken.introduce introduced
    refine decides_modifyClient ?_
    split
    · exact .accepts ((isCalm_say _ _).retains introducedNow).1
    · exact .accepts introducedNow

/-- After the answer to its introduction a client accepts it, or its start fails. -/
theorem decides_afterHandshake
    {outcome : Outcome}
    (sound : station.Sound [])
    (mannered : station.Mannered [.accept session])
    (told : station.Holds (.reply session "initialize") outcome) :
    Decides session (make (afterHandshake session outcome) station) := by
  cases outcome with
  | error failure =>
      exact .refuses mannered
  | ok value =>
      have replied := told value rfl
      obtain ⟨answer, rfl⟩ := replied.eq_json
      exact decides_acceptHandshake sound mannered replied

/-! ## The stop of a client -/

/-- Doing a job within a limit uses the rights that it needs. -/
theorem behaves_performWithin
    {job : Job}
    (mannered : station.Mannered (job.rights ++ hand))
    (mayBegin : job.MayBegin station.chronicle)
    (limit : Json) :
    Behaves hand station (performWithin job limit) := by
  have without : station.Mannered hand := mannered.fewer (List.sublist_append_right _ _).subperm
  unfold performWithin
  split
  · exact ⟨without, Station.expects_of_isFree (Next.isFree_of_noFrames _)⟩
  · rename_i limit _
    cases limit with
    | none =>
        have rights : (Next.perform job).rights = job.rights := List.append_nil _
        refine ⟨rights ▸ mannered, fun frame member => ?_, fun session rest same => ?_⟩
        · cases List.mem_singleton.mp member
          exact mayBegin
        · cases same
    | within seconds =>
        have spawned : Retains (Station.Mannered hand) station (spawn job) fun _ _ => True :=
          ⟨mannered.spawn mayBegin, fun _ _ => trivial⟩
        exact spawned.bindBehaves (fun _ => id) fun task mid mannered _ =>
          (isCalm_awaitFor task seconds).behaves mannered

/-- A client that is introduced asks its server to shut down, when it has the right to. -/
theorem behaves_stopClient
    (mannered : station.Mannered [.bid session, .leave session]) :
    Behaves [] station (stopClient session) := by
  have silent : ∀ after : Station, after.Mannered [.bid session, .leave session] →
      after.Mannered [] := fun _ mannered => mannered.fewer List.nil_subperm
  refine (retains_client mannered session).bindBehaves silent ?_
  rintro client mid mannered ⟨rfl, found⟩
  have known := mannered.introduced session client found
  refine ((isCalm_serverHasExited session).retains mannered).bindBehaves silent ?_
  rintro exited after mannered ⟨_, calm⟩
  split
  · rename_i goesOn
    have initialized : client.isInitialized = true := ((Bool.and_eq_true _ _).mp goesOn).1
    have mayBegin : (Job.request session "shutdown" .null .null).MayBegin after.chronicle :=
      ⟨rfl, (known initialized).mono calm.toUnspoken.grows⟩
    have asks : Behaves ((Frame.shutDown session).rights ++ []) after
        (performWithin (.request session "shutdown" .null .null) patience) :=
      behaves_performWithin mannered mayBegin patience
    exact asks.into (fun _ => trivial) nofun
  · exact (isCalm_awaitDeparture session).behaves (silent _ mannered)

/-- A client that was never introduced says nothing when it stops. -/
theorem behaves_stopClient_of_refused
    (mannered : station.Mannered hand)
    (refused : ¬station.IsInitialized session) :
    Behaves hand station (stopClient session) := by
  refine (retains_client mannered session).bindBehaves (fun _ => id) ?_
  rintro client mid mannered ⟨rfl, found⟩
  refine (isCalm_serverHasExited session).bindBehaves mannered fun exited after mannered _ _ => ?_
  have shy : client.isInitialized = false :=
    (Bool.not_eq_true _).mp fun initialized => refused ⟨client, found, initialized⟩
  rw [shy]
  exact (isCalm_awaitDeparture session).behaves mannered

theorem retains_askToExit
    {value : Value}
    (mannered : station.Mannered [.leave session])
    (replied : WasReplied station.chronicle session "shutdown" value) :
    Retains (Station.Mannered []) station (askToExit session) fun _ _ => True := by
  have toSay : station.Mannered (methodRights session "exit" ++ []) := mannered
  unfold Retains askToExit
  rw [perform_tryCatch, perform_bind]
  obtain ⟨failure, refused⟩ | ⟨after, told, spoken⟩ := notify_spoken toSay (.farewell replied)
  · rw [refused]
    exact ⟨mannered.fewer List.nil_subperm, fun _ _ => trivial⟩
  · rw [told]
    exact ⟨spoken, fun _ _ => trivial⟩

theorem behaves_afterShutdown
    {outcome : Outcome}
    (mannered : station.Mannered [.leave session])
    (told : station.Holds (.reply session "shutdown") outcome) :
    Behaves [] station (afterShutdown session outcome) := by
  cases outcome with
  | ok value =>
      exact (retains_askToExit mannered (told value rfl)).bindBehaves (fun _ => id)
        fun failed mid mannered _ => (isCalm_leaveShutdown session failed).behaves mannered
  | error failure =>
      exact (isCalm_leaveShutdown session (some failure)).behaves
        (mannered.fewer List.nil_subperm)

/-! ## The end of a start -/

/-- After a failed handshake the client was never introduced, and says nothing more. -/
theorem behaves_afterFailedStart
    (mannered : station.Mannered [])
    (refused : ¬station.IsInitialized session)
    (failure : Failure) :
    Behaves [] station (afterFailedStart session failure) := by
  unfold afterFailedStart
  split
  · refine (isCalm_session session).bindBehaves mannered fun known mid mannered _ calm => ?_
    refine (isCalm_say _ _).bindBehaves mannered fun _ after mannered _ calmLate => ?_
    have stillRefused := (calm.trans calmLate).toUnspoken.not_isInitialized refused
    have stops : Behaves ((Frame.gaveUp session).rights ++ []) after (stopClient session) :=
      behaves_stopClient_of_refused mannered stillRefused
    exact stops.into (fun _ => trivial) nofun
  · exact ((isCalm_settleStart session).bind fun _ _ => isCalm_failRun session failure).behaves
      mannered

/-- The manager is told of a server that its client has introduced itself to. -/
theorem behaves_welcome
    (mannered : station.Mannered [])
    (introduced : IsIntroduced station.chronicle session) :
    Behaves [] station (welcome session) := by
  refine IsCalm.bindBehaves (isCalm_modifySession session fun _ => rfl) mannered
    fun _ mid mannered _ calm => ?_
  have introducedNow := introduced.mono calm.toUnspoken.grows
  have welcomed : Retains (Station.Mannered []) mid
      (do atDesk (Act.onInit session); return (none : Option Failure)) fun _ _ => True :=
    (retains_atDesk_of_mannerly mannered (Act.isMannerlyAt_onInit introducedNow _)).bind
      fun _ _ mannered _ => retains_pure mannered trivial
  refine (welcomed.recover fun failure after mannered => retains_pure mannered trivial).bindBehaves
    (fun _ => id) ?_
  intro told after mannered _
  cases told with
  | none =>
      exact (isCalm_awaitServerExit session).behaves mannered
  | some failure =>
      exact ((isCalm_settleStart session).bind fun _ _ => isCalm_failRun session failure).behaves
        mannered

/-- The start of a client has come to its end. -/
theorem behaves_afterGreeting
    {outcome : Outcome}
    (mannered : station.Mannered [])
    (told : station.Holds (.greeting session) outcome)
    (refused : ∀ failure, outcome = .error failure → ¬station.IsInitialized session) :
    Behaves [] station (afterGreeting session outcome) := by
  cases outcome with
  | ok value =>
      exact behaves_welcome mannered (told value rfl)
  | error failure =>
      exact behaves_afterFailedStart mannered (refused failure rfl) failure

end Move

end AnalyzerSessions
