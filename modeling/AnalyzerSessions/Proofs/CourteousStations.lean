import AnalyzerSessions.Proofs.CommandManners
import AnalyzerSessions.Proofs.ReceivedMessages

namespace AnalyzerSessions

/-!
# Courteous stations

Clients are courteous where they keep manners, and where no start that goes on with a
failure has introduced its client.  A task that waits is never about to be told how a
start went, as nobody may wait for that; so only what the running task is told counts.
-/

/-!
## Mannerly steps

Every step of a station at which clients keep manners leaves it so.  The frame that
goes on has its rights in hand, and what comes after it takes up those that are left.
The one thing that a frame has to know besides is this: a start that has failed has
not introduced its client.
-/

namespace Move

variable {station : Station}

/-- A job is begun in a mannerly way by whoever has the rights that it needs. -/
theorem behaves_begin
    {job : Job}
    (mannered : station.Mannered job.rights)
    (mayBegin : job.MayBegin station.chronicle)
    (mayLaunch : ∀ session, job = .runServer session → MayLaunch station session) :
    Behaves [] station (begin job) := by
  cases job with
  | request session method params timeout =>
      obtain ⟨rfl, introduced⟩ := mayBegin
      -- Of the requests, only the one for the shutdown has a task of its own.
      have isBid : methodRights session "shutdown" = [.bid session] := rfl
      have goesOn := mannered.not_says isBid List.mem_cons_self
      have ordinary : "shutdown" ∉ ["initialize", "initialized", "exit"] := by decide
      have held : station.Mannered (methodRights session "shutdown" ++ []) := mannered
      exact (retains_request timeout held fun _ _ => .request introduced ordinary goesOn).behaves
  | notify session method params =>
      exact mayBegin.elim
  | awaitExit process =>
      exact (isCalm_awaitExit process).behaves mannered
  | awaitFlag signpost =>
      exact (isCalm_awaitFlag signpost).behaves mannered
  | readMessages session =>
      exact (isCalm_readOn session .initial).behaves mannered
  | drainErrors session =>
      exact (isCalm_drainOn session).behaves mannered
  | startClient session =>
      exact mayBegin.elim
  | stopClient session =>
      exact behaves_stopClient mannered
  | closeClient session =>
      exact (isCalm_closeClient session).behaves mannered
  | handleMessage session message =>
      exact (isCalm_handleMessage session message).behaves mannered
  | runServer session =>
      exact behaves_runServer (mayLaunch session rfl)
  | awaitReady session timeout =>
      exact (isCalm_awaitReady session timeout).behaves mannered
  | awaitQuiescent session timeout =>
      exact (isCalm_awaitQuiescent session timeout).behaves mannered
  | awaitClosed session =>
      exact (isCalm_awaitClosed session).behaves mannered
  | command name arguments =>
      exact behaves_runCommand mannered name arguments
  | leaf session leaf arguments =>
      exact mayBegin.elim
  | handler session method params =>
      exact (isCalm_runHandler session method params).behaves mannered
  | fire event file =>
      exact behaves_fire mannered event file
  | write buffer =>
      exact behaves_writeBuffer mannered buffer
  | check path timeout =>
      exact behaves_check mannered path timeout

/-- A job that is not begun gives up the rights that it needs. -/
theorem behaves_cancelledJob
    {job : Job}
    (mannered : station.Mannered job.rights)
    (failure : Failure) :
    Behaves [] station (resume (.begin job) (.error failure)) := by
  have without := mannered.fewer List.nil_subperm
  cases job with
  | runServer session =>
      exact (isCalm_forsake session failure).behaves without
  | _ =>
      exact (isCalm_fail failure).behaves without

/-- The server of a session may be started by a frame that comes before its start. -/
theorem mayLaunch_of_starts
    {frame : Frame}
    {session : Nat}
    (sound : station.Sound frame.tokens)
    (fits : station.FrameFits frame)
    (starts : frame.Starts session)
    (mannered : station.Mannered []) :
    MayLaunch station session := by
  rw [starts.tokens] at sound
  obtain ⟨run, isRun⟩ := sound.run_of_hand
  exact ⟨mannered, fits.early session starts, Option.isSome_iff_exists.mpr ⟨run, isRun⟩⟩

/-- A plain frame goes on in a mannerly way. -/
theorem behaves_resumedPlain
    {frame : Frame}
    (mannered : station.Mannered [])
    (isPlain : frame.IsPlain)
    (outcome : Outcome) :
    Behaves [] station (resume frame outcome) := by
  cases frame with
  | readySettled session deadline =>
      exact (isCalm_afterSettling session deadline outcome).behaves mannered
  | readyQuiescent session =>
      exact (isCalm_afterReadiness session outcome).behaves mannered
  | becameQuiescent session =>
      exact (isCalm_afterQuiescent session outcome).behaves mannered
  | ignoringCancellation =>
      exact (isCalm_afterCancellation outcome).behaves mannered
  | slept code arguments time =>
      have slept : IsCalm (afterSleep code arguments time outcome) Next.IsFree :=
        isCalm_of_light fun light held => retains_afterSleep light held code arguments time outcome
      exact slept.behaves mannered
  | leafAnswered action =>
      exact (isCalm_afterLeaf action outcome).behaves mannered
  | firing rest path count =>
      exact behaves_afterFiring mannered rest path count outcome
  | discarding =>
      exact (isCalm_afterDiscarded outcome).behaves mannered
  | checkedReady session buffer =>
      exact behaves_afterCheckedReady mannered session buffer outcome
  | checkedClosed report =>
      exact (isCalm_afterCheckedClosed report outcome).behaves mannered
  | _ =>
      exact isPlain.elim

/-- A frame goes on in a mannerly way with the rights that it holds. -/
theorem behaves_resume
    {frame : Frame}
    {wanted given : Topic}
    {outcome : Outcome}
    (sound : station.Sound frame.tokens)
    (fits : station.FrameFits frame)
    (taken : station.Takes frame wanted given)
    (told : station.Holds wanted outcome)
    (mannered : station.Mannered frame.rights)
    (stands : frame.MayStand station.chronicle)
    (refused : ∀ session failure, frame = .greeted session → outcome = .error failure →
      ¬station.IsInitialized session) :
    Behaves [] station (resume frame outcome) := by
  cases taken with
  | @begin job _ =>
      cases outcome with
      | error failure =>
          exact behaves_cancelledJob mannered failure
      | ok value =>
          have begun : resume (.begin job) (.ok value) = begin job := by
            cases job <;> rfl
          rw [begun]
          refine behaves_begin mannered stands ?_
          rintro session rfl
          exact mayLaunch_of_starts sound fits (.begin session) mannered
  | deadline _ _ =>
      exact (isCalm_afterDeadline _ _ outcome).behaves mannered
  | expired _ _ =>
      exact (isCalm_afterExpiry _ outcome).behaves mannered
  | abandoned _ =>
      exact (isCalm_afterGivingUpOn _).behaves mannered
  | requested _ _ =>
      exact (isCalm_afterRequest _ _ _ _ outcome).behaves mannered
  | handshaken =>
      exact (decides_afterHandshake sound mannered told).behaves
  | reading _ =>
      exact (isCalm_afterBytes _ _ outcome).behaves mannered
  | handled _ =>
      exact (isCalm_afterMessage _ outcome).behaves mannered
  | @answering session method id =>
      have answered : IsCalm (afterHandler session method id outcome) Next.IsFree :=
        isCalm_of_light fun light held => retains_afterHandler light held session method id outcome
      exact answered.behaves mannered
  | @noted session method =>
      have followed : IsCalm (afterNotification session method outcome) Next.IsFree :=
        isCalm_of_light fun light held =>
          retains_afterNotification light held session method outcome
      exact followed.behaves mannered
  | draining _ =>
      exact (isCalm_afterErrors _ outcome).behaves mannered
  | shutDown _ =>
      exact behaves_afterShutdown mannered told
  | grace _ =>
      exact (isCalm_afterGrace _ outcome).behaves mannered
  | lastGrace _ _ =>
      exact (isCalm_afterLastGrace _ outcome).behaves mannered
  | closing _ _ =>
      exact (isCalm_afterClosing _ _ outcome).behaves mannered
  | spawned =>
      exact behaves_afterSpawn (mayLaunch_of_starts sound fits (.spawned _ _ _ _) mannered) _ _ _
        outcome
  | @greeted session _ =>
      exact behaves_afterGreeting mannered told fun failure => refused session failure rfl
  | gaveUp _ =>
      exact (isCalm_afterGivingUp _ outcome).behaves mannered
  | exited _ =>
      exact (isCalm_afterExit _ outcome).behaves mannered
  | killed _ =>
      exact (isCalm_afterKill _ outcome).behaves mannered
  | parted _ _ =>
      exact (isCalm_afterParting _ _ _ outcome).behaves mannered
  | plain isPlain =>
      -- A plain frame holds no rights, and so the hand is empty.
      have noRights : frame.rights = [] := by
        cases frame <;> first | rfl | exact isPlain.elim
      exact behaves_resumedPlain (noRights ▸ mannered) isPlain outcome

/-- What tells how a start of a client went has not failed after it introduced the client. -/
theorem refuses_resume
    {frame : Frame}
    {wanted : Topic}
    {outcome : Outcome}
    {session : Nat}
    (sound : station.Sound frame.tokens)
    (taken : station.Takes frame wanted (.greeting session))
    (told : station.Holds wanted outcome)
    (mannered : station.Mannered frame.rights)
    (stands : frame.MayStand station.chronicle) :
    (make (resume frame outcome) station).2.Refuses (make (resume frame outcome) station).1
      session := by
  generalize isGreeting : Topic.greeting session = given at taken
  cases taken with
  | @begin job _ =>
      cases job with
      | startClient other => exact stands.elim
      | _ => cases isGreeting
  | handshaken =>
      cases isGreeting
      exact (decides_afterHandshake sound mannered told).isRefused
  | deadline _ lapses => exact (isGreeting ▸ lapses).elim
  | expired _ lapses => exact (isGreeting ▸ lapses).elim
  | abandoned lapses => exact (isGreeting ▸ lapses).elim
  | _ => cases isGreeting

end Move

/-! ## Courteous stations -/

namespace Loop

variable {Frame : Type}

/-- Only the task that has just begun to wait may run on, with what it waited for. -/
theorem eq_of_running_await
    {loop : Loop Frame}
    {task promise other : Nat}
    {outcome : Outcome}
    (running : (loop.await task promise).running = some (other, outcome)) :
    other = task := by
  unfold await at running
  split at running
  · cases running
    rfl
  · split at running
    · split at running
      · rw [(grows_cancel _ promise).running] at running
        cases running
      · cases running
    · cases running

end Loop

namespace Station

variable {station after : Station} {task : Nat} {outcome : Outcome}

/-! ## Stations where clients are courteous -/

/-- A station at which clients keep manners, and where no start that goes on with a failure has
introduced its client. -/
structure Courteous (station : Station) : Prop extends station.Mannered [] where
  refused : ∀ task failure session rest,
    station.loop.running = some (task, .error failure) →
      station.loop.frames task = .greeted session :: rest → ¬station.IsInitialized session

/-- A task that does not run is not about to be told how a start went. -/
theorem Sound.not_greeted
    {hand : List Token}
    {stance : Stance Frame}
    {session : Nat}
    {rest : List Frame}
    (sound : station.Sound hand)
    (member : stance ∈ station.loop.stances)
    (aside : station.loop.IsAside stance.task) :
    stance.frames ≠ .greeted session :: rest := by
  intro isTop
  obtain ⟨goal, start, _, _, reaches, isTick, yields⟩ := sound.loop.rests stance member aside
  rw [isTop] at reaches
  obtain ⟨wanted, given, serves, taken, _⟩ := reaches
  cases taken with
  | greeted _ =>
      rcases serves with rfl | isWork
      · cases waits : stance.waitingOn with
        | none =>
            cases isTick waits
        | some promise =>
            cases yields promise waits with
            | told _ shared => exact shared
      · cases isWork
  | plain isPlain =>
      exact isPlain

/-- The frames of the running task are what they were when something happened beside it. -/
theorem Sound.frames_onward
    {hand other : List Token}
    (sound : station.Sound hand)
    (soundAfter : after.Sound other)
    (onward : station.Onward after)
    (running : station.loop.running = some (task, outcome)) :
    after.loop.frames task = station.loop.frames task := by
  obtain ⟨stance, member, rfl⟩ := sound.loop.running running
  rw [sound.loop.frames_of_mem member,
    soundAfter.loop.frames_of_mem (onward.grows.stances.subset member)]

/-- Clients stay courteous when something mannerly happens beside the running task that introduces
no client. -/
theorem Courteous.beside
    (courteous : station.Courteous)
    (poised : station.Poised)
    (comes : Move.Comes [] station after)
    (mannered : after.Mannered [])
    (introduces : ∀ session, after.IsInitialized session → station.IsInitialized session) :
    after.Courteous := by
  refine ⟨mannered, fun task failure session rest running isTop initialized => ?_⟩
  have ran := comes.onward.grows.running.symm.trans running
  have same := poised.toSound.frames_onward comes.sound comes.onward ran
  exact courteous.refused task failure session rest ran (same.symm.trans isTop)
    (introduces session initialized)

theorem Unspoken.introduces
    {session : Nat}
    (unspoken : station.Unspoken after)
    (initialized : after.IsInitialized session) :
    station.IsInitialized session :=
  not_not.mp fun refused => unspoken.not_isInitialized refused initialized

/-- Clients stay courteous when something calm happens beside the running task. -/
theorem Courteous.calm
    (courteous : station.Courteous)
    (poised : station.Poised)
    (comes : Move.Comes [] station after)
    (calm : station.Calm after) :
    after.Courteous :=
  courteous.beside poised comes (courteous.toMannered.unspoken calm.toUnspoken)
    fun _ => calm.toUnspoken.introduces

/-! ## Steps -/

theorem Courteous.takeTurn
    (courteous : station.Courteous)
    (poised : station.Poised)
    (nobody : station.loop.running = none) :
    (station.modifyLoop Loop.takeTurn).Courteous := by
  have frameStacks := station.loop.frameStacks_takeTurn
  have agrees : station.Agrees (station.modifyLoop Loop.takeTurn) := ⟨rfl, rfl, rfl, frameStacks⟩
  have turned := (poised.toSound.takeTurn nobody).1.toSound
  refine ⟨courteous.toMannered.unspoken agrees.calm.toUnspoken, ?_⟩
  intro task failure session rest running isTop
  -- The task that has just been woken waited until now, and so was not about to be told.
  obtain ⟨stance, member, rfl⟩ := turned.loop.running running
  have isStack : (stance.task, stance.frames) ∈ station.loop.frameStacks :=
    frameStacks ▸ Loop.mem_frameStacks.mpr ⟨stance, member, rfl, rfl⟩
  obtain ⟨old, wasThere, _, sameFrames⟩ := Loop.mem_frameStacks.mp isStack
  have greeted := (turned.loop.frames_of_mem member).symm.trans isTop
  exact (poised.toSound.not_greeted wasThere (Loop.isAside_of_running_eq_none nobody _)
    (sameFrames.trans greeted)).elim

theorem Courteous.finish
    (courteous : station.Courteous)
    (poised : station.Poised)
    (bare : station.loop.frames task = []) :
    (station.modifyLoop fun loop => loop.finish task outcome).Courteous := by
  have noFrames : ∀ stance ∈ station.loop.stances, stance.task = task → stance.frames = [] := by
    rintro stance member rfl
    exact (poised.toSound.loop.frames_of_mem member).symm.trans bare
  have frameStacks : ∀ stack ∈ (station.loop.finish task outcome).frameStacks,
      stack ∈ station.loop.frameStacks := by
    intro stack member
    rw [Loop.frameStacks_finish] at member
    exact (List.mem_filter.mp member).1
  refine ⟨courteous.toMannered.reloop ?_ fun stack member =>
    courteous.frames stack (frameStacks stack member), fun _ _ _ _ running => ?_⟩
  · rw [Loop.gathered_finish noFrames outcome Frame.rights]
  · cases running

/-- The running task lays its innermost frame down, with the rights that it held. -/
theorem Mannered.layDown
    {frame : Frame}
    {rest : List Frame}
    (mannered : station.Mannered [])
    (poised : station.Poised)
    (running : station.loop.running = some (task, outcome))
    (isTop : station.loop.frames task = frame :: rest) :
    (station.laid task rest).Mannered frame.rights ∧ frame.MayStand station.chronicle := by
  obtain ⟨stance, member, rfl⟩ := poised.toSound.loop.running running
  have sameFrames := (poised.toSound.loop.frames_of_mem member).symm.trans isTop
  have stands : ∀ known ∈ stance.frames, known.MayStand station.chronicle :=
    mannered.frames _ (Loop.mem_frameStacks.mpr ⟨stance, member, rfl, rfl⟩)
  rw [sameFrames] at stands
  refine ⟨mannered.reloop (Loop.perm_gathered_layDown poised.toSound.loop.distinct member
    sameFrames Frame.rights) fun stack isStack known isFrame => ?_, stands _ List.mem_cons_self⟩
  rw [Loop.frameStacks_setFrames] at isStack
  obtain ⟨old, wasThere, rfl⟩ := List.mem_map.mp isStack
  split at isFrame
  · exact stands known (List.mem_cons_of_mem frame isFrame)
  · exact mannered.frames old wasThere known isFrame

/-- The running task takes up the frames that come after the one that went on. -/
theorem Mannered.follow
    {hand : List Token}
    {next : Next}
    {rest : List Frame}
    (mannered : station.Mannered next.rights)
    (sound : station.Sound hand)
    (running : station.loop.running = some (task, outcome))
    (isRest : station.loop.frames task = rest)
    (stands : ∀ frame ∈ next.frames, frame.MayStand station.chronicle) :
    (station.follow task rest next).Mannered [] := by
  obtain ⟨stance, member, rfl⟩ := sound.loop.running running
  obtain rfl := (sound.loop.frames_of_mem member).symm.trans isRest
  have frameStacks := station.frameStacks_follow stance.task stance.frames next
  have takenUp := Loop.perm_gathered_takeUp sound.loop.distinct member next.frames Frame.rights
  refine mannered.reloop ?_ fun stack isStack known isFrame => ?_
  · unfold Loop.gathered at takenUp ⊢
    rw [List.nil_append]
    exact frameStacks ▸ takenUp
  · have isStack : stack ∈ (station.follow stance.task stance.frames next).loop.frameStacks :=
      isStack
    rw [frameStacks, Loop.frameStacks_setFrames] at isStack
    obtain ⟨old, wasThere, rfl⟩ := List.mem_map.mp isStack
    split at isFrame
    · rcases List.mem_append.mp isFrame with new | kept
      · exact stands known new
      · exact mannered.frames _ (Loop.mem_frameStacks.mpr ⟨stance, member, rfl, rfl⟩) known kept
    · exact mannered.frames old wasThere known isFrame

/-- Whoever is told how a start went takes what serves him. -/
theorem Reaches.eq_greeting
    {given goal : Topic}
    {session : Nat}
    {rest : List Frame}
    (reaches : station.Reaches given (.greeted session :: rest) goal) :
    given = .greeting session := by
  obtain ⟨wanted, _, serves, taken, _⟩ := reaches
  cases taken with
  | greeted _ =>
      rcases serves with same | isWork
      · exact same
      · cases isWork
  | plain isPlain =>
      exact isPlain.elim

/-- The running task goes on as its innermost frame said, and is not told of a failed start that has
introduced its client. -/
theorem courteous_follow
    {hand : List Token}
    {next : Next}
    {rest : List Frame}
    (mannered : station.Mannered next.rights)
    (sound : station.Sound hand)
    (running : station.loop.running = some (task, outcome))
    (isRest : station.loop.frames task = rest)
    (expects : station.Expects next)
    (refuses : ∀ session tail, rest = .greeted session :: tail → next.frames = [] →
      station.Refuses next session) :
    (station.follow task rest next).Courteous := by
  refine ⟨mannered.follow sound running isRest expects.frames, ?_⟩
  intro other failure session tail runs isTop
  have framed : (station.follow task rest next).loop.frames task = next.frames ++ rest :=
    sound.frames_follow running rest
  have isRefused : next.frames ++ rest = .greeted session :: tail →
      station.Refuses next session := by
    intro same
    cases isFrames : next.frames with
    | nil =>
        rw [isFrames] at same
        exact refuses session tail same isFrames
    | cons top others =>
        rw [isFrames] at same
        exact expects.refuses session others (isFrames.trans (congrArg (· :: others)
          (List.cons.inj same).1))
  obtain ⟨frames, pause⟩ := next
  cases pause with
  | give given =>
      cases runs
      obtain ⟨_, gives, refused⟩ := isRefused (framed.symm.trans isTop)
      cases gives
      exact refused failure rfl
  | await promise =>
      obtain rfl := Loop.eq_of_running_await runs
      obtain ⟨_, gives, _⟩ := isRefused (framed.symm.trans isTop)
      cases gives
  | yield =>
      cases runs

theorem Courteous.goOn
    {frame : Frame}
    {rest : List Frame}
    (courteous : station.Courteous)
    (poised : station.Poised)
    (running : station.loop.running = some (task, outcome))
    (isTop : station.loop.frames task = frame :: rest) :
    station.step.Courteous := by
  obtain ⟨turns, given, goal, resumes⟩ := poised.turns running isTop
  obtain ⟨wanted, taken, told⟩ := resumes.taken
  obtain ⟨laid, stands⟩ := courteous.toMannered.layDown poised running isTop
  have refused : ∀ session failure, frame = .greeted session → outcome = .error failure →
      ¬(station.laid task rest).IsInitialized session := by
    rintro session failure rfl rfl
    exact courteous.refused task failure session rest running isTop
  obtain ⟨mannered, expects⟩ :=
    Move.behaves_resume resumes.sound resumes.fits taken told laid stands refused
  have isRest : (station.moved task frame rest outcome).2.loop.frames task = rest :=
    (turns.laid.frames_onward turns.sound turns.onward running).trans
      (poised.toSound.frames_setFrames running rest)
  rw [turns.step]
  rw [List.append_nil] at mannered
  refine courteous_follow mannered turns.sound turns.running isRest expects ?_
  rintro session tail rfl _
  obtain rfl := resumes.later.eq_greeting
  exact Move.refuses_resume resumes.sound taken told laid stands

/-- Every step of a poised station leaves clients courteous. -/
theorem Courteous.step
    (courteous : station.Courteous)
    (poised : station.Poised) :
    station.step.Courteous := by
  cases running : station.loop.running with
  | none =>
      have turned := courteous.takeTurn poised running
      rwa [Station.step, running]
  | some known =>
      obtain ⟨task, outcome⟩ := known
      cases isTop : station.loop.frames task with
      | nil =>
          have finished : (station.modifyLoop fun loop => loop.finish task outcome).Courteous :=
            courteous.finish poised isTop
          rw [Station.step, running]
          dsimp only [Station.goOn]
          rwa [isTop]
      | cons frame rest =>
          exact courteous.goOn poised running isTop

end Station

end AnalyzerSessions
