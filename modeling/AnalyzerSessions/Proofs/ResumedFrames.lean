import AnalyzerSessions.Proofs.RunRules
import AnalyzerSessions.Station.Check
import AnalyzerSessions.Station.Step

namespace AnalyzerSessions.Move

/-!
# Frames that go on

Whatever frame goes on with an outcome of the topic that it takes, it keeps the
station sound and leads to the topic that it gives.
-/

/-!
## Rules for commands and checks

What the host asks for comes to some end, and keeps a station sound until then.
-/

section

variable {hand : List Token} {station : Station}

/-! ## Leaves -/

/-- Running a leaf comes to some end. -/
theorem leads_runAction
    (sound : station.Sound hand)
    (id : Nat)
    (arguments : List Json)
    (action : LeafAction) :
    Leads hand station (runAction id arguments action) .work := by
  have runs : ∀ mid, Comes hand station mid → Leads hand mid (do
      let session ← session id
      let message ← atDesk (Act.leafMessage session action arguments)
      if message.isRequest then
        into (sendRequest id message.method message.params) (.leafAnswered action)
      else sendNotification id message.method message.params) .work := by
    intro mid comes
    refine (keeps_session comes.sound id).leads ?_ fun _ _ _ _ => trivial
    rintro session _ later ⟨rfl, _⟩
    have spares := (Act.keeps_leafMessage session action arguments).spares
    refine (keeps_atDesk_of_spares later.sound spares).leads ?_ fun _ _ _ _ => trivial
    intro message after last _
    split
    · exact (leads_sendRequest last.sound id _ _).into_free (.refl .work)
        (fun _ _ => .plain trivial) rfl
    · exact leads_sendNotification last.sound id _ _
  unfold runAction
  split
  · exact leads_callCode sound _ arguments
  · split
    · exact (keeps_connection sound id _).leads (fun _ mid comes _ => runs mid comes)
        fun _ _ _ _ => trivial
    · exact runs station (.refl sound)

/-- Running a leaf by its name comes to some end. -/
theorem leads_runLeaf
    (sound : station.Sound hand)
    (session : Nat)
    (leaf : String)
    (arguments : List Json) :
    Leads hand station (runLeaf session leaf arguments) .work := by
  have spares := (Act.keeps_leafAction leaf arguments.length).spares
  refine (keeps_atDesk_of_spares sound spares).leads ?_ fun _ _ _ _ => trivial
  exact fun action mid comes _ => leads_runAction comes.sound session arguments action

/-- After the answer to a leaf there is some end. -/
theorem leads_afterLeaf
    (sound : station.Sound hand)
    (action : LeafAction)
    (outcome : Outcome) :
    Leads hand station (afterLeaf action outcome) .work := by
  unfold afterLeaf
  split
  · split
    · exact leads_give sound trivial
    · exact leads_give sound trivial
  · exact leads_give sound trivial

/-- Reloading a workspace comes to some end. -/
theorem leads_reloadFor
    (sound : station.Sound hand)
    (session : Nat)
    (file : String) :
    Leads hand station (reloadFor session file) .work := by
  have spares := (Act.keeps_concernsManifest session (Path.ofText file)).spares
  refine (keeps_atDesk_of_spares sound spares).leads ?_ fun _ _ _ _ => trivial
  intro concerned mid comes _
  split
  · exact leads_runLeaf comes.sound session _ _
  · exact leads_give comes.sound trivial

/-! ## Commands -/

theorem keeps_start
    (sound : station.Sound hand)
    (buffer : Option Int) :
    Keeps hand station (atDesk (Act.start [] buffer)) (fun _ _ => True) fun _ => True :=
  (keeps_atDesk sound (Act.isSafeAt_start sound.desk.numbered sound.desk.silent [] buffer)).imp
    (fun _ _ _ _ => trivial) fun _ _ => trivial

theorem keeps_stop
    (sound : station.Sound hand)
    (buffer : Option Int) :
    Keeps hand station (atDesk (Act.stop buffer)) (fun _ _ => True) fun _ => True :=
  (keeps_atDesk sound (Act.isSafeAt_stop sound.desk.numbered sound.desk.silent buffer)).imp
    (fun _ _ _ _ => trivial) fun _ _ => trivial

/-- What a command stands for comes to some end. -/
theorem leads_run
    (sound : station.Sound hand)
    (arguments : List Json)
    (action : Action) :
    Leads hand station (run arguments action) .work := by
  cases action with
  | start =>
      exact (keeps_start sound none).leads (fun _ _ comes _ => leads_give comes.sound trivial)
        fun _ _ _ _ => trivial
  | stop =>
      exact (keeps_stop sound none).leads (fun _ _ comes _ => leads_give comes.sound trivial)
        fun _ _ _ _ => trivial
  | leaf binding =>
      refine (keeps_atDesk_of_spares sound Act.keeps_targetSession.spares).leads ?_
        fun _ _ _ _ => trivial
      exact fun session _ comes _ => leads_runLeaf comes.sound session.id _ _
  | reload session =>
      exact leads_reloadFor sound session _
  | supplied code =>
      exact leads_callCode sound code arguments

/-- A command of the host comes to some end. -/
theorem leads_runCommand
    (sound : station.Sound hand)
    (name : String)
    (arguments : List Json) :
    Leads hand station (runCommand name arguments) .work := by
  refine leads_get ?_
  split
  · exact leads_throw sound trivial
  · exact leads_run sound arguments _

/-- A handler of a session comes to some end. -/
theorem leads_runHandler
    (sound : station.Sound hand)
    (id : Nat)
    (method : String)
    (params : Json) :
    Leads hand station (runHandler id method params) .work := by
  refine (keeps_session sound id).leads ?_ fun _ _ _ _ => trivial
  rintro session _ _ ⟨rfl, _⟩
  split
  · exact leads_throw sound trivial
  · exact (keeps_callHandler sound session params _).leads_next fun _ _ _ => trivial

/-! ## Auto-commands -/

/-- Auto-commands that run one after the other come to some end. -/
theorem leads_fireAll
    (sound : station.Sound hand)
    (path : String)
    (count : Nat)
    (commands : List (AutoCommand Action)) :
    Leads hand station (fireAll path count commands) .work := by
  cases commands with
  | nil =>
      exact leads_give sound trivial
  | cons command rest =>
      exact (leads_run sound _ _).into_free (.refl .work) (fun _ _ => .plain trivial) rfl

/-- The auto-commands of an event come to some end. -/
theorem leads_fire
    (sound : station.Sound hand)
    (event file : String) :
    Leads hand station (fire event file) .work :=
  leads_get (leads_fireAll sound file _ _)

/-- After an auto-command the others follow, or there is some end. -/
theorem leads_afterFiring
    (sound : station.Sound hand)
    (rest : List (AutoCommand Action))
    (path : String)
    (count : Nat)
    (outcome : Outcome) :
    Leads hand station (afterFiring rest path count outcome) .work := by
  cases outcome with
  | ok value =>
      exact leads_fireAll sound path count rest
  | error failure =>
      exact leads_give sound trivial

/-- Writing a buffer comes to some end. -/
theorem leads_writeBuffer
    (sound : station.Sound hand)
    (chosen : Option Int) :
    Leads hand station (writeBuffer chosen) .work := by
  refine (keeps_atDesk_of_spares sound (Act.keeps_chosenBuffer chosen).spares).leads ?_
    fun _ _ _ _ => trivial
  intro number mid comes _
  refine (keeps_atDesk_of_spares comes.sound (Act.reads_buffer number).keeps.spares).leads ?_
    fun _ _ _ _ => trivial
  intro buffer after later _
  split
  · exact leads_throw_bind later.sound trivial
  · refine leads_get ?_
    split
    · exact leads_throw later.sound trivial
    · rename_i disk _
      have written := comes_changeDisk later.sound disk
      exact leads_change written ((leads_fire written.sound writeEvent buffer.name).into_free
        (.refl .work) (fun _ _ => .plain trivial) rfl)

/-- After a discarded outcome there is some end. -/
theorem leads_afterDiscarded
    (sound : station.Sound hand)
    (outcome : Outcome) :
    Leads hand station (afterDiscarded outcome) .work := by
  cases outcome <;> exact leads_give sound trivial

/-! ## Checks -/

/-- A check comes to some end. -/
theorem leads_check
    (sound : station.Sound hand)
    (path : Path)
    (timeout : Json) :
    Leads hand station (check path timeout) .work := by
  refine (keeps_atDesk_of_spares sound (Act.spares_openBuffer path none true)).leads ?_
    fun _ _ _ _ => trivial
  intro buffer mid comes _
  refine (keeps_start comes.sound (some buffer)).leads ?_ fun _ _ _ _ => trivial
  intro started after later _
  cases started with
  | none =>
      exact leads_give later.sound trivial
  | some session =>
      exact (leads_awaitReady later.sound session timeout).into_free (.refl .work)
        (fun _ _ => .plain trivial) rfl

/-- A checked session is stopped when it is ready or not. -/
theorem leads_afterCheckedReady
    (sound : station.Sound hand)
    (id : Nat)
    (buffer : Int)
    (outcome : Outcome) :
    Leads hand station (afterCheckedReady id buffer outcome) .work := by
  cases outcome with
  | error failure =>
      exact leads_give sound trivial
  | ok value =>
      refine (keeps_session sound id).leads ?_ fun _ _ _ _ => trivial
      rintro session _ _ ⟨rfl, _⟩
      refine (keeps_stop sound (some buffer)).leads ?_ fun _ _ _ _ => trivial
      intro _ mid comes _
      exact (leads_awaitClosed comes.sound id).into_free (.refl .work)
        (fun _ _ => .plain trivial) rfl

/-- After a checked session is closed there is some end. -/
theorem leads_afterCheckedClosed
    (sound : station.Sound hand)
    (report : Json)
    (outcome : Outcome) :
    Leads hand station (afterCheckedClosed report outcome) .work := by
  cases outcome <;> exact leads_give sound trivial

end

/-! ## Frames that go on -/

variable {station : Station}

/-- A job leads to what its outcome tells. -/
theorem leads_begin
    {job : Job}
    (sound : station.Sound (Frame.begin job).tokens)
    (fits : station.FrameFits (.begin job))
    (admitted : station.Admits job)
    (mayClose : job.topic ≠ .draining → station.MayClose) :
    Leads [] station (begin job) job.topic := by
  cases job with
  | request session method params timeout =>
      exact leads_request sound session method params timeout
  | notify session method params =>
      exact leads_notify sound session method params
  | awaitExit process =>
      exact leads_awaitExit sound admitted
  | awaitFlag signpost =>
      exact leads_awaitFlag sound signpost
  | readMessages session =>
      exact leads_readOn sound admitted .initial
  | drainErrors session =>
      exact leads_drainOn sound admitted
  | startClient session =>
      exact leads_startClient sound admitted
  | stopClient session =>
      exact leads_stopClient sound session
  | closeClient session =>
      exact leads_closeClientIfAny sound session (mayClose nofun)
  | handleMessage session message =>
      exact leads_handleMessage sound session message
  | runServer session =>
      exact leads_runServer sound (mayClose nofun) (fits.early session (.begin session))
  | awaitReady session timeout =>
      exact leads_awaitReady sound session timeout
  | awaitQuiescent session timeout =>
      exact leads_awaitQuiescent sound session timeout
  | awaitClosed session =>
      exact leads_awaitClosed sound session
  | command name arguments =>
      exact leads_runCommand sound name arguments
  | leaf session leaf arguments =>
      exact leads_runLeaf sound session leaf arguments
  | handler session method params =>
      exact leads_runHandler sound session method params
  | fire event file =>
      exact leads_fire sound event file
  | write buffer =>
      exact leads_writeBuffer sound buffer
  | check path timeout =>
      exact leads_check sound path timeout

/-- A job that is not the run of a server ends with a cancellation when it is cancelled before it
begins, and a run is forsaken then. -/
theorem leads_cancelledJob
    {job : Job}
    (sound : station.Sound (Frame.begin job).tokens) :
    Leads [] station (resume (.begin job) .cancelled) job.topic := by
  cases job with
  | runServer session =>
      exact leads_forsake sound (.inl rfl)
  | _ =>
      exact leads_give sound (Station.holds_cancelled id)

/-- A job goes on as its first turn says. -/
theorem leads_resumedJob
    {job : Job}
    {outcome : Outcome}
    (sound : station.Sound (Frame.begin job).tokens)
    (fits : station.FrameFits (.begin job))
    (admitted : station.Admits job)
    (mayClose : job.topic ≠ .draining → station.MayClose)
    (quiet : outcome.IsQuiet) :
    Leads [] station (resume (.begin job) outcome) job.topic := by
  cases outcome with
  | ok value =>
      have begun : resume (.begin job) (.ok value) = begin job := by
        cases job <;> rfl
      rw [begun]
      exact leads_begin sound fits admitted mayClose
  | error failure =>
      cases quiet failure rfl
      exact leads_cancelledJob sound

/-- A plain frame comes to some end. -/
theorem leads_resumedPlain
    {frame : Frame}
    (sound : station.Sound frame.tokens)
    (isPlain : frame.IsPlain)
    (outcome : Outcome) :
    Leads [] station (resume frame outcome) .work := by
  cases frame with
  | readySettled session deadline =>
      exact leads_afterSettling sound session deadline outcome
  | readyQuiescent session =>
      exact leads_afterReadiness sound session outcome
  | becameQuiescent session =>
      exact leads_afterQuiescent sound session outcome
  | ignoringCancellation =>
      exact leads_afterCancellation sound outcome
  | slept code arguments time =>
      exact leads_afterSleep sound code arguments time outcome
  | leafAnswered action =>
      exact leads_afterLeaf sound action outcome
  | firing rest path count =>
      exact leads_afterFiring sound rest path count outcome
  | discarding =>
      exact leads_afterDiscarded sound outcome
  | checkedReady session buffer =>
      exact leads_afterCheckedReady sound session buffer outcome
  | checkedClosed report =>
      exact leads_afterCheckedClosed sound report outcome
  | _ =>
      exact isPlain.elim

/-- A frame that goes on with what it takes leads to what it gives. -/
theorem leads_resume
    {frame : Frame}
    {wanted given : Topic}
    {outcome : Outcome}
    (sound : station.Sound frame.tokens)
    (fits : station.FrameFits frame)
    (taken : station.Takes frame wanted given)
    (told : station.Holds wanted outcome)
    (mayClose : given ≠ .draining → station.MayClose) :
    Leads [] station (resume frame outcome) given := by
  cases taken with
  | begin admitted =>
      exact leads_resumedJob sound fits admitted mayClose told
  | deadline isTold lapses =>
      exact leads_afterDeadline sound isTold lapses _ outcome
  | expired isTold lapses =>
      exact leads_afterExpiry sound isTold lapses told
  | abandoned lapses =>
      exact leads_afterGivingUpOn sound lapses _
  | requested _ sent =>
      exact leads_afterRequest sound told ⟨_, sent⟩ _
  | handshaken =>
      exact leads_afterHandshake sound _ outcome
  | reading present =>
      exact leads_afterBytes sound present told _
  | handled present =>
      exact leads_afterMessage sound present told
  | answering =>
      exact leads_afterHandler sound _ _ _ outcome
  | noted =>
      exact leads_afterNotification sound _ _ outcome
  | draining present =>
      exact leads_afterErrors sound present outcome
  | shutDown present =>
      exact leads_afterShutdown sound present outcome
  | grace talks =>
      exact leads_afterGrace sound talks told
  | lastGrace talks signalled =>
      exact leads_afterLastGrace sound talks signalled told
  | closing present quiet =>
      exact leads_afterClosing sound present (mayClose nofun) quiet told
  | spawned =>
      exact leads_afterSpawn sound (mayClose nofun) (fits.early _ (.spawned _ _ _ _)) _ _ _ told
  | greeted present =>
      exact leads_afterGreeting sound (mayClose nofun) present outcome
  | gaveUp present =>
      exact leads_afterGivingUp sound (mayClose nofun) present told
  | exited talks =>
      exact leads_afterExit sound (mayClose nofun) talks told
  | killed talks wasKilled =>
      exact leads_afterKill sound (mayClose nofun) talks wasKilled told
  | parted talks parts =>
      exact leads_afterParting sound talks parts told
  | plain isPlain =>
      exact leads_resumedPlain sound isPlain outcome

/-- A frame that drains a log and is cancelled ends with that cancellation. -/
theorem make_resume_of_drains
    {hand : List Token}
    {frame : Frame}
    (sound : station.Sound hand)
    (drains : station.Drains frame) :
    (make (resume frame .cancelled) station).1 = .give .cancelled := by
  cases drains with
  | begin _ =>
      rfl
  | @draining session present =>
      have changed : Keeps hand station
          (modifyErrors session fun channel => { channel with reader := none })
          (fun _ _ => True) fun _ => False := by
        refine keeps_modifyErrors sound present fun channel _ promise reads => ?_
        cases reads
      obtain ⟨_, _, _, _, same⟩ := changed.make_bind fun _ => endDraining session .cancelled
      exact congrArg Prod.fst same

end AnalyzerSessions.Move
