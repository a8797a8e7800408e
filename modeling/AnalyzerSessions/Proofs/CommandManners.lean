import AnalyzerSessions.Proofs.ClientManners

namespace AnalyzerSessions

/-!
# Manners of commands

A command, and the saving of a manifest, talk to a server only when its session is
running.  Such a session has a client that is introduced, and was not told to stop.
What the built-in leaves send are other messages than those with which a conversation
begins and ends.
-/

/-- A session is running. -/
def Ledger.Runs (ledger : Ledger) (id : Nat) : Prop :=
  ∃ entry ∈ ledger.entries, entry.id = id ∧ entry.state = .running

/-- A method that has no part in the beginning or the end of a conversation. -/
def IsOrdinary (method : String) : Prop :=
  method ∉ ["initialize", "initialized", "shutdown", "exit"]

instance (method : String) : Decidable (IsOrdinary method) :=
  inferInstanceAs (Decidable (method ∉ ["initialize", "initialized", "shutdown", "exit"]))

theorem IsOrdinary.rights
    {method : String}
    (ordinary : IsOrdinary method)
    (session : Nat) :
    methodRights session method = [] := by
  simp only [IsOrdinary, List.mem_cons, List.not_mem_nil, or_false, not_or] at ordinary
  obtain ⟨_, noAcceptance, noShutdown, noExit⟩ := ordinary
  rw [methodRights, if_neg noAcceptance, if_neg noShutdown, if_neg noExit]

namespace Act

variable {α β : Type}

/-! ## What commands are about -/

theorem running_of_lastRunning?
    {sessions : List Session}
    {session : Session}
    (found : lastRunning? sessions = some session) :
    session ∈ sessions ∧ session.state = .running := by
  obtain ⟨member, runs⟩ := List.mem_filter.mp (List.mem_of_getLast? found)
  exact ⟨member, by simpa using runs⟩

theorem runs_of_lastRunning?
    {desk : Desk}
    {name : Option String}
    {buffer : Option Int}
    {session : Session}
    (found : lastRunning? (desk.registry.active name buffer) = some session) :
    desk.ledger.Runs session.id := by
  obtain ⟨isActive, runs⟩ := running_of_lastRunning? found
  obtain ⟨id, _, isSession⟩ := List.mem_filterMap.mp (List.mem_filter.mp isActive).1
  exact ⟨session.entry, (entry_of_get? isSession).1, rfl, runs⟩

/-- A command goes to a session that is running. -/
theorem runs_of_targetSession
    {desk : Desk}
    {session : Session}
    (gave : (perform targetSession desk).1 = .ok session) :
    desk.ledger.Runs session.id := by
  unfold targetSession at gave
  obtain ⟨number, _, same⟩ := ok_of_bind gave
  rw [same] at gave
  rw [← keeps_currentBuffer desk]
  generalize after currentBuffer desk = mid at gave
  rw [perform_get_bind] at gave
  dsimp only at gave
  split at gave
  · rename_i found
    cases gave
    exact runs_of_lastRunning? found
  · split at gave
    · rename_i found
      cases gave
      exact runs_of_lastRunning? found
    · cases gave

/-- A saved manifest concerns only a session that is running. -/
theorem runs_of_concernsManifest
    {desk : Desk}
    {id : Nat}
    {file : Path}
    (concerned : (perform (concernsManifest id file) desk).1 = .ok true) :
    desk.ledger.Runs id := by
  unfold concernsManifest at concerned
  rw [perform_get_bind] at concerned
  split at concerned
  · cases concerned
  · rename_i session found
    split at concerned
    · cases concerned
    · rename_i running
      obtain ⟨member, sameId⟩ := entry_of_get? found
      exact ⟨session.entry, member, sameId, not_not.mp running⟩

/-- What an act gives, at whatever desk, is as said. -/
def Tells (act : Act α) (gives : α → Prop) : Prop :=
  ∀ desk value, (perform act desk).1 = .ok value → gives value

theorem tells_pure
    {value : α}
    {gives : α → Prop}
    (given : gives value) :
    Tells (pure value) gives := by
  intro _ other same
  cases same
  exact given

theorem tells_bind
    {act : Act α}
    {next : α → Act β}
    {gives : β → Prop}
    (tells : ∀ value, Tells (next value) gives) :
    Tells (act >>= next) gives := by
  intro desk result gave
  obtain ⟨value, _, same⟩ := ok_of_bind gave
  exact tells value _ result (same ▸ gave)

theorem tells_leafMessage
    (session : Session)
    (action : LeafAction)
    (arguments : List Json) :
    Tells (leafMessage session action arguments) fun message => IsOrdinary message.method := by
  have reload : IsOrdinary "rust-analyzer/reloadWorkspace" := by decide
  have flyCheck : IsOrdinary "rust-analyzer/runFlycheck" := by decide
  have crateGraph : IsOrdinary "rust-analyzer/viewCrateGraph" := by decide
  have syntaxTree : IsOrdinary "rust-analyzer/syntaxTree" := by decide
  have openManifest : IsOrdinary "experimental/openCargoToml" := by decide
  have runnables : IsOrdinary "experimental/runnables" := by decide
  cases action with
  | reloadWorkspace =>
      exact tells_bind fun _ => tells_pure reload
  | flyCheck =>
      exact tells_bind fun _ => tells_pure flyCheck
  | crateGraph =>
      unfold leafMessage
      dsimp only
      split
      · exact tells_bind fun _ => tells_pure crateGraph
      · exact tells_pure crateGraph
  | syntaxTree =>
      exact tells_bind fun _ => tells_pure syntaxTree
  | openManifest =>
      exact tells_bind fun _ => tells_pure openManifest
  | runnables =>
      exact tells_bind fun _ => tells_pure runnables
  | supplied code =>
      have nothing : IsOrdinary "" := by decide
      exact tells_pure nothing

end Act

namespace Station

theorem Ledger.SameSessions.entries
    {before after : Ledger}
    (sameSessions : before.SameSessions after) :
    after.entries = before.entries := by
  rw [sameSessions.same]

theorem isLight_entries (holds : List LedgerEntry → Prop) :
    IsLight fun station => holds station.desk.ledger.entries where
  papers same kept := Ledger.SameSessions.entries same ▸ kept
  record _ := id
  promise := id
  timers := id
  react {station} number message kept := by
    have sameDesk : (station.react number message).desk = station.desk :=
      (station.agrees_react number message).desk
    rw [sameDesk]
    exact kept
  raise _ := id
  lower _ := id

theorem isLight_mannered (hand : List Right) : IsLight (Station.Mannered hand) :=
  isLight_of_calm fun calm mannered => mannered.unspoken calm.toUnspoken

theorem IsLight.and
    {first second : Station → Prop}
    (one : IsLight first)
    (other : IsLight second) :
    IsLight fun station => first station ∧ second station where
  papers same both := ⟨one.papers same both.1, other.papers same both.2⟩
  record silent both := ⟨one.record silent both.1, other.record silent both.2⟩
  promise both := ⟨one.promise both.1, other.promise both.2⟩
  timers both := ⟨one.timers both.1, other.timers both.2⟩
  react number message both := ⟨one.react number message both.1, other.react number message both.2⟩
  raise session both := ⟨one.raise session both.1, other.raise session both.2⟩
  lower session both := ⟨one.lower session both.1, other.lower session both.2⟩

/-- A command may talk to the server of a session. -/
def MayTalk (station : Station) (session : Nat) : Prop :=
  station.Mannered [] ∧ station.desk.ledger.Runs session

theorem isLight_mayTalk (session : Nat) : IsLight fun station => station.MayTalk session :=
  (isLight_mannered []).and (isLight_entries fun entries =>
    ∃ entry ∈ entries, entry.id = session ∧ entry.state = .running)

/-- Sessions have numbers also when the orders were taken away. -/
theorem numbered_cleared
    (station : Station)
    (numbered : station.desk.ledger.Numbered) :
    ({ station.desk with orders := [] } : Desk).ledger.Numbered :=
  ⟨numbered.distinct, numbered.below, numbered.listedDistinct, numbered.listedKnown, nofun⟩

variable {station : Station} {session : Nat}

/-- The client of a session that is running may ask its server for something ordinary. -/
theorem MayTalk.request
    {method : String}
    (mayTalk : station.MayTalk session)
    (ordinary : IsOrdinary method)
    (number : Nat)
    (params : Json) :
    MaySay station.chronicle session (Move.requestMessage number method params) := by
  obtain ⟨mannered, entry, member, rfl, runs⟩ := mayTalk
  have serves : entry.state.isServing = true := by
    rw [runs]
    rfl
  refine .request (mannered.running entry member runs) (fun special => ordinary ?_)
    (mannered.goesOn member serves)
  simp only [List.mem_cons, List.not_mem_nil, or_false] at special ⊢
  tauto

/-- The client of a session that is running may tell its server something ordinary. -/
theorem MayTalk.notification
    {method : String}
    (mayTalk : station.MayTalk session)
    (ordinary : IsOrdinary method)
    (params : Json) :
    MaySay station.chronicle session (Move.notificationMessage method params) := by
  obtain ⟨mannered, entry, member, rfl, runs⟩ := mayTalk
  exact .notification (mannered.running entry member runs) ordinary

end Station

namespace Move

variable {α : Type} {station : Station} {session : Nat}

theorem retains_atDesk_telling
    {holds : Station → Prop}
    {act : Act α}
    (light : Station.IsLight holds)
    (held : holds station)
    (spares : act.Spares) :
    Retains holds station (atDesk act) fun value _ =>
      (Act.perform act { station.desk with orders := [] }).1 = .ok value := by
  refine ⟨(retains_atDesk light held spares).1, fun value gave => ?_⟩
  rwa [perform_atDesk spares] at gave

theorem retains_connection
    {holds : Station → Prop}
    (held : holds station)
    (member : String) :
    Retains holds station (connection session member) fun _ _ => True := by
  refine retains_get ?_
  split
  · exact retains_pure held trivial
  · exact retains_throw held

/-! ## Leaves -/

/-- A leaf of a session that is running asks its server. -/
theorem behaves_sendRequest
    {method : String}
    (mayTalk : station.MayTalk session)
    (ordinary : IsOrdinary method)
    (params : Json) :
    Behaves [] station (sendRequest session method params) := by
  have connects : Retains (Station.MayTalk · session) station (connection session "send_request")
      fun _ _ => True := retains_connection mayTalk _
  refine connects.bindBehaves (fun _ both => both.1) fun connection mid mayTalk _ => ?_
  cases connection with
  | client =>
      have mannered : mid.Mannered (methodRights session method ++ []) := by
        rw [ordinary.rights]
        exact mayTalk.1
      exact (retains_request .null mannered fun client _ =>
        mayTalk.request ordinary _ params).behaves
  | prepared responses =>
      exact ((isCalm_observe _).bind fun _ _ => isCalm_value _).behaves mayTalk.1

/-- A leaf of a session that is running tells its server something. -/
theorem behaves_sendNotification
    {method : String}
    (mayTalk : station.MayTalk session)
    (ordinary : IsOrdinary method)
    (params : Json) :
    Behaves [] station (sendNotification session method params) := by
  have connects : Retains (Station.MayTalk · session) station
      (connection session "send_notification") fun _ _ => True := retains_connection mayTalk _
  refine connects.bindBehaves (fun _ both => both.1) fun connection mid mayTalk _ => ?_
  cases connection with
  | client =>
      have mannered : mid.Mannered (methodRights session method ++ []) := by
        rw [ordinary.rights]
        exact mayTalk.1
      have told : Retains (Station.Mannered []) mid (notify session method params)
          fun next _ => next.IsFree := by
        unfold Retains
        obtain ⟨failure, refused⟩ | ⟨after, told, spoken⟩ :=
          notify_spoken mannered (mayTalk.notification ordinary params)
        · rw [refused]
          exact ⟨mayTalk.1, nofun⟩
        · rw [told]
          refine ⟨spoken, fun next same => ?_⟩
          cases same
          exact Next.isFree_of_noFrames _
      exact told.behaves
  | prepared responses =>
      exact ((isCalm_observe _).bind fun _ _ => isCalm_done).behaves mayTalk.1

/-- A leaf of a session that is running sends an ordinary message, or runs supplied code. -/
theorem behaves_runAction
    (mayTalk : station.MayTalk session)
    (arguments : List Json)
    (action : LeafAction) :
    Behaves [] station (runAction session arguments action) := by
  have light := Station.isLight_mayTalk session
  have manners : ∀ after : Station, after.MayTalk session → after.Mannered [] :=
    fun _ both => both.1
  have talks : ∀ mid : Station, mid.MayTalk session → Behaves [] mid (do
      let known ← Move.session session
      let message ← atDesk (Act.leafMessage known action arguments)
      if message.isRequest then
        into (sendRequest session message.method message.params) (.leafAnswered action)
      else sendNotification session message.method message.params) := by
    intro mid mayTalk
    refine (retains_session mayTalk session).bindBehaves manners fun known _ mayTalk _ => ?_
    have spares := (Act.keeps_leafMessage known action arguments).spares
    refine (retains_atDesk_telling light mayTalk spares).bindBehaves manners ?_
    intro message after mayTalk gave
    have ordinary := Act.tells_leafMessage known action arguments _ message gave
    split
    · have asks : Behaves ((Frame.leafAnswered action).rights ++ []) after
          (sendRequest session message.method message.params) :=
        behaves_sendRequest mayTalk ordinary _
      exact asks.into (fun _ => trivial) nofun
    · exact behaves_sendNotification mayTalk ordinary _
  unfold runAction
  split
  · exact (isCalm_callCode _ arguments).behaves mayTalk.1
  · split
    · exact (retains_connection mayTalk _).bindBehaves manners fun _ mid mayTalk _ =>
        talks mid mayTalk
    · exact talks station mayTalk

theorem behaves_runLeaf
    (mayTalk : station.MayTalk session)
    (leaf : String)
    (arguments : List Json) :
    Behaves [] station (runLeaf session leaf arguments) := by
  have spares := (Act.keeps_leafAction leaf arguments.length).spares
  exact (retains_atDesk (Station.isLight_mayTalk session) mayTalk spares).bindBehaves
    (fun _ both => both.1) fun action mid mayTalk _ => behaves_runAction mayTalk arguments action

/-! ## Commands -/

/-- Something is found out at the desk that makes a session one that is running. -/
theorem behaves_atDesk_of_runs
    {act : Act α}
    {next : α → Move Next}
    (mannered : station.Mannered [])
    (spares : act.Spares)
    (follows : ∀ value mid, mid.Mannered [] →
      (∀ id, ({ station.desk with orders := [] } : Desk).ledger.Runs id →
        mid.desk.ledger.Runs id) →
      (Act.perform act { station.desk with orders := [] }).1 = .ok value →
      Behaves [] mid (next value)) :
    Behaves [] station (atDesk act >>= next) := by
  have light := (Station.isLight_mannered []).and
    (Station.isLight_entries fun entries => entries = station.desk.ledger.entries)
  refine (retains_atDesk_telling light ⟨mannered, rfl⟩ spares).bindBehaves (fun _ both => both.1) ?_
  rintro value mid ⟨mannered, same⟩ gave
  refine follows value mid mannered (fun id runs => ?_) gave
  unfold Ledger.Runs
  rw [same]
  exact runs

/-- A manifest that was saved makes a session reload its workspace if it is running. -/
theorem behaves_reloadFor
    (mannered : station.Mannered [])
    (session : Nat)
    (file : String) :
    Behaves [] station (reloadFor session file) := by
  have spares := (Act.keeps_concernsManifest session (Path.ofText file)).spares
  refine behaves_atDesk_of_runs mannered spares fun concerned mid mannered runs gave => ?_
  cases concerned with
  | true =>
      exact behaves_runLeaf ⟨mannered, runs session (Act.runs_of_concernsManifest gave)⟩ _ _
  | false =>
      exact isCalm_done.behaves mannered

theorem retains_start
    (mannered : station.Mannered [])
    (overrides : Config.Entries Setting)
    (buffer : Option Int) :
    Retains (Station.Mannered []) station (atDesk (Act.start overrides buffer)) fun _ _ => True :=
  retains_atDesk_of_mannerly mannered
    (Act.isMannerlyAt_start (station.numbered_cleared mannered.numbered) overrides buffer)

theorem retains_stop
    (mannered : station.Mannered [])
    (buffer : Option Int) :
    Retains (Station.Mannered []) station (atDesk (Act.stop buffer)) fun _ _ => True :=
  retains_atDesk_of_mannerly mannered
    (Act.isMannerlyAt_stop (station.numbered_cleared mannered.numbered) buffer)

/-- What a command stands for is done in a mannerly way. -/
theorem behaves_run
    (mannered : station.Mannered [])
    (arguments : List Json)
    (action : Action) :
    Behaves [] station (run arguments action) := by
  cases action with
  | start =>
      exact (retains_start mannered [] none).bindBehaves (fun _ => id)
        fun _ _ mannered _ => (isCalm_give _).behaves mannered
  | stop =>
      exact (retains_stop mannered none).bindBehaves (fun _ => id)
        fun _ _ mannered _ => (isCalm_give _).behaves mannered
  | leaf binding =>
      refine behaves_atDesk_of_runs mannered Act.keeps_targetSession.spares ?_
      intro target mid mannered runs gave
      exact behaves_runLeaf ⟨mannered, runs target.id (Act.runs_of_targetSession gave)⟩ _ _
  | reload session =>
      exact behaves_reloadFor mannered session _
  | supplied code =>
      exact (isCalm_callCode code arguments).behaves mannered

theorem behaves_runCommand
    (mannered : station.Mannered [])
    (name : String)
    (arguments : List Json) :
    Behaves [] station (runCommand name arguments) := by
  refine behaves_get ?_
  split
  · have thrown : ∀ failure, IsCalm (throw failure : Move Next) Next.IsFree := isCalm_throw
    exact (thrown _).behaves mannered
  · exact behaves_run mannered arguments _

/-! ## Auto-commands -/

theorem behaves_fireAll
    (mannered : station.Mannered [])
    (path : String)
    (count : Nat)
    (commands : List (AutoCommand Action)) :
    Behaves [] station (fireAll path count commands) := by
  cases commands with
  | nil =>
      exact (isCalm_value _).behaves mannered
  | cons command rest =>
      have runs : Behaves ((Frame.firing rest path count).rights ++ []) station
          (run [.str path] command.action) :=
        behaves_run mannered _ _
      exact runs.into (fun _ => trivial) nofun

theorem behaves_fire
    (mannered : station.Mannered [])
    (event file : String) :
    Behaves [] station (fire event file) :=
  behaves_get (behaves_fireAll mannered file _ _)

theorem behaves_afterFiring
    (mannered : station.Mannered [])
    (rest : List (AutoCommand Action))
    (path : String)
    (count : Nat)
    (outcome : Outcome) :
    Behaves [] station (afterFiring rest path count outcome) := by
  cases outcome with
  | ok value =>
      exact behaves_fireAll mannered path count rest
  | error failure =>
      exact (isCalm_fail failure).behaves mannered

/-- Saving a buffer runs auto-commands. -/
theorem behaves_writeBuffer
    (mannered : station.Mannered [])
    (chosen : Option Int) :
    Behaves [] station (writeBuffer chosen) := by
  have light := Station.isLight_mannered []
  refine (retains_atDesk light mannered (Act.keeps_chosenBuffer chosen).spares).bindBehaves
    (fun _ => id) fun number mid mannered _ => ?_
  refine (retains_atDesk light mannered (Act.reads_buffer number).keeps.spares).bindBehaves
    (fun _ => id) fun buffer after mannered _ => ?_
  have thrown : ∀ failure, IsCalm (throw failure : Move Next) Next.IsFree := isCalm_throw
  split
  · exact (thrown _).behaves mannered
  · refine behaves_get ?_
    split
    · exact (thrown _).behaves mannered
    · rename_i disk _
      have written : ({ after with desk := { after.desk with disk } } : Station).Mannered [] :=
        light.papers (Ledger.SameSessions.refl after.desk.ledger) mannered
      have fires : Behaves ((Frame.discarding).rights ++ [])
          { after with desk := { after.desk with disk } } (fire writeEvent buffer.name) :=
        behaves_fire written _ _
      exact fires.into (fun _ => trivial) fun _ same => by cases same

/-! ## Checks -/

theorem behaves_check
    (mannered : station.Mannered [])
    (path : Path)
    (timeout : Json) :
    Behaves [] station (check path timeout) := by
  have opened := retains_atDesk (Station.isLight_mannered []) mannered
    (Act.spares_openBuffer path none true)
  refine opened.bindBehaves (fun _ => id) fun buffer mid mannered _ => ?_
  refine (retains_start mannered [] (some buffer)).bindBehaves (fun _ => id) ?_
  intro started after mannered _
  cases started with
  | none =>
      exact isCalm_done.behaves mannered
  | some session =>
      exact IsCalm.behaves ((isCalm_awaitReady session timeout).into trivial) mannered

theorem behaves_afterCheckedReady
    (mannered : station.Mannered [])
    (session : Nat)
    (buffer : Int)
    (outcome : Outcome) :
    Behaves [] station (afterCheckedReady session buffer outcome) := by
  cases outcome with
  | error failure =>
      exact (isCalm_fail failure).behaves mannered
  | ok value =>
      refine (retains_session mannered session).bindBehaves (fun _ => id) ?_
      intro known mid mannered _
      refine (retains_stop mannered (some buffer)).bindBehaves (fun _ => id) ?_
      intro _ after mannered _
      exact IsCalm.behaves ((isCalm_awaitClosed session).into trivial) mannered

end Move

end AnalyzerSessions
