import AnalyzerSessions.Proofs.ManifestReloads

namespace AnalyzerSessions

/-!
# Runs in which a manifest is saved

A task that saves a manifest tells the servers of the sessions that are concerned.  While
no session comes to run or ceases to, and the file leads to the same place, whatever else
happens does not change whom the task asks, and in what order.
-/

/-! ## Whom the saving of a manifest concerns -/

/-- Whether there is a session with a number, and it runs. -/
def Desk.isRunning (desk : Desk) (id : Nat) : Bool :=
  (desk.registry.get? id).any fun session => session.state == .running

theorem Desk.isConcerned_iff
    {desk : Desk}
    {place : Path}
    {id : Nat} :
    desk.isConcerned place id = true ↔ ∃ session, desk.registry.get? id = some session ∧
      session.state = .running ∧ ∀ root, session.root = some root → place.isWithin root := by
  rw [isConcerned, Option.any_eq_true]
  simp only [Bool.and_eq_true, beq_iff_eq, Option.all_eq_true]

/-- Sessions keep their roots, so whether one is concerned by a place can only change when it comes
to run or ceases to. -/
theorem Desk.isConcerned_of_lasts
    {before after : Desk}
    (lasts : before.ledger.Lasts after.ledger)
    (numbered : after.ledger.Numbered)
    {id : Nat}
    (sameRunning : after.isRunning id = before.isRunning id)
    (place : Path) :
    after.isConcerned place id = before.isConcerned place id := by
  cases found : before.registry.get? id with
  | none =>
      have notRunning : after.isRunning id = false := by
        rw [sameRunning, isRunning, found]
        rfl
      rw [isConcerned, isConcerned, found]
      cases foundNow : after.registry.get? id with
      | none =>
          rfl
      | some session =>
          rw [isRunning, foundNow, Option.any_some] at notRunning
          rw [Option.any_some, notRunning, Bool.false_and]
          rfl
  | some session =>
      obtain ⟨member, isId⟩ := Act.entry_of_get? found
      obtain ⟨now, isNow, sameId, sameRoot, _⟩ := lasts session.entry member
      obtain ⟨other, isOther, rfl⟩ := List.mem_map.mp isNow
      rw [Session.entry_root, Session.entry_root] at sameRoot
      have foundNow : after.registry.get? id = some other := by
        rw [← isId, ← show other.id = session.id from sameId]
        exact Act.get?_eq_some numbered isOther
      rw [isRunning, isRunning, found, foundNow, Option.any_some, Option.any_some] at sameRunning
      rw [isConcerned, isConcerned, found, foundNow, Option.any_some, Option.any_some, sameRunning,
        sameRoot]

/-- Where the sessions are left alone, a place concerns the same ones. -/
theorem Desk.LeavesSessions.isConcerned_eq
    {before after : Desk}
    (leaves : before.LeavesSessions after)
    (place : Path) :
    after.isConcerned place = before.isConcerned place := by
  funext id
  rw [isConcerned, leaves.registry]
  rfl

namespace Act

/-- Writing a file leaves the sessions alone. -/
theorem leavesSessions_writeFile (chosen : Option Int) : LeavesSessions (writeFile chosen) := by
  refine (leavesSessions_chosenBuffer chosen).bind fun number => ?_
  refine (reads_buffer number).leavesSessions.bind fun buffer => ?_
  split
  · exact leavesSessions_throw _
  · refine keepsTo_look fun desk => ?_
    split
    · exact leavesSessions_throw _
    · exact fun desk => ⟨.refl desk.host, rfl, rfl, rfl, List.Subset.refl _⟩

end Act

namespace Station

variable {initial start station after : Station} {task : Nat} {name : String} {place : Path}
  {deeds : List Occurrence}

/-- The servers of the sessions that a place concerns can be asked. -/
theorem InOrder.mayReload
    (inOrder : station.InOrder)
    (leads : station.desk.disk.resolve (Path.ofText name) = .ok place) :
    Move.MayReload place name station := by
  have sound := inOrder.poised.toSound
  refine ⟨sound.desk.silent, inOrder.isArmed, leads, fun id isConcerned => ?_⟩
  obtain ⟨session, found, runs⟩ := Desk.running_of_isConcerned isConcerned
  obtain ⟨member, isId⟩ := Act.entry_of_get? found
  have introduced : IsIntroduced station.chronicle id :=
    isId ▸ inOrder.mannered.running session.entry member runs
  cases isClient : station.client? id with
  | none =>
      exact (inOrder.mannered.unheard id isClient (Says.hasSpoken introduced)).elim
  | some client =>
      exact ⟨client, rfl, (sound.clientFits isClient).process⟩

/-- Since a file was about to be saved, no session has come to run or ceased to, and the file leads
where it led. -/
structure IsCalm (start : Station) (name : String) (place : Path) (station : Station) : Prop where
  running : ∀ id, station.desk.isRunning id = start.desk.isRunning id
  leads : station.desk.disk.resolve (Path.ofText name) = .ok place

/-- A task that begins to save a file writes it, and then tells whom it concerns. -/
theorem moved_write
    {chosen : Option Int}
    {desk : Desk}
    (silent : start.desk.orders = [])
    (written : Act.perform (Act.writeFile chosen) start.desk = (.ok name, desk))
    (task : Nat)
    (value : Value) :
    let fired := Move.make (Move.fire Move.writeEvent name) { start.laid task [] with desk }
    start.moved task (.begin (.write chosen)) [] (.ok value) =
      (fired.1.into .discarding, fired.2) := by
  have stillSilent : (start.laid task []).desk.orders = [] := silent
  have writes : Act.perform (Act.writeFile chosen) (start.laid task []).desk = (.ok name, desk) :=
    written
  intro fired
  rw [← Move.make_into]
  show Move.make (Move.writeBuffer chosen) (start.laid task []) = _
  rw [Move.make_eq, Move.perform_writeBuffer stillSilent, writes]
  rfl

/-- The servers can still be asked when the file has been written. -/
theorem mayReload_written
    {desk : Desk}
    (mayReload : Move.MayReload place name start)
    (leaves : start.desk.LeavesSessions desk)
    (uses : start.desk.UsesHost desk) :
    Move.MayReload place name { start with desk } where
  silent := List.subset_nil.mp (mayReload.silent ▸ leaves.orders)
  isArmed := mayReload.isArmed.kept leaves.keepsGroups
    (leaves.registry ▸ mayReload.isArmed.armed)
  leads := (uses.sameWays.resolve _).trans mayReload.leads
  talks id isConcerned := by
    have wasConcerned : start.desk.isConcerned place id = true :=
      leaves.isConcerned_eq place ▸ isConcerned
    exact mayReload.talks id wasConcerned

/-- A task that begins to save a file is about to tell whom it concerns. -/
theorem Stands.saves_write
    {chosen : Option Int}
    {value : Value}
    {desk : Desk}
    (begins : start.Stands task (some (.ok value)) [.begin (.write chosen)])
    (inOrder : start.InOrder)
    (written : Act.perform (Act.writeFile chosen) start.desk = (.ok name, desk))
    (leads : start.desk.disk.resolve (Path.ofText name) = .ok place)
    (bound : ∀ command ∈ start.desk.host.matching Move.writeEvent name,
      command.action.reloads?.isSome) :
    start.step.Saves task (start.desk.isConcerned place) name
      (concernedSessions (start.desk.isConcerned place)
        (start.desk.host.matching Move.writeEvent name))
      (start.deedsOf task start.step) := by
  have isDesk : Act.after (Act.writeFile chosen) start.desk = desk := congrArg Prod.snd written
  have leaves : start.desk.LeavesSessions desk :=
    isDesk ▸ Act.leavesSessions_writeFile chosen start.desk
  have uses : start.desk.UsesHost desk := isDesk ▸ Act.usesHost_writeFile chosen start.desk
  have sameCommands : desk.host.matching Move.writeEvent name =
      start.desk.host.matching Move.writeEvent name := by
    unfold Host.matching
    rw [leaves.host.autoCommands]
  rw [← sameCommands, ← leaves.isConcerned_eq place]
  rw [← sameCommands] at bound
  have mayReload := inOrder.mayReload leads
  have fires := Move.fires_fireAll (mayReload_written (mayReload.laid task []) leaves uses)
    (desk.host.matching Move.writeEvent name).length bound
  obtain ⟨given, stands, gives, recorded⟩ := begins.step inOrder.poised
  rw [moved_write mayReload.silent written] at stands gives recorded
  rw [List.append_nil] at stands
  obtain ⟨more, isMore, saves⟩ := saves_of_fires fires bound (List.nil_append _).symm .none
    stands gives
  rwa [recorded more isMore]

/-- A saving task stays in its ways as long as it is pursued. -/
theorem Pursuit.saves
    {ids : List Nat}
    (pursuit : Pursuit task (IsCalm start name place) start deeds after)
    (untouched : initial.IsUntouched)
    (run : TendedRun initial start)
    (saves : start.step.Saves task (start.desk.isConcerned place) name ids
      (start.deedsOf task start.step)) :
    TendedRun initial after ∧ start.Lasts after ∧ IsCalm start name place after ∧
      after.Saves task (start.desk.isConcerned place) name ids deeds := by
  induction pursuit with
  | begin isCalm =>
      exact ⟨run.next .step, (run.inOrder untouched).poised.step.2, isCalm, saves⟩
  | @next deeds station after earlier tends isCalm inductionHypothesis =>
      obtain ⟨runSoFar, lasted, wasCalm, savedSoFar⟩ := inductionHypothesis
      have inOrder := runSoFar.inOrder untouched
      have lasts := (inOrder.poised.happens (inOrder.poised.happensOf tends.advances.proceeds)).2
      have sameConcerned : station.desk.isConcerned place = start.desk.isConcerned place :=
        funext fun id => Desk.isConcerned_of_lasts lasted.sessions
          inOrder.poised.toSound.desk.numbered (wasCalm.running id) place
      rw [← sameConcerned] at savedSoFar ⊢
      exact ⟨runSoFar.next tends, lasted.trans lasts, isCalm, savedSoFar.tends
        inOrder.toAttentive inOrder.poised (inOrder.mayReload wasCalm.leads) tends⟩

end Station

/-- Whatever else happens after a manifest was saved, as long as no session comes to run or ceases
to: the sessions that the manifest concerns are the running ones that have no root or have its
place within their root.  Their servers are asked in turn, each after the one before has answered
with a value.  When the task is at its end all of them have been asked, each once, unless a
request has failed, which was the last one then. -/
theorem TendedRun.saved_manifest_reloads_in_turn
    {initial start after : Station}
    {task : Nat}
    {chosen : Option Int}
    {value : Value}
    {front : String}
    {place : Path}
    {desk : Desk}
    {deeds : List Occurrence}
    (untouched : initial.IsUntouched)
    (run : TendedRun initial start)
    (begins : start.Stands task (some (.ok value)) [.begin (.write chosen)])
    (written : Act.perform (Act.writeFile chosen) start.desk =
      (.ok (front ++ ("/" ++ manifestName)), desk))
    (leads : start.desk.disk.resolve (Path.ofText (front ++ ("/" ++ manifestName))) = .ok place)
    (onlyTriggers : ∀ command ∈ start.desk.host.matching Move.writeEvent
      (front ++ ("/" ++ manifestName)), command.action.reloads?.isSome)
    (pursuit : Station.Pursuit task (Station.IsCalm start (front ++ ("/" ++ manifestName)) place)
      start deeds after) :
    ∃ ids : List Nat, ids.Nodup ∧
      (∀ id, id ∈ ids ↔ ∃ session, start.desk.registry.get? id = some session ∧
        session.state = .running ∧ ∀ root, session.root = some root → place.isWithin root) ∧
      askedSessions deeds <+: ids ∧
      (after.IsGone task →
        (∀ id number failure, .settled id number (.error failure) ∉ deeds) →
        askedSessions deeds = ids) ∧
      ∃ ended, Reloads ids ended deeds ∧ (after.IsGone task → ended = true) := by
  have inOrder := run.inOrder untouched
  obtain ⟨distinct, isMember⟩ := inOrder.isArmed.concerned_matching front place
  have saves := begins.saves_write inOrder written leads onlyTriggers
  obtain ⟨ended, reloads, isEnded⟩ := (pursuit.saves untouched run saves).2.2.2.reloads
  refine ⟨_, distinct, fun id => (isMember id).trans Desk.isConcerned_iff,
    reloads.askedSessions_prefix, fun isGone noFailure => ?_, ended, reloads, isEnded⟩
  obtain rfl := isEnded isGone
  exact reloads.askedSessions_eq noFailure

/-! ## A manifest that is saved beside a running session -/

/-- Whether sessions run can be told from their numbers and states. -/
theorem Desk.isRunning_congr
    {desk other : Desk}
    (same : other.registry.sessions.map (fun session => (session.id, session.state)) =
      desk.registry.sessions.map fun session => (session.id, session.state))
    (id : Nat) :
    other.isRunning id = desk.isRunning id := by
  have told : ∀ known : Desk, known.isRunning id =
      ((known.registry.sessions.map fun session => (session.id, session.state)).find?
        fun told => told.1 == id).any fun told => told.2 == .running := by
    intro known
    rw [List.find?_map, Option.any_map]
    rfl
  rw [told, told, same]

/-- A buffer with a name is written to its file, if that can be written. -/
theorem Act.perform_writeFile
    {desk : Desk}
    {number : Int}
    {buffer : Buffer}
    (found : desk.host.buffer? number = some buffer)
    (named : buffer.name.isEmpty = false) :
    perform (writeFile (some number)) desk =
      match desk.disk.writeText (Path.ofText buffer.name) buffer.text with
      | .error error => (.error (.file error), desk)
      | .ok disk => (.ok buffer.name, { desk with disk }) := by
  have chosen : perform (chosenBuffer (some number)) desk = (.ok number, desk) := rfl
  unfold writeFile
  rw [perform_bind, chosen]
  dsimp only
  rw [perform_bind, perform_buffer, found]
  dsimp only
  rw [named]
  show perform (get >>= _) desk = _
  rw [perform_get_bind]
  cases desk.disk.writeText (Path.ofText buffer.name) buffer.text <;> rfl

/-- A disk without files, and the disk with an empty manifest. -/
theorem Disk.writeText_manifest :
    (⟨⟨[], .free⟩, []⟩ : Disk).writeText (.absolute [manifestName]) "" =
      .ok ⟨⟨[([manifestName], .file [])], .free⟩, []⟩ := by
  have plain : hasNull (.absolute [manifestName]) = false := by
    decide
  rw [writeText, update, plain]
  simp [locate, reach_of_free, denies_of_free, origin, FileTree.refusal?_of_free, Path.isAbsolute,
    Path.absolute, FileTree.walk, FileTree.entry?, FileTree.findEntry?, FileTree.put,
    FileTree.putEntry, Text.Utf8.encode, manifestName]

/-- A disk with nothing but a file has no links. -/
theorem FileTree.hasNoLinks_file
    (place : List String)
    (bytes : List UInt8) :
    HasNoLinks ⟨[(place, .file bytes)], .free⟩ := by
  intro parts target isLink
  unfold entry? at isLink
  split at isLink
  · cases isLink
  · unfold findEntry? at isLink
    split at isLink <;> cases isLink

/-- Nothing stands in the way of triggers at a bare desk. -/
theorem Desk.bare_isUntriggered : Desk.bare.IsUntriggered := by
  refine ⟨Host.isSound_empty, ⟨.bool true, by decide +kernel, by decide⟩, fun _ _ member => ?_,
    fun _ member => ?_⟩
  · exact (List.not_mem_nil member).elim
  · exact (List.not_mem_nil member).elim

namespace Station

/-- Nothing has happened at a vacant station. -/
theorem isUntouched_vacant
    (environment : Environment)
    (plans : List SpawnPlan) :
    (vacant environment plans).IsUntouched where
  toIsNew := isNew_vacant environment plans
  newDesk := ⟨rfl, rfl⟩
  untriggered := Desk.bare_isUntriggered
  builtIn := rfl

/-- A session runs without a root, and there is a buffer of an empty manifest. -/
def beforeSaving : Station :=
  { accepted with desk := { accepted.desk with
    host := (accepted.desk.host.addBuffer ("" ++ ("/" ++ manifestName)) "").2 } }

/-- A task is to save the manifest. -/
def savingBegun : Station :=
  beforeSaving.modifyLoop fun loop => (loop.spawn .work [.begin (.write (some 4))]).2

/-- The manifest is about to be saved. -/
def aboutToSave : Station :=
  savingBegun.step.step

theorem aboutToSave_stands :
    aboutToSave.Stands 7 (some (.ok (.json .null))) [.begin (.write (some 4))] := by
  have idle : ∀ station : Station, station.loop.running = none →
      station.step.loop.frameStacks = station.loop.frameStacks := by
    intro station nobody
    rw [Station.step, nobody]
    exact Loop.frameStacks_takeTurn station.loop
  obtain ⟨isNext, nobody, nobodyYet, running⟩ : beforeSaving.loop.promises.length = 7 ∧
      savingBegun.loop.running = none ∧ savingBegun.step.loop.running = none ∧
      aboutToSave.loop.running = some (7, .ok (.json .null)) := by
    decide +kernel
  have isThere : (7, [Frame.begin (.write (some 4))]) ∈ savingBegun.loop.frameStacks := by
    have spawned := beforeSaving.loop.frameStacks_spawn .work [.begin (.write (some 4))]
    rw [isNext] at spawned
    exact spawned ▸ List.mem_append_right _ List.mem_cons_self
  refine ⟨?_, Loop.given?_of_running running⟩
  rwa [aboutToSave, idle savingBegun.step nobodyYet, idle savingBegun nobody]

/-- The manifest is written to a disk without files. -/
theorem aboutToSave_written :
    aboutToSave.desk.disk = ⟨⟨[], .free⟩, []⟩ ∧
      Act.perform (Act.writeFile (some 4)) aboutToSave.desk = (.ok ("" ++ ("/" ++ manifestName)),
        { aboutToSave.desk with disk := ⟨⟨[([manifestName], .file [])], .free⟩, []⟩ }) := by
  obtain ⟨isEmpty, found⟩ : aboutToSave.desk.disk = ⟨⟨[], .free⟩, []⟩ ∧
      aboutToSave.desk.host.buffer? 4 = some ⟨4, "" ++ ("/" ++ manifestName), ""⟩ := by
    decide +kernel
  have named : ("" ++ ("/" ++ manifestName)).isEmpty = false := by
    decide +kernel
  have isName : Path.ofText ("" ++ ("/" ++ manifestName)) = .absolute [manifestName] := by
    decide +kernel
  have written : aboutToSave.desk.disk.writeText (Path.ofText ("" ++ ("/" ++ manifestName))) "" =
      .ok ⟨⟨[([manifestName], .file [])], .free⟩, []⟩ := by
    rw [isEmpty, isName]
    exact Disk.writeText_manifest
  refine ⟨isEmpty, (Act.perform_writeFile found named).trans ?_⟩
  dsimp only
  rw [written]

end Station

namespace TendedRun

variable {initial station : Station}

/-- Taking steps until nothing can go on is part of a run. -/
theorem settle (run : TendedRun initial station) : TendedRun initial station.settle :=
  (Station.holds_settleWithin (fun _ run => run.next .step) _ run).next .tidy

/-- Saving a manifest beside a running session is part of a run. -/
theorem aboutToSave : TendedRun (Station.vacant .bare []) Station.aboutToSave := by
  have launched : TendedRun (Station.vacant .bare []) (Station.launched .bare []) :=
    (begin.next (.start Station.terse none)).settle
  have accepted : TendedRun (Station.vacant .bare []) Station.accepted :=
    (launched.next (.server 1 (.send (Wire.frame Station.acceptedAnswer)))).settle
  have opened : TendedRun (Station.vacant .bare []) Station.beforeSaving := by
    obtain ⟨isEmpty, isNew⟩ : Station.accepted.desk.disk = ⟨⟨[], .free⟩, []⟩ ∧
        Station.accepted.desk.host.bufferNamed? (Path.absolute [manifestName]).text = none := by
      decide +kernel
    have leads : Station.accepted.desk.disk.resolve (.absolute [manifestName]) =
        .ok (.absolute [manifestName]) := by
      rw [isEmpty]
      exact Disk.resolve_plain (FileTree.hasNoLinks_empty _) (by decide)
    have opens : Station.accepted.desk.host.openBuffer Station.accepted.desk.disk
        (.absolute [manifestName]) (some "") false =
          .ok (Station.accepted.desk.host.nextId, Station.beforeSaving.desk.host) := by
      rw [Host.openBuffer, leads]
      dsimp only
      rw [isNew]
      rfl
    have kept : Station.accepted.desk.KeepsGroups Station.beforeSaving.desk :=
      ⟨.openBuffer opens, fun _ => rfl, rfl⟩
    exact accepted.next (.outside rfl rfl kept.spares)
  have saving : Station.beforeSaving.Tends Station.savingBegun :=
    @Station.AdvancesAmong.job _ _ (.write (some 4)) trivial id trivial trivial
  exact ((opened.next saving).next .step).next .step

/-- The manifest is written, and the session runs as before. -/
theorem aboutToSave_isCalm :
    Station.IsCalm Station.aboutToSave ("" ++ ("/" ++ manifestName)) (.absolute [manifestName])
      Station.aboutToSave.step := by
  have poised := (aboutToSave.inOrder (Station.isUntouched_vacant .bare [])).poised
  have stands := Station.aboutToSave_stands
  obtain ⟨turns, _⟩ := poised.turns stands.running (stands.frames_eq poised.toSound)
  have moved := Station.moved_write poised.toSound.desk.silent Station.aboutToSave_written.2 7
    (.json .null)
  have desks := congrArg Station.desk turns.step
  rw [Station.desk_follow, moved] at desks
  obtain ⟨sameStates, isSaved⟩ :
      Station.aboutToSave.step.desk.registry.sessions.map
        (fun session => (session.id, session.state)) =
          Station.aboutToSave.desk.registry.sessions.map
            (fun session => (session.id, session.state)) ∧
      Station.aboutToSave.step.desk.disk = ⟨⟨[([manifestName], .file [])], .free⟩, []⟩ := by
    rw [desks]
    decide +kernel
  have isName : Path.ofText ("" ++ ("/" ++ manifestName)) = .absolute [manifestName] := by
    decide +kernel
  refine ⟨Desk.isRunning_congr sameStates, ?_⟩
  rw [isSaved, isName]
  exact Disk.resolve_plain (FileTree.hasNoLinks_file _ _) (by decide)

/-- The server of a running session without a root is asked when a manifest is saved. -/
theorem running_session_is_asked :
    let name := "" ++ ("/" ++ manifestName)
    let place := Path.absolute [manifestName]
    let start := Station.aboutToSave
    (Station.vacant .bare []).IsUntouched ∧ TendedRun (Station.vacant .bare []) start ∧
      start.Stands 7 (some (.ok (.json .null))) [.begin (.write (some 4))] ∧
      (∃ desk, Act.perform (Act.writeFile (some 4)) start.desk = (.ok name, desk)) ∧
      start.desk.disk.resolve (Path.ofText name) = .ok place ∧
      (∀ command ∈ start.desk.host.matching Move.writeEvent name, command.action.reloads?.isSome) ∧
      ∃ deeds, Station.Pursuit 7 (Station.IsCalm start name place) start deeds start.step ∧
        ∃ ids, 1 ∈ ids ∧ ∃ ended, Reloads ids ended deeds := by
  intro name place start
  have untouched := Station.isUntouched_vacant .bare []
  have stands := Station.aboutToSave_stands
  obtain ⟨isEmpty, written⟩ := Station.aboutToSave_written
  have isName : Path.ofText name = place := by
    decide +kernel
  have leads : start.desk.disk.resolve (Path.ofText name) = .ok place := by
    rw [isEmpty, isName]
    exact Disk.resolve_plain (FileTree.hasNoLinks_empty _) (by decide)
  obtain ⟨bound, concerned⟩ : ((start.desk.host.matching Move.writeEvent name).all
      fun command => command.action.reloads?.isSome) = true ∧
        start.desk.isConcerned place 1 = true := by
    decide +kernel
  have onlyTriggers := List.all_eq_true.mp bound
  have pursuit : Station.Pursuit 7 (Station.IsCalm start name place) start _ start.step :=
    .begin aboutToSave_isCalm
  obtain ⟨ids, _, isMember, _, _, ended, reloads, _⟩ :=
    saved_manifest_reloads_in_turn untouched aboutToSave stands written leads onlyTriggers pursuit
  exact ⟨untouched, aboutToSave, stands, ⟨_, written⟩, leads, onlyTriggers, _, pursuit, ids,
    (isMember 1).mpr (Desk.isConcerned_iff.mp concerned), ended, reloads⟩

end TendedRun

end AnalyzerSessions
