import AnalyzerSessions.Proofs.FailedStarts
import AnalyzerSessions.Proofs.GroupWays
import AnalyzerSessions.Proofs.NearestRoots

namespace AnalyzerSessions

/-!
# Sources of dependencies

The source of a dependency is served by the serving session that was registered last.
The session is looked up twice: to find the root of the file, the latest serving session
is asked for its root, and to find the session, the serving sessions are asked for that
root.  Both look from the last session backwards, so that they come to the same one.

A session that is stopping or stopped does not serve.  When none serves, or the latest
one has no root, the file is treated like any other.
-/

/-! ## The latest session -/

/-- The last one of the registered sessions that serve under a name. -/
structure Registry.IsLatest (registry : Registry) (name : String) (session : Session) : Prop where
  serves : session.name = name ∧ session.state.isServing
  last : ∃ earlier later, registry.registered = earlier ++ session :: later ∧
    ∀ other ∈ later, ¬(other.name = name ∧ other.state.isServing)

namespace Registry

variable {registry : Registry} {name : String} {session : Session}

/-- The serving sessions are those registered sessions that serve under the name. -/
theorem serving_eq_filter
    (registry : Registry)
    (name : String) :
    registry.serving (some name) = registry.registered.filter fun session =>
      session.name = name ∧ session.state.isServing := by
  unfold serving active
  rw [List.filter_filter]
  apply List.filter_congr
  intro session _
  rw [Bool.eq_iff_iff]
  simp only [fits, SessionState.isServing, Option.all_some, Option.all_none, Bool.and_eq_true,
    decide_eq_true_eq, beq_iff_eq]
  tauto

theorem IsLatest.serving
    (latest : registry.IsLatest name session) :
    ∃ earlier, registry.serving (some name) = earlier ++ [session] := by
  obtain ⟨serves, earlier, later, split, noneLater⟩ := latest
  have noneServes : later.filter (fun session => session.name = name ∧ session.state.isServing) =
      [] := List.filter_eq_nil_iff.mpr (by simpa using noneLater)
  refine ⟨earlier.filter fun session => session.name = name ∧ session.state.isServing, ?_⟩
  rw [serving_eq_filter, split, List.filter_append, List.filter_cons_of_pos (by simpa using serves),
    noneServes]

/-- The only session is the latest one if it serves. -/
theorem isLatest_alone
    {id : Nat}
    (isSession : session.id = id)
    (isNamed : session.name = name)
    (serves : session.state.isServing) :
    (Registry.mk [session] [id]).IsLatest name session := by
  refine ⟨⟨isNamed, serves⟩, [], [], ?_, by simp⟩
  simp [registered, get?, isSession]

/-- The latest session is the one that is found last. -/
theorem isLatest_iff :
    registry.IsLatest name session ↔ registry.latest? (some name) = some session := by
  constructor
  · intro latest
    obtain ⟨earlier, isServing⟩ := latest.serving
    simp [latest?, isServing]
  · intro found
    obtain ⟨earlier, isServing⟩ := List.getLast?_eq_some_iff.mp found
    rw [serving_eq_filter, List.filter_eq_append_iff] at isServing
    obtain ⟨front, back, split, _, isLast⟩ := isServing
    obtain ⟨between, later, rfl, _, serves, noneLater⟩ := List.filter_eq_cons_iff.mp isLast
    refine ⟨by simpa using serves, front ++ between, later, by simp [split], ?_⟩
    simpa using List.filter_eq_nil_iff.mp noneLater

/-- The root of the latest session leads back to it. -/
theorem IsLatest.find?
    (latest : registry.IsLatest name session) :
    registry.find? name session.root = some session := by
  obtain ⟨earlier, isServing⟩ := latest.serving
  simp [Registry.find?, isServing]

end Registry

namespace Act

/-- The source of a dependency is rooted where the latest serving session is. -/
theorem perform_libraryRoot_of_isLatest
    {desk : Desk}
    {place root : Path}
    {session : Session}
    (isLibrary : desk.setup.toolchain.isLibrary desk.disk place = .ok true)
    (latest : desk.registry.IsLatest desk.setup.served session)
    (rooted : session.root = some root) :
    ∃ log, perform (libraryRoot place) desk = (.ok (some root), { desk with log }) := by
  unfold libraryRoot
  rw [perform_get_bind, perform_ofExcept_bind, isLibrary]
  dsimp only
  rw [if_pos rfl, Registry.isLatest_iff.mp latest]
  dsimp only
  rw [rooted]
  exact ⟨_, rfl⟩

/-- A start for the root of the latest serving session attaches the buffer to that session and does
nothing else. -/
theorem perform_startAt_of_isLatest
    {desk : Desk}
    {session : Session}
    (latest : desk.registry.IsLatest serverName session)
    (server : Config.Entries Setting)
    (number : Int) :
    ∃ log, perform (startAt server session.root number) desk = (.ok session.id, { desk with
      registry := desk.registry.modify session.id fun current => current.attach number
      log }) := by
  unfold startAt
  rw [perform_get_bind, latest.find?]
  exact ⟨_, rfl⟩

/-- The settings of a new server can be read. -/
def ReadsServer (desk : Desk) : Prop :=
  ∃ server, (perform (serverSettings []) desk).1 = .ok server

theorem perform_bufferName
    {desk : Desk}
    {number : Int}
    {buffer : Buffer}
    (isOpen : desk.host.buffer? number = some buffer) :
    perform (bufferName number) desk = (.ok buffer.name, desk) := by
  unfold bufferName Act.buffer
  rw [perform_bind, perform_get_bind, isOpen]
  rfl

/-- A start for a file whose root is found goes on with that root. -/
theorem perform_startWith_of_found
    {resolve : Path → Act (Option Path)}
    {overrides server : Config.Entries Setting}
    {desk later : Desk}
    {number : Int}
    {buffer : Buffer}
    {root : Path}
    (isRead : (perform (serverSettings overrides) desk).1 = .ok server)
    (isOpen : desk.host.buffer? number = some buffer)
    (named : buffer.name ≠ "")
    (found : perform (resolve (.ofText buffer.name)) desk = (.ok (some root), later)) :
    perform (startWith resolve overrides (some number)) desk =
      perform (startAt server (some root) number >>= fun id => pure (some id)) later := by
  have isFile : buffer.name.isEmpty = false := by simpa using named
  have foundFor : perform (rootFor resolve buffer.name) desk = (.ok (some root), later) := by
    rw [rootFor, isFile, if_neg Bool.false_ne_true, found]
  have chosen : perform (chosenBuffer (some number)) desk = (.ok number, desk) := rfl
  have rooted : perform (lacksRoot (some root)) later = (.ok false, later) := rfl
  unfold startWith
  rw [perform_bind, chosen]
  dsimp only
  rw [perform_bind_of_ok isRead, reads_serverSettings, perform_bind, perform_bufferName isOpen]
  dsimp only
  rw [perform_bind, foundFor]
  dsimp only
  rw [perform_bind, rooted]
  dsimp only
  rw [if_neg Bool.false_ne_true]

/-- A start of the source of a dependency attaches its buffer to the latest serving session. -/
theorem perform_start_of_isLatest
    {desk : Desk}
    {number : Int}
    {buffer : Buffer}
    {place root : Path}
    {session : Session}
    (reads : ReadsServer desk)
    (isOpen : desk.host.buffer? number = some buffer)
    (named : buffer.name ≠ "")
    (resolved : desk.disk.resolve (.ofText buffer.name) = .ok place)
    (isLibrary : desk.setup.toolchain.isLibrary desk.disk place = .ok true)
    (served : desk.setup.served = serverName)
    (latest : desk.registry.IsLatest serverName session)
    (rooted : session.root = some root) :
    ∃ log, perform (startWith resolveRoot [] (some number)) desk =
      (.ok (some session.id), { desk with
        registry := desk.registry.modify session.id fun current => current.attach number
        log }) := by
  obtain ⟨server, isRead⟩ := reads
  obtain ⟨log, isRooted⟩ :=
    perform_libraryRoot_of_isLatest isLibrary (served ▸ latest) rooted
  have found : perform (resolveRoot (.ofText buffer.name)) desk =
      (.ok (some root), { desk with log }) := by
    unfold resolveRoot
    rw [perform_bind, perform_resolvePath resolved]
    dsimp only
    rw [perform_bind, isRooted]
    rfl
  obtain ⟨laterLog, joined⟩ :=
    @perform_startAt_of_isLatest { desk with log } session latest server number
  rw [rooted] at joined
  refine ⟨laterLog, ?_⟩
  rw [perform_startWith_of_found isRead isOpen named found, perform_bind, joined]
  rfl

end Act

/-! ## The settings of a server during a run -/

/-- The configuration stays as it is. -/
def Desk.KeepsSetup (before after : Desk) : Prop :=
  after.setup = before.setup

theorem Desk.isWay_keepsSetup : Desk.IsWay Desk.KeepsSetup where
  refl _ := rfl
  trans first second := Eq.trans second first

namespace Act

theorem KeepsTo.keepsSetup
    {α : Type}
    {act : Act α}
    (keeps : KeepsTo Desk.KeepsGroups act) :
    KeepsTo Desk.KeepsSetup act :=
  fun desk => (keeps desk).setup

theorem keepsSetup_onInit (id : Nat) : KeepsTo Desk.KeepsSetup (onInit id) :=
  fun desk => (keepsAspect_onInit Aspect.isFree_nothing id desk).setup

theorem keepsSetup_onExit
    (id : Nat)
    (code : Json) :
    KeepsTo Desk.KeepsSetup (onExit id code) :=
  fun desk => (keepsAspect_onExit Aspect.isFree_nothing id code desk).setup

end Act

/-- What goes on around a manager leaves its configuration alone. -/
structure Surroundings.KeepsSetup (around : Surroundings) : Prop where
  resolves : ∀ path, Act.KeepsTo Desk.KeepsGroups (around.resolve path)
  outside : ∀ before after, around.outside before after → before.KeepsSetup after

section

variable {around : Surroundings} {initial desk : Desk} {calls : List Call}

theorem Call.keepsSetup
    (keeps : around.KeepsSetup)
    (call : Call)
    (desk : Desk) :
    desk.KeepsSetup (call.after around desk) := by
  cases call with
  | start overrides buffer =>
    exact (Act.keepsGroups_startWith keeps.resolves overrides buffer).keepsSetup desk
  | stop buffer => exact (Act.keepsGroups_stop buffer).keepsSetup desk
  | initialized id => exact Act.keepsSetup_onInit id desk
  | exited id code => exact Act.keepsSetup_onExit id code desk

/-- The configuration is the same at every desk of a run. -/
theorem ManagerRun.keepsSetup
    (keeps : around.KeepsSetup)
    (run : ManagerRun around initial calls desk) :
    initial.KeepsSetup desk := by
  induction run with
  | begin => rfl
  | call earlier call possible inductionHypothesis =>
    exact Desk.isWay_keepsSetup.trans inductionHypothesis (call.keepsSetup keeps _)
  | outside earlier happened inductionHypothesis =>
    exact Desk.isWay_keepsSetup.trans inductionHypothesis (keeps.outside _ _ happened)

/-- Settings that can be read with something merged in can be read without it. -/
theorem Act.ReadsServer.of_overrides
    {overrides server : Config.Entries Setting}
    (gave : (perform (serverSettings overrides) desk).1 = .ok server) :
    ReadsServer desk := by
  unfold ReadsServer
  unfold serverSettings at gave ⊢
  rw [perform_get_bind, perform_ofExcept_bind] at gave ⊢
  split at gave
  · rename_i given _
    have isMerged : ∃ merged, Config.merge? given.named [some []] = some merged := by
      cases merging : Config.merge? given.named [some overrides] with
      | none =>
        rw [merging] at gave
        cases gave
      | some merged =>
        have shallow : ¬Config.maxDepth ≤ Config.depthOfEntries given.named := by
          intro deep
          simp [Config.merge?, deep] at merging
        have empty : ¬Config.maxDepth ≤ Config.depthOfEntries ([] : Config.Entries Setting) := by
          simp [Config.maxDepth, Config.depthOfEntries]
        simp [Config.merge?, shallow, empty]
    obtain ⟨merged, isMerged⟩ := isMerged
    rw [isMerged]
    exact ⟨merged, rfl⟩
  · cases gave

theorem Act.ReadsServer.congr
    {other : Desk}
    (reads : ReadsServer desk)
    (same : desk.KeepsSetup other) :
    ReadsServer other := by
  obtain ⟨server, isRead⟩ := reads
  exact ⟨server, (serverSettings_congr same []).trans isRead⟩

/-- A start that enters a session has read the settings of its server. -/
theorem Act.readsServer_of_start
    {resolve : Path → Act (Option Path)}
    (overrides : Config.Entries Setting)
    (buffer : Option Int) :
    ReadsServer desk ∨ (after (startWith resolve overrides buffer) desk).ledger = desk.ledger := by
  have openedSame : (after (chosenBuffer buffer) desk).ledger = desk.ledger :=
    keeps_chosenBuffer buffer desk
  apply after_bind_of fun left => ReadsServer desk ∨ left.ledger = desk.ledger
  · exact fun _ _ => .inr openedSame
  intro number _
  apply after_bind_of fun left => ReadsServer desk ∨ left.ledger = desk.ledger
  · intro _ _
    rw [reads_serverSettings]
    exact .inr openedSame
  · intro server isRead
    rw [serverSettings_congr (setup_chosenBuffer buffer desk)] at isRead
    exact .inl (.of_overrides isRead)

/-- Only a start enters a session. -/
theorem Call.sessions_eq_nil
    {call : Call}
    (isOther : ∀ overrides buffer, call ≠ .start overrides buffer)
    (vacant : desk.registry.sessions = []) :
    (call.after around desk).registry.sessions = [] := by
  have noSession : ∀ id, desk.registry.get? id = none := by
    simp [Registry.get?, vacant]
  cases call with
  | start overrides buffer => exact absurd rfl (isOther overrides buffer)
  | stop buffer =>
    have sameRegistry : (Act.after (Act.chosenBuffer buffer) desk).registry = desk.registry := by
      cases buffer <;> rfl
    have noneActive : ∀ number, (Act.after (Act.chosenBuffer buffer) desk).registry.active
        (some serverName) (some number) = [] := by
      intro number
      simp [sameRegistry, Registry.active, Registry.registered, Registry.get?, vacant]
    show (Act.after (Act.stop buffer) desk).registry.sessions = []
    apply Act.after_bind_of fun left => left.registry.sessions = []
    · exact fun _ _ => sameRegistry ▸ vacant
    · intro number _
      rw [Act.after_get_bind, noneActive]
      exact sameRegistry ▸ vacant
  | initialized id =>
    show (Act.after (Act.onInit id) desk).registry.sessions = []
    unfold Act.onInit
    rw [Act.after_get_bind, noSession]
    exact vacant
  | exited id code =>
    show (Act.after (Act.onExit id code) desk).registry.sessions = []
    unfold Act.onExit
    rw [Act.after_get_bind, noSession]
    exact vacant

/-- As long as there are sessions, the settings of their servers can be read. -/
theorem ManagerRun.readsServer
    (new : initial.IsNew)
    (keeps : around.KeepsSetup)
    (run : ManagerRun around initial calls desk) :
    desk.registry.sessions = [] ∨ Act.ReadsServer desk := by
  have sessionsOf : ∀ {before after : Desk}, after.ledger.entries = before.ledger.entries →
      before.registry.sessions = [] → after.registry.sessions = [] := by
    intro before after same vacant
    have noEntries : before.ledger.entries = [] := List.map_eq_nil_iff.mpr vacant
    exact List.map_eq_nil_iff.mp (same.trans noEntries)
  induction run with
  | begin => exact .inl (by simp [new.vacant, Registry.empty])
  | @call calls desk earlier call possible inductionHypothesis =>
    have sameSetup := call.keepsSetup keeps desk
    obtain vacant | reads := inductionHypothesis
    · by_cases isStart : ∃ overrides buffer, call = .start overrides buffer
      · obtain ⟨overrides, buffer, rfl⟩ := isStart
        obtain reads | same := Act.readsServer_of_start overrides buffer
        · exact .inr (reads.congr sameSetup)
        · exact .inl (sessionsOf (congrArg Ledger.entries same) vacant)
      · exact .inl (Call.sessions_eq_nil
          (fun overrides buffer same => isStart ⟨overrides, buffer, same⟩) vacant)
    · exact .inr (reads.congr sameSetup)
  | outside earlier happened inductionHypothesis =>
    obtain vacant | reads := inductionHypothesis
    · have same := (around.apart _ _ happened).same
      exact .inl (sessionsOf (by rw [same]) vacant)
    · exact .inr (reads.congr (keeps.outside _ _ happened))

/-- A start of the source of a dependency gives the latest serving session, when that has a root:
it attaches the buffer to it and changes no other session, asks no probe and launches no server.
Otherwise the file has the root of an ordinary file. -/
theorem ManagerRun.library_file_joins_latest_session
    (new : initial.IsNew)
    (served : initial.setup.served = serverName)
    (standard : around.resolve = Act.resolveRoot)
    (outside : ∀ before after, around.outside before after → before.KeepsSetup after)
    (run : ManagerRun around initial calls desk)
    {number : Int}
    {buffer : Buffer}
    {place : Path}
    (isOpen : desk.host.buffer? number = some buffer)
    (named : buffer.name ≠ "")
    (resolved : desk.disk.resolve (.ofText buffer.name) = .ok place)
    (isLibrary : desk.setup.toolchain.isLibrary desk.disk place = .ok true) :
    (∀ session root, desk.registry.IsLatest serverName session → session.root = some root →
      session.state ≠ .stopping ∧ session.state ≠ .stopped ∧
      ∃ log, Act.perform (Act.startWith around.resolve [] (some number)) desk =
        (.ok (some session.id), { desk with
          registry := desk.registry.modify session.id fun current => current.attach number
          log })) ∧
    ((∀ session, desk.registry.IsLatest serverName session → session.root = none) →
      ∃ log, Act.perform (Act.resolveRoot (.ofText buffer.name)) desk =
        Act.perform (Act.ordinaryRoot place) { desk with log }) := by
  have keeps : around.KeepsSetup := ⟨standard ▸ Act.keepsGroups_resolveRoot, outside⟩
  have stillServed : desk.setup.served = serverName := by
    rw [run.keepsSetup keeps, served]
  constructor
  · intro session root latest rooted
    have serves := latest.serves.2
    have known : desk.registry.sessions ≠ [] := by
      obtain ⟨earlier, later, split, _⟩ := latest.last
      intro vacant
      have none : desk.registry.registered = [] := by
        simp [Registry.registered, Registry.get?, vacant]
      simp [none] at split
    have reads := (run.readsServer new keeps).resolve_left known
    refine ⟨?_, ?_, ?_⟩
    · intro stopping
      simp [stopping, SessionState.isServing] at serves
    · intro stopped
      simp [stopped, SessionState.isServing, SessionState.isActive] at serves
    · rw [standard]
      exact Act.perform_start_of_isLatest reads isOpen named resolved isLibrary stillServed latest
        rooted
  · intro rootless
    refine Act.perform_resolveRoot_of_isOrdinaryFile resolved ⟨isLibrary, fun _ session latest => ?_⟩
    rw [stillServed] at latest
    exact rootless session (Registry.isLatest_iff.mpr latest)

end

/-- A desk with a file of a crate and a source of a dependency. -/
def Desk.reading : Desk :=
  { Desk.crated (.crated []) with
    host := { Host.empty with
      buffers := [⟨1, "/w/lib.rs", ""⟩, ⟨2, "/cargo/registry/src/x.rs", ""⟩], nextId := 3 } }

theorem Desk.reading_resolves
    {parts : List String}
    (plain : ∀ name ∈ parts, Disk.IsPlainName name) :
    Desk.reading.disk.resolve (.absolute parts) = .ok (.absolute parts) :=
  Disk.resolve_plain Disk.hasNoLinks_crated plain

/-- The file of the crate is rooted at the workspace around it. -/
theorem Desk.reading_finds_root :
    ∃ questions log, Act.perform (Act.resolveRoot (.ofText "/w/lib.rs")) Desk.reading =
      (.ok (some (.absolute [])), { Desk.reading with questions, log }) := by
  have resolved : Desk.reading.disk.resolve (.ofText "/w/lib.rs") = .ok (.absolute ["w", "lib.rs"]) :=
    reading_resolves (by decide)
  have decided : Desk.reading.setup.toolchain.isLibrary Desk.reading.disk
      (.absolute ["w", "lib.rs"]) = .ok false :=
    Act.crated_isLibrary Disk.hasNoLinks_crated _
  obtain ⟨log, isOrdinary⟩ := Act.perform_resolveRoot_of_isOrdinaryFile resolved ⟨decided, nofun⟩
  have searches := @Disk.canSearch_of_free Desk.reading.disk rfl
  have searched : Desk.reading.disk.findUpward? [manifestName] (.absolute ["w"]) =
      .ok (some (Path.absolute ["w"] / manifestName)) :=
    findUpward?_manifest (searches _ _) (Disk.isNearest_crated [])
  obtain ⟨finding, found, isRoot⟩ := findRoot_of_crate Desk.reading.disk (.absolute ["w"])
    (Path.absolute ["w"] / manifestName).parent (some "/")
  obtain ⟨laterLog, ended⟩ := @Act.perform_ordinaryRoot (some "/") { Desk.reading with log }
    (.absolute ["w", "lib.rs"]) _ _ _ rfl searched rfl found
  have isTop : finding.root? = some (.absolute []) := by
    rw [isRoot]
    decide
  exact ⟨_, laterLog, by rw [isOrdinary, ended, isTop]⟩

/-- After a start for the file of the crate there is one session, rooted at the workspace. -/
theorem Desk.after_start_reading :
    ∃ session questions history log,
      (session.root = some (.absolute []) ∧ session.name = serverName ∧
        session.state = .starting ∧ session.id = 1) ∧
      (Call.start [] (some 1)).after .alone .reading = { Desk.reading with
        registry := ⟨[session], [1]⟩, nextSession := 2, questions, orders := [.launch 1], history,
        log } := by
  obtain ⟨questions, log, found⟩ := reading_finds_root
  have isRead : (Act.perform (Act.serverSettings []) Desk.reading).1 = .ok [] := rfl
  have isOpen : Desk.reading.host.buffer? 1 = some ⟨1, "/w/lib.rs", ""⟩ := rfl
  have started := Act.perform_startWith_of_found isRead isOpen (by decide) found
  have left : (Call.start [] (some 1)).after .alone .reading = _ := congrArg Prod.snd started
  rw [left]
  refine ⟨_, _, _, _, ?_, rfl⟩
  exact ⟨rfl, rfl, rfl, rfl⟩

/-- The source of a dependency joins the session of the crate. -/
theorem reading_joins_session :
    let desk := (Call.start [] (some 1)).after .alone .reading
    ManagerRun .alone .reading [.start [] (some 1)] desk ∧
      ∃ log, Act.perform (Act.startWith Surroundings.alone.resolve [] (some 2)) desk =
        (.ok (some 1), { desk with
          registry := desk.registry.modify 1 fun current => current.attach 2
          log }) := by
  intro desk
  have new : Desk.reading.IsNew := ⟨rfl, rfl⟩
  have run : ManagerRun .alone .reading [.start [] (some 1)] desk :=
    ManagerRun.begin.call (.start [] (some 1)) trivial
  refine ⟨run, ?_⟩
  obtain ⟨session, questions, history, log, ⟨rooted, isNamed, starting, isFirst⟩, left⟩ :=
    Desk.after_start_reading
  have sameDesk : desk = _ := left
  clear_value desk
  have isOpen : desk.host.buffer? 2 = some ⟨2, "/cargo/registry/src/x.rs", ""⟩ := by
    rw [sameDesk]
    rfl
  have resolved : desk.disk.resolve (.ofText "/cargo/registry/src/x.rs") =
      .ok (.absolute ["cargo", "registry", "src", "x.rs"]) := by
    rw [sameDesk]
    exact Desk.reading_resolves (by decide)
  have isLibrary : desk.setup.toolchain.isLibrary desk.disk
      (.absolute ["cargo", "registry", "src", "x.rs"]) = .ok true := by
    have decided := Act.crated_isLibrary Disk.hasNoLinks_crated
      (.absolute ["cargo", "registry", "src", "x.rs"])
    rw [sameDesk]
    exact decided
  have latest : desk.registry.IsLatest serverName session := by
    have registered : desk.registry = ⟨[session], [1]⟩ := by rw [sameDesk]
    rw [registered]
    exact Registry.isLatest_alone isFirst isNamed (by rw [starting]; rfl)
  obtain ⟨_, _, joined⟩ := (ManagerRun.library_file_joins_latest_session new rfl rfl
    (fun before after same => congrArg Desk.setup same) run isOpen (by decide) resolved
      isLibrary).1 session _ latest rooted
  rwa [isFirst] at joined

end AnalyzerSessions
