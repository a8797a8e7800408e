import AnalyzerSessions.Proofs.SessionRoots

namespace AnalyzerSessions

/-!
# Starts that fail

Whatever a start needs is read before a session is entered: the settings of the server,
the root of the file, the command line.  A start that fails while it reads leaves the
sessions as they were, and so does one that finds no root where one is required.

Only the log comes between the entering of a session and its launch.  It joins the words
of the command line, and there are command lines with words that are no texts; a start
that asks for one of them leaves a session behind that is never launched.
-/

/-- The sessions, which of them are registered and what the transport was told are what they
were. -/
structure Desk.IsUntouched (desk later : Desk) : Prop where
  sessions : later.registry.sessions.map Session.entry = desk.registry.sessions.map Session.entry
  listed : later.registry.listed = desk.registry.listed
  registered : later.registry.registered.map Session.entry =
    desk.registry.registered.map Session.entry
  orders : later.orders = desk.orders

/-- The entries of the registered sessions are those of the ledger that are listed. -/
theorem registered_entries (desk : Desk) :
    desk.registry.registered.map Session.entry =
      desk.ledger.listed.filterMap fun id =>
        desk.ledger.entries.find? fun entry => entry.id == id := by
  simp only [Registry.registered, List.map_filterMap, Desk.ledger, List.find?_map]
  rfl

/-- Desks with the same ledger have the same sessions. -/
theorem Desk.IsUntouched.of_ledger
    {desk later : Desk}
    (same : later.ledger = desk.ledger) :
    desk.IsUntouched later where
  sessions := congrArg Ledger.entries same
  listed := congrArg Ledger.listed same
  registered := by rw [registered_entries, registered_entries, same]
  orders := congrArg Ledger.orders same

namespace Act

/-- What holds of the outcome of two acts: of the failure of the first one, or else of what the
second one comes to. -/
theorem perform_bind_cases
    {α β : Type}
    {act : Act α}
    {next : α → Act β}
    {desk : Desk}
    (holds : Except Failure β × Desk → Prop)
    (failed : ∀ failure, (perform act desk).1 = .error failure →
      holds (.error failure, after act desk))
    (succeeded : ∀ value, (perform act desk).1 = .ok value →
      holds (perform (next value) (after act desk))) :
    holds (perform (act >>= next) desk) := by
  cases result : (perform act desk).1 with
  | error failure =>
      rw [perform_bind_of_error result]
      exact failed failure result
  | ok value =>
      rw [perform_bind_of_ok result]
      exact succeeded value result

/-- A result that is read before anything else has been read when the whole succeeds. -/
theorem ok_of_ofExcept_bind
    {ε α β : Type}
    {cause : ε → Failure}
    {result : Except ε α}
    {next : α → Act β}
    {desk : Desk}
    {given : β}
    (gave : (perform (ofExcept cause result >>= next) desk).1 = .ok given) :
    ∃ value, result = .ok value ∧ (perform (next value) desk).1 = .ok given := by
  rw [perform_ofExcept_bind] at gave
  cases result with
  | error error => cases gave
  | ok value => exact ⟨value, rfl, gave⟩

/-- A new session has the command line that its settings name. -/
theorem command_of_newSession
    {server : Config.Entries Setting}
    {root : Option Path}
    {desk : Desk}
    {session : Session}
    (made : (perform (newSession server root) desk).1 = .ok session) :
    ServerSettings.command server = .ok session.command := by
  unfold newSession at made
  obtain ⟨handlers, _, made⟩ := ok_of_ofExcept_bind made
  obtain ⟨command, named, made⟩ := ok_of_ofExcept_bind made
  obtain ⟨capabilities, _, made⟩ := ok_of_ofExcept_bind made
  obtain ⟨settings, _, made⟩ := ok_of_ofExcept_bind made
  obtain ⟨initOptions, _, made⟩ := ok_of_ofExcept_bind made
  obtain ⟨initListeners, _, made⟩ := ok_of_ofExcept_bind made
  obtain ⟨exitListeners, _, made⟩ := ok_of_ofExcept_bind made
  cases made
  exact named

/-- A command line with something that is no text, which joining its words stumbles upon. -/
def StumblesOn (command : List Json) (failure : Failure) : Prop :=
  ∃ index value, command[index]? = some value ∧ value.str? = none ∧
    failure = .misuse (.notText index value)

/-- Words are joined unless one of them is no text. -/
theorem joinWords_failed
    {words : List Json}
    {desk : Desk}
    {failure : Failure}
    (failed : (perform (joinWords words) desk).1 = .error failure) :
    StumblesOn words failure := by
  unfold joinWords at failed
  split at failed
  · rename_i value index found
    cases failed
    have isListed := List.mem_of_find?_eq_some found
    have isNoText := List.find?_some found
    exact ⟨index, value, List.mem_zipIdx_iff_getElem?.mp isListed, by simpa using isNoText, rfl⟩
  · cases failed

/-- A launch that fails has entered nothing, or it has entered a session and stumbled on its
command line. -/
theorem ledger_launch_failed
    {desk : Desk}
    (numbered : desk.ledger.Numbered)
    {server : Config.Entries Setting}
    {root : Option Path}
    {number : Int}
    {failure : Failure}
    (failed : (perform (launch server root number) desk).1 = .error failure) :
    (after (launch server root number) desk).ledger = desk.ledger ∨
      (after (launch server root number) desk).ledger = desk.ledger.enroll root number ∧
        ∃ command, ServerSettings.command server = .ok command ∧ StumblesOn command failure := by
  obtain ⟨gave, _⟩ | ⟨_, same | entered⟩ := ledger_launch numbered server root number
  · rw [failed] at gave
    cases gave
  · exact .inl same
  unfold launch at failed
  obtain ⟨cause, refused⟩ | ⟨fresh, made, _⟩ := perform_newSession server root desk
  · refine .inl ?_
    unfold after launch
    rw [perform_bind, refused]
  have named := command_of_newSession (congrArg Prod.fst made)
  refine .inr ⟨entered, fresh.command, named, ?_⟩
  rw [perform_bind_of_ok (congrArg Prod.fst made)] at failed
  obtain ⟨_, gave⟩ := succeeds_enlist (fresh.attach number) (after (newSession server root) desk)
  rw [perform_bind_of_ok gave] at failed
  generalize after (enlist (fresh.attach number)) _ = ready at failed
  have sameCommand : (fresh.attach number).command = fresh.command := by
    unfold Session.attach
    split <;> rfl
  cases joined : (perform (joinWords (fresh.attach number).command) ready).1 with
  | error cause =>
      rw [perform_bind_of_error joined] at failed
      cases failed
      rw [sameCommand] at joined
      exact joinWords_failed joined
  | ok words =>
      rw [perform_bind_of_ok joined] at failed
      cases failed

/-- The settings of a new server depend on the configuration alone. -/
theorem serverSettings_congr
    {desk other : Desk}
    (same : other.setup = desk.setup)
    (overrides : Config.Entries Setting) :
    (perform (serverSettings overrides) other).1 = (perform (serverSettings overrides) desk).1 := by
  unfold serverSettings
  simp only [perform_get_bind, same, perform_ofExcept_bind]
  split
  · split <;> rfl
  · rfl

theorem setup_chosenBuffer
    (buffer : Option Int)
    (desk : Desk) :
    (after (chosenBuffer buffer) desk).setup = desk.setup := by
  cases buffer <;> rfl

/-- A start enters a session and stumbles on its command line, so that its server is never
launched. -/
structure StartStumbles
    (resolve : Path → Act (Option Path))
    (overrides : Config.Entries Setting)
    (buffer : Option Int)
    (desk : Desk)
    (number : Int)
    (root : Option Path) : Prop where
  finds : Finds resolve buffer desk number root
  vacant : ∀ entry ∈ desk.ledger.entries, desk.ledger.IsServing entry → entry.root ≠ root
  stumbles : ∃ server command failure,
    (perform (serverSettings overrides) desk).1 = .ok server ∧
      ServerSettings.command server = .ok command ∧ StumblesOn command failure ∧
        (perform (startWith resolve overrides buffer) desk).1 = .error failure
  entered : (after (startWith resolve overrides buffer) desk).ledger =
    desk.ledger.enroll root number

/-- A start that gives no session leaves the ledger as it was, or it has stumbled. -/
theorem ledger_startWith_failed
    {resolve : Path → Act (Option Path)}
    (quiet : ∀ path, Keeps (resolve path))
    {desk : Desk}
    (numbered : desk.ledger.Numbered)
    {overrides : Config.Entries Setting}
    {buffer : Option Int}
    (failed : ∀ id, (perform (startWith resolve overrides buffer) desk).1 ≠ .ok (some id)) :
    (after (startWith resolve overrides buffer) desk).ledger = desk.ledger ∨
      ∃ number root, StartStumbles resolve overrides buffer desk number root := by
  let stumbled : Except Failure (Option Nat) × Desk → Int → Option Path → Prop :=
    fun outcome number root => Finds resolve buffer desk number root ∧
      (∀ entry ∈ desk.ledger.entries, desk.ledger.IsServing entry → entry.root ≠ root) ∧
      (∃ server command failure, (perform (serverSettings overrides) desk).1 = .ok server ∧
        ServerSettings.command server = .ok command ∧ StumblesOn command failure ∧
          outcome.1 = .error failure) ∧
      outcome.2.ledger = desk.ledger.enroll root number
  let holds : Except Failure (Option Nat) × Desk → Prop := fun outcome =>
    (∀ id, outcome.1 ≠ .ok (some id)) →
      outcome.2.ledger = desk.ledger ∨ ∃ number root, stumbled outcome number root
  suffices held : holds (perform (startWith resolve overrides buffer) desk) by
    obtain same | ⟨number, root, finds, vacant, stumbles, entered⟩ := held failed
    · exact .inl same
    · exact .inr ⟨number, root, finds, vacant, stumbles, entered⟩
  unfold startWith
  have openedSame : (after (chosenBuffer buffer) desk).ledger = desk.ledger :=
    keeps_chosenBuffer buffer desk
  refine perform_bind_cases holds (fun _ _ _ => .inl openedSame) fun number chose => ?_
  have setUp := serverSettings_congr (setup_chosenBuffer buffer desk) overrides
  have finds : ∀ file root,
      (perform (bufferName number) (after (chosenBuffer buffer) desk)).1 = .ok file →
      (perform (rootFor resolve file) (after (chosenBuffer buffer) desk)).1 = .ok root →
      Finds resolve buffer desk number root :=
    fun file root named placed => ⟨chose, file, named, placed⟩
  generalize after (chosenBuffer buffer) desk = opened at openedSame setUp finds ⊢
  refine perform_bind_cases holds ?_ fun server set => ?_
  · intro _ _ _
    rw [reads_serverSettings]
    exact .inl openedSame
  rw [reads_serverSettings]
  refine perform_bind_cases holds ?_ fun file named => ?_
  · intro _ _ _
    rw [reads_bufferName]
    exact .inl openedSame
  rw [reads_bufferName]
  have placedSame : (after (rootFor resolve file) opened).ledger = desk.ledger :=
    (keeps_rootFor quiet file opened).trans openedSame
  refine perform_bind_cases holds (fun _ _ _ => .inl placedSame) fun root placed => ?_
  have finds := finds file root named placed
  generalize after (rootFor resolve file) opened = placed at placedSame ⊢
  have readySame : (after (lacksRoot root) placed).ledger = desk.ledger :=
    ((reads_lacksRoot root).keeps placed).trans placedSame
  refine perform_bind_cases holds (fun _ _ _ => .inl readySame) fun lacks _ => ?_
  generalize after (lacksRoot root) placed = ready at readySame ⊢
  split
  · exact fun _ => .inl ((KeepsAt.bind (keeps_say _ _ _) fun _ _ => keeps_pure none _).trans
      readySame)
  rw [← readySame] at numbered
  refine perform_bind_cases holds ?_ fun id _ gaveNone => (gaveNone id rfl).elim
  intro failure startFailed _
  obtain ⟨entry, _, _, _, joinGave, _⟩ | ⟨vacant, launched⟩ :=
    ledger_startAt numbered server root number
  · rw [joinGave] at startFailed
    cases startFailed
  rw [launched] at startFailed
  have left : after (startAt server root number) ready = after (launch server root number) ready :=
    congrArg Prod.snd launched
  rw [left]
  obtain same | ⟨entered, command, names, stumbles⟩ := ledger_launch_failed numbered startFailed
  · exact .inl (same.trans readySame)
  · rw [readySame] at vacant entered
    exact .inr ⟨number, root, finds, vacant,
      ⟨server, command, failure, setUp ▸ set, names, stumbles, rfl⟩, entered⟩

end Act

/-- A start that fails or gives no session leaves no trace among the sessions of a manager,
unless it is launching a server whose command line holds something that is no text. -/
theorem ManagerRun.failed_starts_leave_no_trace
    {around : Surroundings}
    {initial desk : Desk}
    {calls : List Call}
    (new : initial.IsNew)
    (run : ManagerRun around initial calls desk)
    {overrides : Config.Entries Setting}
    {buffer : Option Int}
    (failed : ∀ id,
      (Act.perform (Act.startWith around.resolve overrides buffer) desk).1 ≠ .ok (some id)) :
    desk.IsUntouched ((Call.start overrides buffer).after around desk) ∨
      ∃ number root, Act.StartStumbles around.resolve overrides buffer desk number root := by
  have numbered := (run.orderly new).toNumbered
  obtain same | stumbled := Act.ledger_startWith_failed around.quiet numbered failed
  · exact .inl (.of_ledger same)
  · exact .inr stumbled

/-- What a start asks for whose settings are no table. -/
def unreadableSettings : Config.Entries Setting :=
  [("settings", .leaf (.plain (.int 5)))]

/-- A start with settings that cannot be read leaves a manager as it was whose session is being
stopped. -/
theorem unreadable_start_leaves_no_trace :
    let desk := Call.afterAll .alone .bare [.start [] none, .stop none]
    Desk.bare.IsNew ∧ ManagerRun .alone .bare [.start [] none, .stop none] desk ∧
      (∀ id, (Act.perform (Act.startWith Surroundings.alone.resolve unreadableSettings none)
        desk).1 ≠ .ok (some id)) ∧
      desk.IsUntouched ((Call.start unreadableSettings none).after .alone desk) := by
  intro desk
  have new : Desk.bare.IsNew := ⟨rfl, rfl⟩
  have run : ManagerRun .alone .bare [.start [] none, .stop none] desk :=
    ManagerRun.begin.of_possible _ (by decide +kernel)
  have failed : ∀ id, (Act.perform
      (Act.startWith Surroundings.alone.resolve unreadableSettings none) desk).1 ≠
        .ok (some id) := by
    intro id gave
    have fails : (Act.perform (Act.startWith Surroundings.alone.resolve unreadableSettings none)
        desk).1 = .error (.misuse (.notIterable (.int 5))) := rfl
    rw [fails] at gave
    cases gave
  refine ⟨new, run, failed, ?_⟩
  obtain untouched | ⟨number, root, stumbled⟩ :=
    ManagerRun.failed_starts_leave_no_trace new run failed
  · exact untouched
  · have entered := congrArg Ledger.listed stumbled.entered
    cases entered

/-- What a start asks for whose command line is a number. -/
def oddCommand : Config.Entries Setting :=
  [("cmd", .leaf (.plain (.arr [.int 1])))]

/-- A start with an odd command line fails and leaves a session behind that was never launched, and
to which the next start attaches. -/
theorem odd_command_leaves_a_session :
    let later := (Call.start oddCommand none).after .alone .bare
    (Act.perform (Act.startWith Surroundings.alone.resolve oddCommand none) Desk.bare).1 =
        .error (.misuse (.notText 0 (.int 1))) ∧
      ¬Desk.bare.IsUntouched later ∧ later.registry.listed = [1] ∧ later.orders = [] ∧
      (Act.perform (Act.startWith Surroundings.alone.resolve [] none) later).1 = .ok (some 1) ∧
      ((Call.start [] none).after .alone later).orders = [] := by
  intro later
  refine ⟨rfl, fun untouched => ?_, rfl, rfl, rfl, rfl⟩
  cases untouched.listed

end AnalyzerSessions
