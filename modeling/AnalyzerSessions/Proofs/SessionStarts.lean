import AnalyzerSessions.Proofs.LedgerActs

namespace AnalyzerSessions.Act

/-!
# Starting sessions

A start finds the serving session of a root or enters a new one.  It may fail
while it reads its settings, and then nothing is entered, or when it logs the
command line of a server, and then a session is entered and never launched.
-/

/-- The value of a result before an act. -/
theorem perform_ofExcept_bind
    {ε α β : Type}
    (cause : ε → Failure)
    (result : Except ε α)
    (next : α → Act β)
    (desk : Desk) :
    perform (ofExcept cause result >>= next) desk =
      match result with
      | .ok value => perform (next value) desk
      | .error error => (.error (cause error), desk) := by
  cases result <;> rfl

/-- A new session is fresh and has the next number; where its settings cannot be read there is
none. -/
theorem perform_newSession
    (server : Config.Entries Setting)
    (root : Option Path)
    (desk : Desk) :
    (∃ failure, perform (newSession server root) desk = (.error failure, desk)) ∨
    ∃ session, perform (newSession server root) desk =
        (.ok session, { desk with nextSession := desk.nextSession + 1 }) ∧
      session.entry = (Session.fresh desk.nextSession serverName root []).entry := by
  unfold newSession
  simp only [perform_ofExcept_bind]
  cases ServerSettings.handlers server with
  | error misuse =>
      exact .inl ⟨_, rfl⟩
  | ok handlers =>
  cases ServerSettings.command server with
  | error misuse =>
      exact .inl ⟨_, rfl⟩
  | ok command =>
  cases ServerSettings.capabilities server with
  | error misuse =>
      exact .inl ⟨_, rfl⟩
  | ok capabilities =>
  cases ServerSettings.options server "settings" with
  | error misuse =>
      exact .inl ⟨_, rfl⟩
  | ok settings =>
  cases ServerSettings.options server "init_options" with
  | error misuse =>
      exact .inl ⟨_, rfl⟩
  | ok initOptions =>
  cases ServerSettings.listeners server "on_init" with
  | error misuse =>
      exact .inl ⟨_, rfl⟩
  | ok initListeners =>
  cases ServerSettings.listeners server "on_exit" with
  | error misuse =>
      exact .inl ⟨_, rfl⟩
  | ok exitListeners =>
      exact .inr ⟨_, rfl, rfl⟩

theorem succeeds_register (session : Session) : Succeeds (register session) := by
  refine succeeds_get.bind fun _ => Succeeds.bind (succeeds_modify _) fun _ => ?_
  split
  · exact succeeds_modify _
  · exact succeeds_pure ()

theorem succeeds_enlist (session : Session) : Succeeds (enlist session) :=
  Succeeds.bind (succeeds_modify _) fun _ =>
    (succeeds_register session).bind fun _ desk => ⟨(), transition_succeeds _ _ desk⟩

/-- A session with a number that is not listed is registered behind the others. -/
theorem ledger_register
    {session : Session}
    {desk : Desk}
    (unlisted : session.id ∉ desk.ledger.listed) :
    (after (register session) desk).ledger =
      { desk.ledger with listed := desk.ledger.listed ++ [session.id] } := by
  have absent : desk.registry.contains session.id = false := by
    simpa [Registry.contains, Desk.ledger] using unlisted
  unfold register
  rw [after_get_bind]
  dsimp only
  rw [after_modify_bind]
  simp only [Registry.register, absent, Bool.false_eq_true, ↓reduceIte, Bool.not_false]
  exact keeps_note _ _

/-- A session with a number of its own is entered behind the others. -/
theorem ledger_enlist
    {session : Session}
    {desk : Desk}
    (unlisted : session.id ∉ desk.ledger.listed)
    (unused : ∀ entry ∈ desk.ledger.entries, entry.id ≠ session.id) :
    (after (enlist session) desk).ledger =
      { desk.ledger with
        entries := desk.ledger.entries ++ [session.entry.enter .starting]
        listed := desk.ledger.listed ++ [session.id] } := by
  unfold enlist
  rw [after_modify_bind]
  have added : Desk.ledger { desk with registry := desk.registry.add session } =
      { desk.ledger with entries := desk.ledger.entries ++ [session.entry] } := by
    simp [Desk.ledger, Registry.add]
  generalize { desk with registry := desk.registry.add session } = ready at added ⊢
  have stillUnlisted : session.id ∉ ready.ledger.listed := by
    rw [added]
    exact unlisted
  obtain ⟨_, gave⟩ := succeeds_register session ready
  rw [after_bind_of_ok gave, ledger_transition, ledger_register stillUnlisted, added]
  have othersSame : (desk.ledger.entries.map fun entry =>
      if entry.id = session.id then entry.enter .starting else entry) = desk.ledger.entries := by
    refine (List.map_congr_left fun entry member => ?_).trans (List.map_id _)
    simp [unused entry member]
  simp only [Ledger.change, List.map_append, othersSame]
  simp

theorem entry_attach
    (session : Session)
    (number : Int) :
    (session.attach number).entry = session.entry.attached number := by
  unfold Session.attach LedgerEntry.attached
  by_cases isAttached : session.buffers.contains number
  · simp only [isAttached, Session.entry_buffers]
    rfl
  · simp only [isAttached, Session.entry_buffers]
    rfl

/-- A launch enters a session for the root and tells the transport to launch its server; when it
fails it either enters nothing or tells the transport nothing. -/
theorem ledger_launch
    {desk : Desk}
    (numbered : desk.ledger.Numbered)
    (server : Config.Entries Setting)
    (root : Option Path)
    (number : Int) :
    ((perform (launch server root number) desk).1 = .ok desk.ledger.nextId ∧
      (after (launch server root number) desk).ledger =
        (desk.ledger.enroll root number).tell (.launch desk.ledger.nextId)) ∨
    ((∃ failure, (perform (launch server root number) desk).1 = .error failure) ∧
      ((after (launch server root number) desk).ledger = desk.ledger ∨
        (after (launch server root number) desk).ledger = desk.ledger.enroll root number)) := by
  unfold after launch
  rw [perform_bind]
  obtain ⟨failure, refused⟩ | ⟨fresh, made, freshEntry⟩ := perform_newSession server root desk
  · rw [refused]
    exact .inr ⟨⟨failure, rfl⟩, .inl rfl⟩
  rw [made]
  dsimp only
  have attachedEntry := entry_attach fresh number
  rw [freshEntry] at attachedEntry
  generalize fresh.attach number = session at attachedEntry ⊢
  have sameId : session.id = desk.ledger.nextId := congrArg LedgerEntry.id attachedEntry
  have entered : (after (enlist session)
      { desk with nextSession := desk.nextSession + 1 }).ledger =
      desk.ledger.enroll root number := by
    rw [ledger_enlist, attachedEntry, sameId]
    · rfl
    · rw [sameId]
      exact numbered.nextId_not_listed
    · intro entry member
      rw [sameId]
      exact numbered.id_ne_nextId member
  obtain ⟨_, gave⟩ := succeeds_enlist session { desk with nextSession := desk.nextSession + 1 }
  rw [perform_bind_of_ok gave]
  generalize after (enlist session) { desk with nextSession := desk.nextSession + 1 } = ready
    at entered ⊢
  have quiet : (after (joinWords session.command) ready).ledger = ready.ledger :=
    (reads_joinWords _).keeps _
  cases joined : (perform (joinWords session.command) ready).1 with
  | error failure =>
      rw [perform_bind_of_error joined]
      exact .inr ⟨⟨failure, rfl⟩, .inr (quiet.trans entered)⟩
  | ok words =>
      rw [perform_bind_of_ok joined]
      refine .inl ⟨congrArg Except.ok sameId, ?_⟩
      rw [← sameId, ← entered, ← quiet]
      rfl

/-- A buffer is attached to a session. -/
theorem ledger_join
    (session : Session)
    (number : Int)
    (desk : Desk) :
    (perform (join session number) desk).1 = .ok session.id ∧
      (after (join session number) desk).ledger =
        desk.ledger.change session.id (·.attached number) := by
  refine ⟨rfl, ?_⟩
  unfold join
  rw [after_bind_of_ok rfl]
  show (after (modifySession session.id fun current => current.attach number) desk).ledger = _
  exact ledger_modifySession (·.attached number) (fun current => entry_attach current number) desk

/-- A session serves at a desk when its entry does on the ledger. -/
theorem mem_serving
    {desk : Desk}
    (numbered : desk.ledger.Numbered)
    {session : Session} :
    session ∈ desk.registry.serving (some serverName) ↔
      session ∈ desk.registry.sessions ∧ desk.ledger.IsServing session.entry := by
  simp only [Registry.serving, Registry.active, List.mem_filter, mem_registered numbered,
    Registry.fits, Option.all_some, Option.all_none, Ledger.IsServing, SessionState.isServing,
    Bool.and_eq_true, Session.entry_id, Session.entry_name, Session.entry_state]
  simp only [Desk.ledger, beq_iff_eq]
  tauto

/-- The serving session that is found for a root. -/
theorem serving_of_find?
    {desk : Desk}
    (numbered : desk.ledger.Numbered)
    {root : Option Path}
    {session : Session}
    (found : desk.registry.find? serverName root = some session) :
    session.entry ∈ desk.ledger.entries ∧ desk.ledger.IsServing session.entry ∧
      session.root = root := by
  have member := List.mem_reverse.mp (List.mem_of_find?_eq_some found)
  obtain ⟨known, serving⟩ := (mem_serving numbered).mp member
  exact ⟨List.mem_map_of_mem known, serving, by simpa using List.find?_some found⟩

/-- When no session is found for a root, none serves it. -/
theorem vacant_of_find?
    {desk : Desk}
    (numbered : desk.ledger.Numbered)
    {root : Option Path}
    (missing : desk.registry.find? serverName root = none) :
    ∀ entry ∈ desk.ledger.entries, desk.ledger.IsServing entry → entry.root ≠ root := by
  intro entry member serving
  obtain ⟨session, known, rfl⟩ := List.mem_map.mp member
  have listed := List.mem_reverse.mpr ((mem_serving numbered).mpr ⟨known, serving⟩)
  have different := List.find?_eq_none.mp missing session listed
  simpa using different

/-- A start for a root joins a session that serves it, or launches one when there is none. -/
theorem ledger_startAt
    {desk : Desk}
    (numbered : desk.ledger.Numbered)
    (server : Config.Entries Setting)
    (root : Option Path)
    (number : Int) :
    (∃ entry ∈ desk.ledger.entries, desk.ledger.IsServing entry ∧ entry.root = root ∧
      (perform (startAt server root number) desk).1 = .ok entry.id ∧
      (after (startAt server root number) desk).ledger =
        desk.ledger.change entry.id (·.attached number)) ∨
    ((∀ entry ∈ desk.ledger.entries, desk.ledger.IsServing entry → entry.root ≠ root) ∧
      perform (startAt server root number) desk = perform (launch server root number) desk) := by
  unfold after startAt
  rw [perform_get_bind]
  cases found : desk.registry.find? serverName root with
  | none =>
      exact .inr ⟨vacant_of_find? numbered found, rfl⟩
  | some session =>
      obtain ⟨member, serving, sameRoot⟩ := serving_of_find? numbered found
      obtain ⟨gave, joined⟩ := ledger_join session number desk
      exact .inl ⟨session.entry, member, serving, sameRoot, gave, joined⟩

/-- A start for a root makes turns. -/
theorem turns_startAt
    {desk : Desk}
    (numbered : desk.ledger.Numbered)
    (server : Config.Entries Setting)
    (root : Option Path)
    (number : Int) :
    desk.ledger.Turns (after (startAt server root number) desk).ledger := by
  obtain ⟨entry, member, _, _, _, joined⟩ | ⟨vacant, launched⟩ :=
    ledger_startAt numbered server root number
  · rw [joined]
    exact .single (.attach entry member number)
  have entered : desk.ledger.Turn (desk.ledger.enroll root number) := .enroll root number vacant
  unfold after
  rw [launched]
  obtain ⟨_, left⟩ | ⟨_, left | left⟩ := ledger_launch numbered server root number
  · refine left ▸ (Relation.ReflTransGen.single entered).tail ?_
    exact .launch (.starting desk.ledger.nextId root number) (by simp [Ledger.enroll])
  · exact left ▸ .refl
  · exact left ▸ .single entered

/-! ## Starts of buffers -/

/-- A start of a buffer finds a root: the way to find roots gives it for the name of the file in
the buffer. -/
def Finds
    (resolve : Path → Act (Option Path))
    (buffer : Option Int)
    (desk : Desk)
    (number : Int)
    (root : Option Path) : Prop :=
  (perform (chosenBuffer buffer) desk).1 = .ok number ∧
    ∃ file, (perform (bufferName number) (after (chosenBuffer buffer) desk)).1 = .ok file ∧
      (perform (rootFor resolve file) (after (chosenBuffer buffer) desk)).1 = .ok root

section StartWith

variable {resolve : Path → Act (Option Path)} (quiet : ∀ path, Keeps (resolve path))

include quiet

theorem keeps_rootFor (file : String) : Keeps (rootFor resolve file) := by
  unfold rootFor
  split
  · exact keeps_pure none
  · exact quiet _

/-- A start makes turns, whether it succeeds or fails. -/
theorem turns_startWith
    {desk : Desk}
    (numbered : desk.ledger.Numbered)
    (overrides : Config.Entries Setting)
    (buffer : Option Int) :
    desk.ledger.Turns (after (startWith resolve overrides buffer) desk).ledger := by
  unfold startWith
  refine (keeps_chosenBuffer buffer desk).bindTurns fun number opened openedSame => ?_
  refine ((reads_serverSettings overrides).keeps opened).bindTurns fun server set setSame => ?_
  refine ((reads_bufferName number).keeps set).bindTurns fun file named namedSame => ?_
  refine (keeps_rootFor quiet file named).bindTurns fun root placed placedSame => ?_
  refine ((reads_lacksRoot root).keeps placed).bindTurns fun lacks ready readySame => ?_
  have stillNumbered : ready.ledger.Numbered := by
    rw [readySame, placedSame, namedSame, setSame, openedSame]
    exact numbered
  split
  · exact (KeepsAt.bind (keeps_say _ _ _) fun _ _ => keeps_pure none _).turns
  · exact turns_bind (turns_startAt stillNumbered server root number) fun _ _ => .refl

/-- What a start comes to that gives a session: the session that serves the root of the file takes
on the buffer, or, when there is none, a new one is entered and its server launched. -/
theorem ledger_startWith
    {desk : Desk}
    (numbered : desk.ledger.Numbered)
    {overrides : Config.Entries Setting}
    {buffer : Option Int}
    {id : Nat}
    (gave : (perform (startWith resolve overrides buffer) desk).1 = .ok (some id)) :
    ∃ number root, Finds resolve buffer desk number root ∧
      ((∃ entry ∈ desk.ledger.entries, desk.ledger.IsServing entry ∧ entry.root = root ∧
          entry.id = id ∧
          (after (startWith resolve overrides buffer) desk).ledger =
            desk.ledger.change id (·.attached number)) ∨
        (∀ entry ∈ desk.ledger.entries, desk.ledger.IsServing entry → entry.root ≠ root) ∧
          id = desk.ledger.nextId ∧
          (after (startWith resolve overrides buffer) desk).ledger =
            (desk.ledger.enroll root number).tell (.launch id)) := by
  unfold after
  unfold startWith at gave ⊢
  obtain ⟨number, chose, go⟩ := ok_of_bind gave
  -- Up to the choice of the session no step changes the ledger. Each is run in turn, and the desk
  -- that it leaves is given a name before the next one is opened.
  have openedSame : (after (chosenBuffer buffer) desk).ledger = desk.ledger :=
    keeps_chosenBuffer buffer desk
  have finds : ∀ file root,
      (perform (bufferName number) (after (chosenBuffer buffer) desk)).1 = .ok file →
      (perform (rootFor resolve file) (after (chosenBuffer buffer) desk)).1 = .ok root →
      Finds resolve buffer desk number root :=
    fun file root named placed => ⟨chose, file, named, placed⟩
  rw [go] at gave ⊢
  generalize after (chosenBuffer buffer) desk = opened at openedSame finds gave ⊢
  obtain ⟨server, _, go⟩ := ok_of_bind gave
  rw [go, reads_serverSettings] at gave ⊢
  obtain ⟨file, named, go⟩ := ok_of_bind gave
  rw [go, reads_bufferName] at gave ⊢
  obtain ⟨root, placed, go⟩ := ok_of_bind gave
  have placedSame : (after (rootFor resolve file) opened).ledger = opened.ledger :=
    keeps_rootFor quiet file opened
  refine ⟨number, root, finds file root named placed, ?_⟩
  rw [go] at gave ⊢
  generalize after (rootFor resolve file) opened = placed at placedSame gave ⊢
  obtain ⟨lacks, _, go⟩ := ok_of_bind gave
  have readySame : (after (lacksRoot root) placed).ledger = placed.ledger :=
    (reads_lacksRoot root).keeps placed
  rw [go] at gave ⊢
  generalize after (lacksRoot root) placed = ready at readySame gave ⊢
  have sameLedger : ready.ledger = desk.ledger :=
    readySame.trans (placedSame.trans openedSame)
  rw [← sameLedger] at numbered ⊢
  split at gave
  · cases gave
  rename_i present
  simp only [present, Bool.false_eq_true, ↓reduceIte]
  obtain ⟨started, startGave, go⟩ := ok_of_bind gave
  rw [go] at gave ⊢
  cases gave
  obtain ⟨entry, member, serving, sameRoot, joinGave, joined⟩ | ⟨vacant, launched⟩ :=
    ledger_startAt numbered server root number
  · rw [joinGave] at startGave
    cases startGave
    exact .inl ⟨entry, member, serving, sameRoot, rfl, joined⟩
  · rw [launched] at startGave
    obtain ⟨launchGave, left⟩ | ⟨⟨failure, failed⟩, _⟩ := ledger_launch numbered server root number
    · rw [launchGave] at startGave
      cases startGave
      refine .inr ⟨vacant, rfl, ?_⟩
      exact (congrArg (fun done => done.2.ledger) launched).trans left
    · rw [failed] at startGave
      cases startGave

end StartWith

end AnalyzerSessions.Act
