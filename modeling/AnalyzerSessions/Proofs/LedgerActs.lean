import AnalyzerSessions.Proofs.SessionLedger
import AnalyzerSessions.Session.HostUse

namespace AnalyzerSessions

/-!
# What acts do to the ledger

Most acts at a desk go unnoticed by its ledger.  Those of a manager that do not
are made of a few turns each, and this holds also of an act that fails half way:
whatever it changed before failing is a number of whole turns.
-/

/-- A session that is found has the number that it is found by. -/
theorem Registry.id_of_get?
    {registry : Registry}
    {id : Nat}
    {session : Session}
    (found : registry.get? id = some session) :
    session.id = id := by
  simpa using List.find?_some found

namespace Act

variable {α β : Type}

/-- What an act gives at a desk, and the desk it leaves behind. -/
def perform (act : Act α) (desk : Desk) : Except Failure α × Desk :=
  (ExceptT.run act).run desk

/-- The desk that an act leaves behind, whether it succeeds or fails. -/
def after (act : Act α) (desk : Desk) : Desk :=
  (perform act desk).2

/-- Two acts in a row; the second one is left out when the first one fails. -/
theorem perform_bind
    (act : Act α)
    (next : α → Act β)
    (desk : Desk) :
    perform (act >>= next) desk =
      match perform act desk with
      | (.ok value, mid) => perform (next value) mid
      | (.error failure, mid) => (.error failure, mid) := by
  show (ExceptT.bindCont next (perform act desk).1) (perform act desk).2 = _
  rcases perform act desk with ⟨_ | _, _⟩ <;> rfl

/-- Two acts in a row of which the first one succeeds. -/
theorem perform_bind_of_ok
    {act : Act α}
    {next : α → Act β}
    {desk : Desk}
    {value : α}
    (gave : (perform act desk).1 = .ok value) :
    perform (act >>= next) desk = perform (next value) (after act desk) := by
  unfold after
  rw [perform_bind]
  rcases result : perform act desk with ⟨failure | given, mid⟩
  · simp [result] at gave
  · simp [result] at gave
    simp [gave]

/-- Two acts in a row of which the first one fails. -/
theorem perform_bind_of_error
    {act : Act α}
    {next : α → Act β}
    {desk : Desk}
    {failure : Failure}
    (failed : (perform act desk).1 = .error failure) :
    perform (act >>= next) desk = (.error failure, after act desk) := by
  unfold after
  rw [perform_bind]
  rcases result : perform act desk with ⟨cause | given, mid⟩
  · simp [result] at failed
    simp [failed]
  · simp [result] at failed

/-- What two acts leave behind of which the first one succeeds. -/
theorem after_bind_of_ok
    {act : Act α}
    {next : α → Act β}
    {desk : Desk}
    {value : α}
    (gave : (perform act desk).1 = .ok value) :
    after (act >>= next) desk = after (next value) (after act desk) :=
  congrArg Prod.snd (perform_bind_of_ok gave)

/-- When two acts in a row succeed, so does the first one. -/
theorem ok_of_bind
    {act : Act α}
    {next : α → Act β}
    {desk : Desk}
    {result : β}
    (gave : (perform (act >>= next) desk).1 = .ok result) :
    ∃ value, (perform act desk).1 = .ok value ∧
      perform (act >>= next) desk = perform (next value) (after act desk) := by
  cases first : (perform act desk).1 with
  | error failure =>
      rw [perform_bind_of_error first] at gave
      cases gave
  | ok value =>
      exact ⟨value, rfl, perform_bind_of_ok first⟩

/-- An act that never fails. -/
def Succeeds (act : Act α) : Prop :=
  ∀ desk, ∃ value, (perform act desk).1 = .ok value

theorem succeeds_pure (value : α) : Succeeds (pure value) :=
  fun _ => ⟨value, rfl⟩

theorem succeeds_get : Succeeds get :=
  fun desk => ⟨desk, rfl⟩

theorem succeeds_modify (change : Desk → Desk) : Succeeds (modify change) :=
  fun _ => ⟨(), rfl⟩

theorem Succeeds.bind
    {act : Act α}
    {next : α → Act β}
    (first : Succeeds act)
    (second : ∀ value, Succeeds (next value)) :
    Succeeds (act >>= next) := by
  intro desk
  obtain ⟨value, gave⟩ := first desk
  rw [perform_bind_of_ok gave]
  exact second value (after act desk)

/-- However an act fails, it is as said. -/
def FailsOnly (may : Failure → Prop) (act : Act α) : Prop :=
  ∀ desk failure, (perform act desk).1 = .error failure → may failure

theorem Succeeds.failsOnly
    {act : Act α}
    {may : Failure → Prop}
    (succeeds : Succeeds act) :
    FailsOnly may act := by
  intro desk failure failed
  obtain ⟨value, gave⟩ := succeeds desk
  cases gave.symm.trans failed

theorem failsOnly_throw
    {failure : Failure}
    {may : Failure → Prop}
    (isSaid : may failure) :
    FailsOnly may (throw failure : Act α) := by
  intro desk other failed
  cases failed
  exact isSaid

theorem FailsOnly.bind
    {act : Act α}
    {next : α → Act β}
    {may : Failure → Prop}
    (first : FailsOnly may act)
    (second : ∀ value, FailsOnly may (next value)) :
    FailsOnly may (act >>= next) := by
  intro desk failure failed
  cases gave : (perform act desk).1 with
  | error cause =>
      rw [perform_bind_of_error gave] at failed
      cases failed
      exact first desk _ gave
  | ok value =>
      rw [perform_bind_of_ok gave] at failed
      exact second value _ failure failed

theorem failsOnly_ofExcept
    {ε : Type}
    {cause : ε → Failure}
    {may : Failure → Prop}
    (isSaid : ∀ error, may (cause error))
    (result : Except ε α) :
    FailsOnly may (ofExcept cause result) := by
  cases result with
  | ok value =>
      exact (succeeds_pure value).failsOnly
  | error error =>
      exact failsOnly_throw (isSaid error)

/-- The ledger does not notice an act at a desk. -/
def KeepsAt (act : Act α) (desk : Desk) : Prop :=
  (after act desk).ledger = desk.ledger

/-- The ledger does not notice an act at any desk. -/
def Keeps (act : Act α) : Prop :=
  ∀ desk, KeepsAt act desk

/-- What holds behind the first of two acts when it fails, and behind the second one when it
succeeds, holds behind both. -/
theorem after_bind_of
    {act : Act α}
    {next : α → Act β}
    {desk : Desk}
    (holds : Desk → Prop)
    (failed : ∀ failure, (perform act desk).1 = .error failure → holds (after act desk))
    (succeeded : ∀ value, (perform act desk).1 = .ok value →
      holds (after (next value) (after act desk))) :
    holds (after (act >>= next) desk) := by
  cases result : (perform act desk).1 with
  | error failure =>
      unfold after
      rw [perform_bind_of_error result]
      exact failed failure result
  | ok value =>
      rw [after_bind_of_ok result]
      exact succeeded value result

/-- A look at the desk before an act. -/
theorem perform_get_bind
    (next : Desk → Act β)
    (desk : Desk) :
    perform (get >>= next) desk = perform (next desk) desk :=
  rfl

/-- What is left behind after a look at the desk and an act. -/
theorem after_get_bind
    (next : Desk → Act β)
    (desk : Desk) :
    after (get >>= next) desk = after (next desk) desk :=
  congrArg Prod.snd (perform_get_bind next desk)

/-- A change of the desk before an act. -/
theorem after_modify_bind
    (change : Desk → Desk)
    (next : Unit → Act β)
    (desk : Desk) :
    after (modify change >>= next) desk = after (next ()) (change desk) :=
  rfl

theorem keeps_pure (value : α) : Keeps (pure value) :=
  fun _ => rfl

theorem keeps_get : Keeps get :=
  fun _ => rfl

theorem keeps_throw (failure : Failure) : Keeps (throw failure : Act α) :=
  fun _ => rfl

theorem keeps_modify
    {change : Desk → Desk}
    (same : ∀ desk, (change desk).ledger = desk.ledger) :
    Keeps (modify change) :=
  same

theorem KeepsAt.bind
    {act : Act α}
    {next : α → Act β}
    {desk : Desk}
    (first : KeepsAt act desk)
    (second : ∀ value, (perform act desk).1 = .ok value → KeepsAt (next value) (after act desk)) :
    KeepsAt (act >>= next) desk := by
  apply after_bind_of fun left => left.ledger = desk.ledger
  · intro _ _
    exact first
  · intro value gave
    exact (second value gave).trans first

/-- A look at a desk before an act that goes unnoticed there. -/
theorem KeepsAt.afterGet
    {next : Desk → Act β}
    {desk : Desk}
    (second : KeepsAt (next desk) desk) :
    KeepsAt (get >>= next) desk :=
  second

theorem Keeps.bind
    {act : Act α}
    {next : α → Act β}
    (first : Keeps act)
    (second : ∀ value, Keeps (next value)) :
    Keeps (act >>= next) :=
  fun desk => (first desk).bind fun value _ => second value (after act desk)

theorem keeps_ofExcept
    {ε : Type}
    (cause : ε → Failure)
    (result : Except ε α) :
    Keeps (ofExcept cause result) := by
  cases result with
  | error error =>
      exact keeps_throw (cause error)
  | ok value =>
      exact keeps_pure value

/-- An act that goes unnoticed makes no turn. -/
theorem KeepsAt.turns
    {act : Act α}
    {desk : Desk}
    (keeps : KeepsAt act desk) :
    desk.ledger.Turns (after act desk).ledger := by
  rw [keeps]

/-- Turns made by an act and by the one after it. -/
theorem turns_bind
    {act : Act α}
    {next : α → Act β}
    {desk : Desk}
    {ledger : Ledger}
    (first : ledger.Turns (after act desk).ledger)
    (second : ∀ value, (perform act desk).1 = .ok value →
      (after act desk).ledger.Turns (after (next value) (after act desk)).ledger) :
    ledger.Turns (after (act >>= next) desk).ledger := by
  apply after_bind_of fun left => ledger.Turns left.ledger
  · intro _ _
    exact first
  · intro value gave
    exact first.trans (second value gave)

/-- Turns made by an act after one that goes unnoticed. -/
theorem KeepsAt.bindTurns
    {act : Act α}
    {next : α → Act β}
    {desk : Desk}
    (first : KeepsAt act desk)
    (second : ∀ value (ready : Desk), ready.ledger = desk.ledger →
      ready.ledger.Turns (after (next value) ready).ledger) :
    desk.ledger.Turns (after (act >>= next) desk).ledger :=
  turns_bind first.turns fun value _ => second value _ first

/-! ## Acts that the ledger does not notice -/

theorem keeps_note (record : Record) : Keeps (note record) :=
  keeps_modify fun _ => rfl

theorem keeps_say (level : Level) (text : String) : Keeps (say level text) :=
  keeps_note ⟨level, text⟩

theorem keeps_observe (event : Event) : Keeps (observe event) :=
  keeps_modify fun _ => rfl

theorem keeps_tell
    (listener : Listener)
    (arguments : List Json) :
    Keeps (tell listener arguments) := by
  cases listener with
  | value value =>
      exact keeps_say _ _
  | supplied name failure =>
      unfold tell
      refine (keeps_observe _).bind fun _ => ?_
      split
      · exact keeps_say _ _
      · exact keeps_pure ()

theorem keeps_tellAll
    (id : Nat)
    (more : List Json)
    (listeners : List Listener) :
    Keeps (tellAll id more listeners) := by
  induction listeners with
  | nil =>
      exact keeps_pure ()
  | cons listener rest inductionHypothesis =>
      unfold tellAll
      refine Keeps.bind ?_ fun view => (keeps_tell _ _).bind fun _ => inductionHypothesis
      unfold listenerView
      exact keeps_get.bind fun _ => keeps_pure _

theorem keeps_installTransform (transform : Transform) :
    Keeps (installTransform transform) := by
  unfold installTransform
  refine keeps_get.bind fun desk => Keeps.bind (keeps_modify fun _ => rfl) fun _ => ?_
  split
  · exact (keeps_note _).bind fun _ => keeps_pure _
  · exact keeps_pure _

/-- Making a buffer current keeps the commands of a host. -/
theorem focusOn_commands
    (host : Host Action)
    (number : Int)
    (focus : Bool) :
    (host.focusOn number focus).commands = host.commands := by
  unfold Host.focusOn
  split <;> rfl

theorem keeps_currentBuffer : Keeps currentBuffer := by
  intro desk
  have commandsSame : desk.host.currentBuffer.2.commands = desk.host.commands := by
    unfold Host.currentBuffer
    split
    · rfl
    · exact focusOn_commands _ _ _
  show { desk with host := desk.host.currentBuffer.2 }.ledger = desk.ledger
  simp [Desk.ledger, commandsSame]

theorem keeps_chosenBuffer (chosen : Option Int) : Keeps (chosenBuffer chosen) := by
  cases chosen with
  | none =>
      exact keeps_currentBuffer
  | some number =>
      exact keeps_pure number

/-! ## Acts that only look -/

/-- An act that only looks at the desk. -/
def Reads (act : Act α) : Prop :=
  ∀ desk, after act desk = desk

/-- Nothing becomes of a desk that is only looked at. -/
theorem Reads.keeps
    {act : Act α}
    (reads : Reads act) :
    Keeps act :=
  fun desk => congrArg Desk.ledger (reads desk)

theorem Reads.bind
    {act : Act α}
    {next : α → Act β}
    (first : Reads act)
    (second : ∀ value, Reads (next value)) :
    Reads (act >>= next) := by
  intro desk
  apply after_bind_of (· = desk)
  · intro _ _
    exact first desk
  · intro value _
    exact (second value _).trans (first desk)

theorem reads_look
    {next : Desk → Act β}
    (second : ∀ desk, Reads (next desk)) :
    Reads (get >>= next) :=
  fun desk => second desk desk

theorem reads_pure (value : α) : Reads (pure value) :=
  fun _ => rfl

theorem reads_throw (failure : Failure) : Reads (throw failure : Act α) :=
  fun _ => rfl

theorem reads_ofExcept
    {ε : Type}
    (cause : ε → Failure)
    (result : Except ε α) :
    Reads (ofExcept cause result) := by
  cases result with
  | error error =>
      exact reads_throw (cause error)
  | ok value =>
      exact reads_pure value

/-- A look at a buffer. -/
theorem reads_buffer (number : Int) : Reads (buffer number) := by
  refine reads_look fun desk => ?_
  split
  · exact reads_pure _
  · exact reads_throw _

/-- A look at the name of a buffer. -/
theorem reads_bufferName (number : Int) : Reads (bufferName number) :=
  (reads_buffer number).bind fun _ => reads_pure _

/-- The reading of the settings of a new server. -/
theorem reads_serverSettings (overrides : Config.Entries Setting) :
    Reads (serverSettings overrides) := by
  refine reads_look fun desk => (reads_ofExcept _ _).bind fun server => ?_
  split
  · exact reads_throw _
  · exact reads_pure _

theorem reads_lacksRoot (root : Option Path) : Reads (lacksRoot root) := by
  unfold lacksRoot
  split
  · exact reads_pure _
  · exact reads_look fun _ => (reads_ofExcept _ _).bind fun _ => reads_pure _

theorem reads_joinWords (words : List Json) : Reads (joinWords words) := by
  unfold joinWords
  split
  · exact reads_throw _
  · exact reads_pure _

/-! ## Acts that change the entry of a session -/

/-- A change of a session that is a change of its entry. -/
theorem ledger_modifySession
    {id : Nat}
    {change : Session → Session}
    (revise : LedgerEntry → LedgerEntry)
    (revised : ∀ session, (change session).entry = revise session.entry)
    (desk : Desk) :
    (after (modifySession id change) desk).ledger = desk.ledger.change id revise := by
  have entriesRevised :
      (desk.registry.modify id change).sessions.map Session.entry =
        (desk.ledger.change id revise).entries := by
    simp only [Registry.modify, Ledger.change, Desk.ledger, List.map_map]
    apply List.map_congr_left
    intro session _
    by_cases changed : session.id = id
    · simp [changed, revised]
    · simp [changed]
  show Ledger.mk ((desk.registry.modify id change).sessions.map Session.entry) _ _ _ _ _ = _
  rw [entriesRevised]
  rfl

theorem keeps_modifySession
    {id : Nat}
    {change : Session → Session}
    (same : ∀ session, (change session).entry = session.entry) :
    Keeps (modifySession id change) := by
  intro desk
  unfold KeepsAt
  rw [ledger_modifySession (fun entry => entry) same]
  exact Ledger.change_eq_self fun _ _ _ => rfl

theorem entry_id_ne_of_get?_eq_none
    {desk : Desk}
    {id : Nat}
    (missing : desk.registry.get? id = none)
    {entry : LedgerEntry}
    (member : entry ∈ desk.ledger.entries) :
    entry.id ≠ id := by
  obtain ⟨session, sessionMember, rfl⟩ := List.mem_map.mp member
  have different : ¬session.id = id := by
    simpa using List.find?_eq_none.mp missing session sessionMember
  exact different

theorem entry_of_get?
    {desk : Desk}
    {id : Nat}
    {session : Session}
    (found : desk.registry.get? id = some session) :
    session.entry ∈ desk.ledger.entries ∧ session.id = id :=
  ⟨List.mem_map_of_mem (List.mem_of_find?_eq_some found), Registry.id_of_get? found⟩

/-- A session is found by its number. -/
theorem get?_eq_some
    {desk : Desk}
    (numbered : desk.ledger.Numbered)
    {session : Session}
    (member : session ∈ desk.registry.sessions) :
    desk.registry.get? session.id = some session := by
  have distinct : (desk.registry.sessions.map Session.id).Nodup := by
    simpa [Ledger.ids, Desk.ledger, Session.entry, Function.comp_def] using numbered.distinct
  cases found : desk.registry.get? session.id with
  | none =>
      have different := List.find?_eq_none.mp found session member
      simp at different
  | some other =>
      have sameId : other.id = session.id := Registry.id_of_get? found
      rw [List.inj_on_of_nodup_map distinct (List.mem_of_find?_eq_some found) member sameId]

/-- The registered sessions are the sessions whose numbers are listed. -/
theorem mem_registered
    {desk : Desk}
    (numbered : desk.ledger.Numbered)
    {session : Session} :
    session ∈ desk.registry.registered ↔
      session ∈ desk.registry.sessions ∧ session.id ∈ desk.registry.listed := by
  constructor
  · intro member
    obtain ⟨id, listed, found⟩ := List.mem_filterMap.mp member
    have sameId : session.id = id := Registry.id_of_get? found
    rw [sameId]
    exact ⟨List.mem_of_find?_eq_some found, listed⟩
  · rintro ⟨member, listed⟩
    exact List.mem_filterMap.mpr ⟨session.id, listed, get?_eq_some numbered member⟩

/-- A transition of a session. -/
theorem ledger_transition
    (id : Nat)
    (state : SessionState)
    (desk : Desk) :
    (after (transition id state) desk).ledger = desk.ledger.change id (·.enter state) := by
  unfold transition
  rw [after_get_bind]
  cases found : desk.registry.get? id with
  | none =>
      exact (Ledger.change_eq_self fun entry member isThere =>
        (entry_id_ne_of_get?_eq_none found member isThere).elim).symm
  | some session =>
      show (after (modifySession id fun current => (current.transition state).1)
        (after (note (session.transition state).2) desk)).ledger = _
      rw [ledger_modifySession (·.enter state) fun _ => rfl, keeps_note]

/-- A transition does not fail. -/
theorem transition_succeeds
    (id : Nat)
    (state : SessionState)
    (desk : Desk) :
    (perform (transition id state) desk).1 = .ok () := by
  unfold transition
  rw [perform_get_bind]
  cases desk.registry.get? id with
  | none =>
      rfl
  | some session =>
      rfl

theorem succeeds_transition
    (id : Nat)
    (state : SessionState) :
    Succeeds (transition id state) :=
  fun desk => ⟨(), transition_succeeds _ _ desk⟩

/-! ## Parts of a life that the ledger does not notice -/

/-- A change of the host that keeps its commands. -/
theorem keepsAt_setHost
    {host : Host Action}
    {desk : Desk}
    (same : host.commands = desk.host.commands) :
    KeepsAt (setHost host) desk := by
  show { desk with host }.ledger = desk.ledger
  simp [Desk.ledger, same]

/-- Creating a group keeps the commands of a host. -/
theorem createGroup_commands
    (host : Host Action)
    (name : String)
    (clear : Bool) :
    (host.createGroup name clear).2.commands = host.commands := by
  unfold Host.createGroup
  split
  · split <;> rfl
  · rfl

/-- Creating an auto-command keeps the commands of a host. -/
theorem createAutoCommand_commands
    {host changed : Host Action}
    {event pattern : String}
    {action : Action}
    {group number : Int}
    (created : host.createAutoCommand event pattern action group = .ok (number, changed)) :
    changed.commands = host.commands := by
  unfold Host.createAutoCommand at created
  split at created
  · cases created
    rfl
  · cases created

/-- Deleting a group keeps the commands of a host. -/
theorem deleteGroup_commands
    {host changed : Host Action}
    {group : Int}
    (deleted : host.deleteGroup group = .ok changed) :
    changed.commands = host.commands := by
  unfold Host.deleteGroup at deleted
  split at deleted
  · cases deleted
    rfl
  · cases deleted

theorem keeps_createReload (id : Nat) : Keeps (createReload id) := by
  intro desk
  unfold createReload
  apply KeepsAt.afterGet
  have groupedCommands := createGroup_commands desk.host (groupName id) true
  rcases grouping : desk.host.createGroup (groupName id) true with ⟨group, grouped⟩
  rw [grouping] at groupedCommands
  refine (keepsAt_setHost groupedCommands).bind fun _ _ => ?_
  cases created : grouped.createAutoCommand "BufWritePost" ("*/" ++ manifestName)
      (.reload id) group with
  | error fault =>
      exact keeps_throw _ _
  | ok made =>
      have createdCommands := createAutoCommand_commands created
      refine KeepsAt.bind (keeps_pure made _) fun done gave => ?_
      cases gave
      refine KeepsAt.bind (keepsAt_setHost createdCommands) fun _ _ => ?_
      apply keeps_modifySession
      exact fun _ => rfl

theorem keeps_offerReload (id : Nat) : Keeps (offerReload id) := by
  unfold offerReload
  refine keeps_get.bind fun _ => (keeps_ofExcept _ _).bind fun reloads => ?_
  split
  · exact keeps_createReload id
  · exact keeps_pure ()

theorem keeps_removeGroup (session : Session) : Keeps (removeGroup session) := by
  intro desk
  unfold removeGroup
  split
  · exact keeps_pure () desk
  · rename_i group _
    apply KeepsAt.afterGet
    cases deleted : desk.host.deleteGroup group with
    | error fault =>
        refine KeepsAt.bind (keeps_say _ _ desk) fun _ _ => ?_
        apply keeps_modifySession
        exact fun _ => rfl
    | ok host =>
        refine KeepsAt.bind (keepsAt_setHost (deleteGroup_commands deleted)) fun _ _ => ?_
        apply keeps_modifySession
        exact fun _ => rfl

/-!
## Stopping sessions

A stop goes through the sessions of a buffer as the registry had them at its
beginning.  Since no session is listed twice, each of them is still as it was
when its turn comes.
-/

/-- A session is told to stop, unless it is stopping. -/
theorem ledger_stopSession
    (session : Session)
    (desk : Desk) :
    (after (stopSession session) desk).ledger =
      if session.state = .stopping then desk.ledger
      else (desk.ledger.change session.id (·.enter .stopping)).tell (.terminate session.id) := by
  unfold stopSession
  by_cases isStopping : session.state = .stopping
  · simp only [isStopping, ne_eq, not_true_eq_false, ↓reduceIte]
    exact keeps_pure () desk
  · simp only [isStopping, ne_eq, not_false_eq_true, ↓reduceIte]
    rw [after_bind_of_ok rfl, after_bind_of_ok (transition_succeeds _ _ _)]
    show (after (transition session.id .stopping) _).ledger.tell _ = _
    rw [ledger_transition, keeps_say]

/-- An active session is told to stop, unless it is stopping. -/
theorem turns_stopSession
    {session : Session}
    {desk : Desk}
    (known : session.entry ∈ desk.ledger.entries)
    (active : session.state.isActive) :
    desk.ledger.Turns (after (stopSession session) desk).ledger := by
  rw [ledger_stopSession]
  split
  · exact .refl
  · rename_i moving
    exact .single (.halt session.entry known active moving)

/-- Sessions of different numbers do not notice each other's stopping. -/
theorem mem_after_stopSession
    {session other : Session}
    {desk : Desk}
    (known : other.entry ∈ desk.ledger.entries)
    (different : other.id ≠ session.id) :
    other.entry ∈ (after (stopSession session) desk).ledger.entries := by
  rw [ledger_stopSession]
  split
  · exact known
  · refine List.mem_map.mpr ⟨other.entry, known, ?_⟩
    simp [different]

/-- Distinct active sessions are told to stop one after the other. -/
theorem turns_stopAll
    {sessions : List Session}
    {desk : Desk}
    (distinct : (sessions.map Session.id).Nodup)
    (known : ∀ session ∈ sessions, session.entry ∈ desk.ledger.entries)
    (active : ∀ session ∈ sessions, session.state.isActive) :
    desk.ledger.Turns (after (stopAll sessions) desk).ledger := by
  induction sessions generalizing desk with
  | nil =>
      exact .refl
  | cons session rest inductionHypothesis =>
      obtain ⟨fresh, restDistinct⟩ := List.nodup_cons.mp distinct
      refine turns_bind (turns_stopSession (known session (by simp)) (active session (by simp)))
        fun _ _ => ?_
      refine inductionHypothesis restDistinct (fun other member => ?_) fun other member =>
        active other (List.mem_cons_of_mem session member)
      have otherKnown := known other (List.mem_cons_of_mem session member)
      refine mem_after_stopSession otherKnown fun same => ?_
      exact fresh (List.mem_map.mpr ⟨other, member, same⟩)

/-- Registered sessions come in the order in which they are listed. -/
theorem registered_ids_sublist (registry : Registry) :
    (registry.registered.map Session.id).Sublist registry.listed := by
  unfold Registry.registered
  induction registry.listed with
  | nil =>
      exact .slnil
  | cons id rest inductionHypothesis =>
      cases found : registry.get? id with
      | none =>
          rw [List.filterMap_cons_none found]
          exact inductionHypothesis.cons id
      | some session =>
          have sameId : session.id = id := Registry.id_of_get? found
          rw [List.filterMap_cons_some found, List.map_cons, sameId]
          exact inductionHypothesis.cons_cons id

theorem entry_of_mem_registered
    {desk : Desk}
    {session : Session}
    (registered : session ∈ desk.registry.registered) :
    session.entry ∈ desk.ledger.entries := by
  obtain ⟨id, _, found⟩ := List.mem_filterMap.mp registered
  exact (entry_of_get? found).1

/-- A stop makes turns. -/
theorem turns_stop
    {desk : Desk}
    (numbered : desk.ledger.Numbered)
    (buffer : Option Int) :
    desk.ledger.Turns (after (stop buffer) desk).ledger := by
  unfold stop
  have chosen := keeps_chosenBuffer buffer desk
  refine turns_bind chosen.turns fun number _ => ?_
  rw [after_get_bind]
  have stillDistinct : (after (chosenBuffer buffer) desk).ledger.listed.Nodup := by
    rw [chosen]
    exact numbered.listedDistinct
  generalize after (chosenBuffer buffer) desk = ready at stillDistinct ⊢
  refine turns_bind (turns_stopAll ?_ ?_ ?_) fun _ _ => .refl
  · refine List.Sublist.nodup ?_ stillDistinct
    exact (List.filter_sublist.map Session.id).trans (registered_ids_sublist ready.registry)
  · exact fun session member => entry_of_mem_registered (List.mem_of_mem_filter member)
  · intro session member
    have fits := (List.mem_filter.mp member).2
    simp only [Bool.and_eq_true] at fits
    exact fits.1

end Act

/-!
## Ways of acts

What may become of a desk is said by a relation that is kept when nothing is done and
when one thing is done after the other.  An act keeps to such a way when it does so at
every desk, whether it succeeds or fails; acts in a row keep to it when each of them does.
-/

/-- A relation between desks that may be followed by nothing at all and in several steps. -/
structure Desk.IsWay (way : Desk → Desk → Prop) : Prop where
  refl : ∀ desk, way desk desk
  trans : ∀ {first second third}, way first second → way second third → way first third

namespace Act

variable {α β : Type} {way : Desk → Desk → Prop}

/-- An act keeps to a way at every desk. -/
def KeepsTo (way : Desk → Desk → Prop) (act : Act α) : Prop :=
  ∀ desk, way desk (after act desk)

section

variable (isWay : Desk.IsWay way)

include isWay

theorem keepsTo_pure (value : α) : KeepsTo way (pure value : Act α) :=
  fun desk => isWay.refl desk

theorem keepsTo_throw (failure : Failure) : KeepsTo way (throw failure : Act α) :=
  fun desk => isWay.refl desk

theorem keepsTo_ofExcept
    {ε : Type}
    (cause : ε → Failure)
    (result : Except ε α) :
    KeepsTo way (ofExcept cause result) := by
  cases result with
  | error error =>
      exact keepsTo_throw isWay (cause error)
  | ok value =>
      exact keepsTo_pure isWay value

theorem KeepsTo.bind
    {act : Act α}
    {next : α → Act β}
    (first : KeepsTo way act)
    (second : ∀ value, KeepsTo way (next value)) :
    KeepsTo way (act >>= next) := by
  intro desk
  apply after_bind_of fun left => way desk left
  · intro _ _
    exact first desk
  · intro value _
    exact isWay.trans (first desk) (second value _)

end

theorem keepsTo_modify
    {change : Desk → Desk}
    (changes : ∀ desk, way desk (change desk)) :
    KeepsTo way (modify change : Act Unit) :=
  changes

/-- A look at the desk before an act. -/
theorem keepsTo_get
    {next : Desk → Act β}
    (second : ∀ desk, way desk (after (next desk) desk)) :
    KeepsTo way (get >>= next) :=
  second

/-- A look at the desk before an act that keeps to a way at every desk. -/
theorem keepsTo_look
    {next : Desk → Act β}
    (second : ∀ desk, KeepsTo way (next desk)) :
    KeepsTo way (get >>= next) :=
  fun desk => second desk desk

/-- A change of the host keeps to a way that its results keep to. -/
theorem keepsTo_changeHost
    (isWay : Desk.IsWay way)
    {change : Host Action → Except CommandFault (α × Host Action)}
    (changes : ∀ desk value host, change desk.host = .ok (value, host) →
      way desk { desk with host }) :
    KeepsTo way (changeHost change) := by
  refine keepsTo_get fun desk => ?_
  cases made : change desk.host with
  | error fault =>
      exact isWay.refl desk
  | ok result =>
      exact changes desk result.1 result.2 made

/-- A change of the host that gives nothing else. -/
theorem keepsTo_changeHost_alone
    (isWay : Desk.IsWay way)
    {change : Host Action → Except CommandFault (Host Action)}
    (changes : ∀ desk host, change desk.host = .ok host → way desk { desk with host }) :
    KeepsTo way (changeHost fun host => (change host).map fun changed => ((), changed)) := by
  refine keepsTo_changeHost isWay fun desk value host made => ?_
  cases changed : change desk.host with
  | error fault =>
      rw [changed] at made
      cases made
  | ok result =>
      rw [changed] at made
      cases made
      exact changes desk _ changed

/-- An act that only looks at the desk keeps to every way. -/
theorem Reads.keepsTo
    {act : Act α}
    (reads : Reads act)
    (isWay : Desk.IsWay way) :
    KeepsTo way act := by
  intro desk
  rw [reads desk]
  exact isWay.refl desk

/-! ## Starts and stops

They keep to a way when their parts do.
-/

section

variable
  (isWay : Desk.IsWay way)
  (tells : ∀ level text, KeepsTo way (say level text))
  (chooses : ∀ buffer, KeepsTo way (chosenBuffer buffer))

include isWay tells chooses

theorem keepsTo_stop_of
    (halts : ∀ id, KeepsTo way (transition id .stopping))
    (orders : ∀ given, KeepsTo way (order given))
    (buffer : Option Int) :
    KeepsTo way (stop buffer) := by
  have stopped : ∀ sessions, KeepsTo way (stopAll sessions) := by
    intro sessions
    induction sessions with
    | nil =>
        exact keepsTo_pure isWay ()
    | cons session rest inductionHypothesis =>
        refine KeepsTo.bind isWay ?_ fun _ => inductionHypothesis
        unfold stopSession
        split
        · exact (tells _ _).bind isWay fun _ => (halts _).bind isWay fun _ => orders _
        · exact keepsTo_pure isWay ()
  exact (chooses buffer).bind isWay fun _ => keepsTo_look fun _ =>
    (stopped _).bind isWay fun _ => keepsTo_pure isWay _

theorem keepsTo_startWith_of
    {resolve : Path → Act (Option Path)}
    (finds : ∀ path, KeepsTo way (resolve path))
    (starts : ∀ server root number, KeepsTo way (startAt server root number))
    (overrides : Config.Entries Setting)
    (buffer : Option Int) :
    KeepsTo way (startWith resolve overrides buffer) := by
  refine (chooses buffer).bind isWay fun number => ?_
  refine ((reads_serverSettings overrides).keepsTo isWay).bind isWay fun server => ?_
  refine ((reads_bufferName number).keepsTo isWay).bind isWay fun file => ?_
  have found : KeepsTo way (rootFor resolve file) := by
    unfold rootFor
    split
    · exact keepsTo_pure isWay none
    · exact finds _
  refine found.bind isWay fun root => ?_
  refine ((reads_lacksRoot root).keepsTo isWay).bind isWay fun lacks => ?_
  split
  · exact (tells _ _).bind isWay fun _ => keepsTo_pure isWay none
  · exact (starts server root number).bind isWay fun _ => keepsTo_pure isWay _

end

end Act

/-! ## Finding roots -/

/-- Nothing is new but lines of the log and questions to the probe. -/
def Desk.OnlyAsks (before after : Desk) : Prop :=
  ∃ questions log, after = { before with questions, log }

theorem Desk.isWay_onlyAsks : Desk.IsWay Desk.OnlyAsks where
  refl desk := ⟨desk.questions, desk.log, rfl⟩
  trans := by
    rintro first _ _ ⟨_, _, rfl⟩ ⟨questions, log, rfl⟩
    exact ⟨questions, log, rfl⟩

namespace Act

open Desk (isWay_onlyAsks)

variable {α : Type} {way : Desk → Desk → Prop}

theorem onlyAsks_note (record : Record) : KeepsTo Desk.OnlyAsks (note record) :=
  fun desk => ⟨desk.questions, _, rfl⟩

theorem onlyAsks_say
    (level : Level)
    (text : String) :
    KeepsTo Desk.OnlyAsks (say level text) :=
  onlyAsks_note ⟨level, text⟩

/-- A question is put to the probe before an act. -/
theorem onlyAsks_ask
    (question : ProbeQuestion)
    {next : Unit → Act α}
    (second : KeepsTo Desk.OnlyAsks (next ())) :
    KeepsTo Desk.OnlyAsks
      (modify (fun desk => { desk with questions := desk.questions ++ [question] }) >>= next) :=
  KeepsTo.bind isWay_onlyAsks (keepsTo_modify fun desk => ⟨_, desk.log, rfl⟩) fun _ => second

theorem onlyAsks_noteAnswer (answer : Option String × Record) :
    KeepsTo Desk.OnlyAsks (noteAnswer answer) :=
  (onlyAsks_note answer.2).bind isWay_onlyAsks fun _ => keepsTo_pure isWay_onlyAsks answer.1

theorem onlyAsks_askProbe (manifest directory : Option Path) :
    KeepsTo Desk.OnlyAsks (askProbe manifest directory) := by
  refine keepsTo_look fun desk => ?_
  split
  · exact onlyAsks_ask _ (keepsTo_pure isWay_onlyAsks _)
  · refine ((reads_joinWords _).keepsTo isWay_onlyAsks).bind isWay_onlyAsks fun _ =>
      (onlyAsks_say _ _).bind isWay_onlyAsks fun _ => ?_
    split
    · exact onlyAsks_noteAnswer _
    · exact onlyAsks_ask _ ((keepsTo_ofExcept isWay_onlyAsks _ _).bind isWay_onlyAsks fun _ =>
        onlyAsks_noteAnswer _)

theorem onlyAsks_libraryRoot (place : Path) : KeepsTo Desk.OnlyAsks (libraryRoot place) := by
  refine keepsTo_look fun desk => (keepsTo_ofExcept isWay_onlyAsks _ _).bind isWay_onlyAsks
    fun isLibrary => ?_
  split
  · split
    · exact (onlyAsks_say _ _).bind isWay_onlyAsks fun _ => keepsTo_pure isWay_onlyAsks _
    · exact (onlyAsks_say _ _).bind isWay_onlyAsks fun _ => keepsTo_pure isWay_onlyAsks _
  · exact keepsTo_pure isWay_onlyAsks _

theorem onlyAsks_warnOfForeignRoot
    (crate : Option Path)
    (answer : Option String) :
    KeepsTo Desk.OnlyAsks (warnOfForeignRoot crate answer) := by
  unfold warnOfForeignRoot
  split
  · split
    · exact onlyAsks_say _ _
    · exact keepsTo_pure isWay_onlyAsks ()
  · exact keepsTo_pure isWay_onlyAsks ()

theorem onlyAsks_ordinaryRoot (place : Path) : KeepsTo Desk.OnlyAsks (ordinaryRoot place) := by
  refine keepsTo_look fun _ => (keepsTo_ofExcept isWay_onlyAsks _ _).bind isWay_onlyAsks fun _ =>
    (onlyAsks_askProbe _ _).bind isWay_onlyAsks fun _ =>
      (onlyAsks_warnOfForeignRoot _ _).bind isWay_onlyAsks fun _ => ?_
  exact (keepsTo_ofExcept isWay_onlyAsks _ _).bind isWay_onlyAsks fun _ =>
    (onlyAsks_say _ _).bind isWay_onlyAsks fun _ => keepsTo_pure isWay_onlyAsks _

/-- Finding a root looks at the disk and asks the probe, and leaves no other traces. -/
theorem onlyAsks_resolveRoot (path : Path) : KeepsTo Desk.OnlyAsks (resolveRoot path) := by
  refine KeepsTo.bind isWay_onlyAsks
    (keepsTo_look fun _ => keepsTo_ofExcept isWay_onlyAsks _ _) fun place => ?_
  refine (onlyAsks_libraryRoot place).bind isWay_onlyAsks fun root => ?_
  split
  · exact keepsTo_pure isWay_onlyAsks _
  · exact onlyAsks_ordinaryRoot place

/-- Finding a root keeps to every way that logs and questions keep to. -/
theorem keepsTo_resolveRoot_of
    (asks : ∀ desk questions log, way desk { desk with questions, log })
    (path : Path) :
    KeepsTo way (resolveRoot path) := by
  intro desk
  obtain ⟨questions, log, same⟩ := onlyAsks_resolveRoot path desk
  rw [same]
  exact asks desk questions log

theorem keeps_resolveRoot (path : Path) : Keeps (resolveRoot path) := by
  intro desk
  obtain ⟨questions, log, same⟩ := onlyAsks_resolveRoot path desk
  unfold KeepsAt
  rw [same]
  rfl

end Act

end AnalyzerSessions
