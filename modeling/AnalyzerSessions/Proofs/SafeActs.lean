import AnalyzerSessions.Proofs.OrderlyLedger
import AnalyzerSessions.Proofs.SessionReports
import AnalyzerSessions.Proofs.SessionStarts
import AnalyzerSessions.Proofs.LedgerActs
import AnalyzerSessions.Session.Routing

namespace AnalyzerSessions

/-!
# Acts that are safe beside servers

Whatever a manager does at its desk, its sessions keep their numbers, a session
that is stopped stays so, and the only server that it lets the transport launch
is that of a new session.
-/

/-- A computation of which the failure is dealt with. -/
theorem run_tryCatch
    {σ α : Type}
    (tried : ExceptT Failure (StateM σ) α)
    (recover : Failure → ExceptT Failure (StateM σ) α)
    (state : σ) :
    (ExceptT.run (tryCatch tried recover)).run state =
      match (ExceptT.run tried).run state with
      | (.ok value, mid) => (.ok value, mid)
      | (.error failure, mid) => (ExceptT.run (recover failure)).run mid := by
  simp only [tryCatch, tryCatchThe, MonadExceptOf.tryCatch, ExceptT.tryCatch]
  rw [ExceptT.run_mk, StateT.run_bind]
  rcases result : StateT.run tried state with ⟨_ | _, _⟩
  · have sameRun : (ExceptT.run tried).run state = _ := result
    rw [sameRun]
    rfl
  · have sameRun : (ExceptT.run tried).run state = _ := result
    rw [sameRun]
    rfl

namespace Ledger

/-- Sessions keep their numbers and roots, and stay stopped when they are. -/
def Lasts (before after : Ledger) : Prop :=
  ∀ entry ∈ before.entries, ∃ now ∈ after.entries,
    now.id = entry.id ∧ now.root = entry.root ∧ (entry.state = .stopped → now.state = .stopped)

theorem lasts_of_entries_eq
    {before after : Ledger}
    (same : after.entries = before.entries) :
    before.Lasts after :=
  fun entry member => ⟨entry, same ▸ member, rfl, rfl, id⟩

theorem Lasts.trans
    {first second third : Ledger}
    (early : first.Lasts second)
    (late : second.Lasts third) :
    first.Lasts third := by
  intro entry member
  obtain ⟨between, memberBetween, sameBetween, rootBetween, stoppedBetween⟩ := early entry member
  obtain ⟨now, isThere, sameNow, rootNow, stoppedNow⟩ := late between memberBetween
  exact ⟨now, isThere, sameNow.trans sameBetween, rootNow.trans rootBetween,
    fun stopped => stoppedNow (stoppedBetween stopped)⟩

theorem lasts_change
    {ledger : Ledger}
    {id : Nat}
    {revise : LedgerEntry → LedgerEntry}
    (sameId : ∀ entry, (revise entry).id = entry.id)
    (sameRoot : ∀ entry, (revise entry).root = entry.root)
    (stays : ∀ entry ∈ ledger.entries, entry.id = id → entry.state = .stopped →
      (revise entry).state = .stopped) :
    ledger.Lasts (ledger.change id revise) := by
  intro entry member
  refine ⟨_, List.mem_map.mpr ⟨entry, member, rfl⟩, ?_, ?_, ?_⟩
  · split
    · exact sameId entry
    · rfl
  · split
    · exact sameRoot entry
    · rfl
  · intro stopped
    split
    · rename_i isChanged
      exact stays entry member isChanged stopped
    · exact stopped

theorem Numbered.lasts_turn
    {ledger after : Ledger}
    (numbered : ledger.Numbered)
    (turn : ledger.Turn after) :
    ledger.Lasts after := by
  cases turn with
  | enroll root buffer vacant =>
      exact fun entry member => ⟨entry, List.mem_append_left _ member, rfl, rfl, id⟩
  | attach entry known buffer =>
      exact lasts_change (fun _ => rfl) (fun _ => rfl) fun _ _ _ => id
  | launch entry known =>
      exact lasts_of_entries_eq rfl
  | halt entry known active moving =>
      have halted : ledger.Lasts (ledger.change entry.id (·.enter .stopping)) := by
        refine lasts_change (fun _ => rfl) (fun _ => rfl) fun other member same stopped => ?_
        rw [numbered.eq_of_id_eq member known same] at stopped
        rw [stopped] at active
        cases active
      exact halted
  | equip entry known starting =>
      have equipped : ledger.Lasts (ledger.change entry.id (·.equipped ledger.names)) :=
        lasts_change (fun _ => rfl) (fun _ => rfl) fun _ _ _ => id
      exact equipped
  | welcome entry known starting equipped =>
      refine lasts_change (fun _ => rfl) (fun _ => rfl) fun other member same stopped => ?_
      rw [numbered.eq_of_id_eq member known same, starting] at stopped
      cases stopped

/-- Any number of turns keeps a ledger numbered, and sessions stay what they are. -/
theorem Numbered.turns
    {before after : Ledger}
    (numbered : before.Numbered)
    (turns : before.Turns after) :
    after.Numbered ∧ before.Lasts after := by
  induction turns with
  | refl =>
      exact ⟨numbered, lasts_of_entries_eq rfl⟩
  | tail _ last inductionHypothesis =>
      obtain ⟨numberedSoFar, lastsSoFar⟩ := inductionHypothesis
      exact ⟨numberedSoFar.turn last, lastsSoFar.trans (numberedSoFar.lasts_turn last)⟩

theorem lasts_leave
    (ledger : Ledger)
    (entry : LedgerEntry)
    (code : Json) :
    ledger.Lasts (ledger.leave entry code) := by
  have changed : ledger.Lasts (ledger.change entry.id (·.departed code)) :=
    lasts_change (fun known => known.departed_id code) (fun known => known.departed_root code)
      fun known _ _ _ => known.departed_state code
  exact changed

end Ledger

namespace Act

variable {α β : Type}

/-- The transport is told to launch at most the server of a session that is new. -/
def LaunchesNew (before : Ledger) (after : Ledger) : Prop :=
  ∀ id, .launch id ∈ after.orders → after.orders = [.launch id] ∧ id ∉ before.ids

/-- What an act does at a desk is safe. -/
structure IsSafeAt (act : Act α) (desk : Desk) : Prop where
  numbered : (after act desk).ledger.Numbered
  lasts : desk.ledger.Lasts (after act desk).ledger
  launches : LaunchesNew desk.ledger (after act desk).ledger

/-! ## Acts that spare the sessions -/

/-- An act changes at most the user commands of the host. -/
def Spares (act : Act α) : Prop :=
  ∀ desk, ∃ commands, (after act desk).ledger = { desk.ledger with hostCommands := commands }

/-- An act that goes unnoticed spares the sessions. -/
theorem Keeps.spares
    {act : Act α}
    (keeps : Keeps act) :
    Spares act :=
  fun desk => ⟨desk.ledger.hostCommands, keeps desk⟩

theorem spares_setHost (host : Host Action) : Spares (setHost host) :=
  fun _ => ⟨host.commands, rfl⟩

theorem Spares.bind
    {act : Act α}
    {next : α → Act β}
    (first : Spares act)
    (second : ∀ value, Spares (next value)) :
    Spares (act >>= next) := by
  intro desk
  apply after_bind_of fun left =>
    ∃ commands, left.ledger = { desk.ledger with hostCommands := commands }
  · intro _ _
    exact first desk
  · intro value _
    obtain ⟨early, same⟩ := first desk
    obtain ⟨late, sameLate⟩ := second value (after act desk)
    refine ⟨late, ?_⟩
    rw [sameLate, same]

/-- An act of which the failure is dealt with. -/
theorem Spares.recover
    {act : Act α}
    {recover : Failure → Act α}
    (tried : Spares act)
    (recovered : ∀ failure, Spares (recover failure)) :
    Spares (tryCatch act recover) := by
  intro desk
  obtain ⟨early, same⟩ := tried desk
  unfold after perform at same ⊢
  rw [run_tryCatch]
  generalize (ExceptT.run act).run desk = result at same ⊢
  rcases result with ⟨failure | value, mid⟩
  · obtain ⟨late, sameLate⟩ := recovered failure mid
    refine ⟨late, ?_⟩
    unfold after perform at sameLate
    dsimp only at same ⊢
    rw [sameLate, same]
  · exact ⟨early, same⟩

/-- An act that spares the sessions is safe where the transport was told nothing. -/
theorem Spares.isSafeAt
    {act : Act α}
    {desk : Desk}
    (spares : Spares act)
    (numbered : desk.ledger.Numbered)
    (silent : desk.orders = []) :
    IsSafeAt act desk := by
  obtain ⟨commands, same⟩ := spares desk
  refine ⟨?_, ?_, ?_⟩
  · rw [same]
    exact numbered.host commands
  · exact Ledger.lasts_of_entries_eq (by rw [same])
  · intro id launched
    rw [same] at launched
    have told : .launch id ∈ desk.orders := launched
    rw [silent] at told
    cases told

theorem spares_ofExcept
    {ε : Type}
    (cause : ε → Failure)
    (result : Except ε α) :
    Spares (ofExcept cause result) :=
  (keeps_ofExcept cause result).spares

theorem spares_openBuffer
    (path : Path)
    (text : Option String)
    (focus : Bool) :
    Spares (openBuffer path text focus) := by
  refine keeps_get.spares.bind fun desk => (spares_ofExcept _ _).bind fun opened => ?_
  exact (spares_setHost _).bind fun _ => (keeps_pure _).spares

theorem spares_applyBatch
    (edits : List TextEdit)
    (number : Int)
    (encoding : Text.Encoding) :
    Spares (applyBatch edits number encoding) := by
  refine keeps_get.spares.bind fun desk => ?_
  split
  · exact (keeps_throw _).spares
  · refine keeps_get.spares.bind fun _ => ?_
    split
    · exact (keeps_throw _).spares
    · exact (spares_setHost _).bind fun _ => (keeps_note _).spares

theorem spares_applyBatches
    (encoding : Text.Encoding)
    (batches : List (String × List TextEdit)) :
    Spares (applyBatches encoding batches) := by
  induction batches with
  | nil =>
      exact (keeps_pure ()).spares
  | cons batch rest inductionHypothesis =>
      refine Spares.bind ?_ fun number =>
        (spares_applyBatch _ _ _).bind fun _ => inductionHypothesis
      exact (spares_ofExcept _ _).bind fun _ => spares_openBuffer _ _ _

theorem spares_answerApplyEdit
    (session : Session)
    (params : Json) :
    Spares (answerApplyEdit session params) := by
  refine Spares.recover (Spares.bind ?_ fun _ => (keeps_pure _).spares) fun failure => ?_
  · refine (spares_ofExcept _ _).bind fun request => (spares_ofExcept _ _).bind fun batches => ?_
    exact spares_applyBatches _ _
  · split
    · exact ((keeps_say _ _).bind fun _ => keeps_pure _).spares
    · exact (keeps_throw _).spares

theorem keeps_noteStatus
    (session : Session)
    (params : Json) :
    Keeps (noteStatus session params) := by
  unfold noteStatus
  split
  · exact keeps_say _ _
  · rename_i status _
    refine Keeps.bind ?_ fun _ => ?_
    · apply keeps_modifySession
      exact fun _ => rfl
    · have quiet : Keeps (if (status.quiescent &&
          !(session.status.map ServerStatus.quiescent).getD false) = true then
            say .info ("Session " ++ toString session.id ++ " is quiescent (health=" ++
              status.health.name ++ ")")
          else pure ()) := by
        split
        · exact keeps_say _ _
        · exact keeps_pure ()
      dsimp only
      split
      · exact (keeps_say _ _).bind fun _ => quiet
      · exact (keeps_say _ _).bind fun _ => quiet
      · exact quiet

theorem keeps_targetSession : Keeps targetSession := by
  refine keeps_currentBuffer.bind fun number => keeps_get.bind fun desk => ?_
  dsimp only
  split
  · exact keeps_pure _
  · split
    · exact keeps_pure _
    · exact keeps_throw _

theorem keeps_leafAction
    (leaf : String)
    (arguments : Nat) :
    Keeps (leafAction leaf arguments) := by
  refine keeps_get.bind fun desk => ?_
  split
  · exact keeps_throw _
  · split
    · exact keeps_pure _
    · exact keeps_throw _

theorem keeps_concernsManifest
    (id : Nat)
    (file : Path) :
    Keeps (concernsManifest id file) := by
  refine keeps_get.bind fun desk => ?_
  split
  · exact keeps_pure _
  · split
    · exact keeps_pure _
    · split
      · exact keeps_pure _
      · exact (keeps_get.bind fun _ => keeps_ofExcept _ _).bind fun _ => keeps_pure _

theorem keeps_currentDocument? : Keeps currentDocument? := by
  refine (keeps_currentBuffer.bind fun number => (reads_bufferName number).keeps).bind fun name => ?_
  split
  · exact keeps_pure _
  · refine (keeps_get.bind fun desk => keeps_ofExcept _ _).bind fun uri => keeps_pure _

theorem keeps_currentDocument : Keeps currentDocument := by
  refine keeps_currentDocument?.bind fun document => ?_
  split
  · exact keeps_pure _
  · exact keeps_throw _

theorem keeps_leafMessage
    (session : Session)
    (action : LeafAction)
    (arguments : List Json) :
    Keeps (leafMessage session action arguments) := by
  cases action with
  | reloadWorkspace =>
      exact (keeps_say _ _).bind fun _ => keeps_pure _
  | flyCheck =>
      exact keeps_currentDocument?.bind fun _ => keeps_pure _
  | crateGraph =>
      unfold leafMessage
      dsimp only
      split
      · exact (keeps_say _ _).bind fun _ => keeps_pure _
      · exact keeps_pure _
  | syntaxTree =>
      exact keeps_currentDocument.bind fun _ => keeps_pure _
  | openManifest =>
      exact keeps_currentDocument.bind fun _ => keeps_pure _
  | runnables =>
      exact keeps_currentDocument.bind fun _ => keeps_pure _
  | supplied code =>
      exact keeps_pure _

/-! ## Acts that launch no server -/

/-- The transport is not told to launch anything. -/
def LaunchesNothing (act : Act α) : Prop :=
  ∀ desk id, .launch id ∈ (after act desk).ledger.orders → .launch id ∈ desk.ledger.orders

/-- An act that goes unnoticed launches nothing. -/
theorem Keeps.launchesNothing
    {act : Act α}
    (keeps : Keeps act) :
    LaunchesNothing act := by
  intro desk id launched
  rwa [keeps desk] at launched

theorem LaunchesNothing.bind
    {act : Act α}
    {next : α → Act β}
    (first : LaunchesNothing act)
    (second : ∀ value, LaunchesNothing (next value)) :
    LaunchesNothing (act >>= next) := by
  intro desk id
  apply after_bind_of fun left => .launch id ∈ left.ledger.orders → .launch id ∈ desk.ledger.orders
  · intro _ _
    exact first desk id
  · intro value _ launched
    exact first desk id (second value (after act desk) id launched)

theorem launchesNothing_transition
    (id : Nat)
    (state : SessionState) :
    LaunchesNothing (transition id state) := by
  intro desk other launched
  rwa [ledger_transition] at launched

theorem launchesNothing_stopSession (session : Session) :
    LaunchesNothing (stopSession session) := by
  intro desk id launched
  rw [ledger_stopSession] at launched
  split at launched
  · exact launched
  · rcases List.mem_append.mp launched with old | new
    · exact old
    · cases List.mem_singleton.mp new

theorem launchesNothing_stopAll (sessions : List Session) :
    LaunchesNothing (stopAll sessions) := by
  induction sessions with
  | nil =>
      exact (keeps_pure ()).launchesNothing
  | cons session rest inductionHypothesis =>
      exact (launchesNothing_stopSession session).bind fun _ => inductionHypothesis

theorem launchesNothing_stop (buffer : Option Int) : LaunchesNothing (stop buffer) := by
  refine (keeps_chosenBuffer buffer).launchesNothing.bind fun number => ?_
  refine keeps_get.launchesNothing.bind fun desk => ?_
  exact (launchesNothing_stopAll _).bind fun _ => (keeps_pure _).launchesNothing

theorem launchesNothing_onInit (id : Nat) : LaunchesNothing (onInit id) := by
  refine keeps_get.launchesNothing.bind fun desk => ?_
  split
  · exact (keeps_pure ()).launchesNothing
  · split
    · refine (keeps_installTransform _).launchesNothing.bind fun _ => ?_
      refine LaunchesNothing.bind (fun desk other launched => ?_) fun _ =>
        (keeps_offerReload _).launchesNothing.bind fun _ => ?_
      · rwa [ledger_equip] at launched
      · refine (launchesNothing_transition _ _).bind fun _ =>
          (launchesNothing_transition _ _).bind fun _ => keeps_get.launchesNothing.bind fun _ => ?_
        exact ((keeps_say _ _).bind fun _ => keeps_tellAll _ _ _).launchesNothing
    · exact (keeps_say _ _).launchesNothing

/-! ## What the manager does -/

theorem isSafeAt_of_turns
    {act : Act α}
    {desk : Desk}
    (numbered : desk.ledger.Numbered)
    (silent : desk.orders = [])
    (turns : desk.ledger.Turns (after act desk).ledger)
    (nothing : LaunchesNothing act) :
    IsSafeAt act desk := by
  obtain ⟨numberedAfter, lasts⟩ := numbered.turns turns
  refine ⟨numberedAfter, lasts, fun id launched => ?_⟩
  have told : .launch id ∈ desk.orders := nothing desk id launched
  rw [silent] at told
  cases told

theorem isSafeAt_stop
    {desk : Desk}
    (numbered : desk.ledger.Numbered)
    (silent : desk.orders = [])
    (buffer : Option Int) :
    IsSafeAt (stop buffer) desk :=
  isSafeAt_of_turns numbered silent (turns_stop numbered buffer) (launchesNothing_stop buffer)

theorem isSafeAt_onInit
    {desk : Desk}
    (numbered : desk.ledger.Numbered)
    (silent : desk.orders = [])
    (id : Nat) :
    IsSafeAt (onInit id) desk :=
  isSafeAt_of_turns numbered silent (turns_onInit id desk) (launchesNothing_onInit id)

theorem isSafeAt_onExit
    {desk : Desk}
    (numbered : desk.ledger.Numbered)
    (silent : desk.orders = [])
    (id : Nat)
    (code : Json) :
    IsSafeAt (onExit id code) desk ∧
      ∀ entry ∈ (after (onExit id code) desk).ledger.entries, entry.id = id →
        entry.state = .stopped := by
  obtain ⟨kept, gone⟩ | ⟨entry, member, rfl, _, left⟩ := ledger_onExit numbered id code
  · refine ⟨⟨?_, Ledger.lasts_of_entries_eq (by rw [kept]), fun other launched => ?_⟩, ?_⟩
    · rw [kept]
      exact numbered
    · rw [kept] at launched
      have told : .launch other ∈ desk.orders := launched
      rw [silent] at told
      cases told
    · rw [kept]
      exact gone
  · refine ⟨⟨?_, ?_, fun other launched => ?_⟩, ?_⟩
    · rw [left]
      exact numbered.leave entry code
    · rw [left]
      exact desk.ledger.lasts_leave entry code
    · rw [left] at launched
      have told : .launch other ∈ desk.orders := launched
      rw [silent] at told
      cases told
    · rw [left]
      intro known isThere same
      obtain ⟨old, _, rfl⟩ := List.mem_map.mp isThere
      split
      · rfl
      · rename_i different
        rw [if_neg different] at same
        exact (different same).elim

theorem succeeds_tell
    (listener : Listener)
    (arguments : List Json) :
    Succeeds (tell listener arguments) := by
  cases listener with
  | value value =>
      exact succeeds_modify _
  | supplied name failure =>
      refine Succeeds.bind (succeeds_modify _) fun _ => ?_
      split
      · exact succeeds_modify _
      · exact succeeds_pure ()

theorem succeeds_tellAll
    (id : Nat)
    (more : List Json)
    (listeners : List Listener) :
    Succeeds (tellAll id more listeners) := by
  induction listeners with
  | nil =>
      exact succeeds_pure ()
  | cons listener rest inductionHypothesis =>
      refine Succeeds.bind (succeeds_get.bind fun _ => succeeds_pure _) fun view => ?_
      exact (succeeds_tell _ _).bind fun _ => inductionHypothesis

/-- The report that a server is initialized fails only where the configuration cannot be used, or the
host refuses a command. -/
theorem failsOnly_onInit
    {may : Failure → Prop}
    (misused : ∀ misuse, may (.misuse misuse))
    (refused : ∀ fault, may (.command fault))
    (id : Nat) :
    FailsOnly may (onInit id) := by
  have equips : ∀ id, Succeeds (equip id) := fun _ =>
    succeeds_get.bind fun _ => Succeeds.bind (succeeds_modify _) fun _ => succeeds_modify _
  have offers : ∀ id, FailsOnly may (offerReload id) := by
    intro id
    refine succeeds_get.failsOnly.bind fun desk => ?_
    refine (failsOnly_ofExcept misused _).bind fun reloads => ?_
    split
    · refine succeeds_get.failsOnly.bind fun desk => ?_
      refine (succeeds_modify _).failsOnly.bind fun _ => ?_
      refine (failsOnly_ofExcept refused _).bind fun _ => ?_
      exact ((succeeds_modify _).bind fun _ => succeeds_modify _).failsOnly
    · exact (succeeds_pure ()).failsOnly
  have begins : ∀ session, Succeeds (beginRunning session) := fun session =>
    (succeeds_transition _ _).bind fun _ => (succeeds_transition _ _).bind fun _ =>
      succeeds_get.bind fun _ => Succeeds.bind (succeeds_modify _) fun _ => succeeds_tellAll _ _ _
  refine succeeds_get.failsOnly.bind fun desk => ?_
  split
  · exact (succeeds_pure ()).failsOnly
  · split
    · refine (succeeds_installTransform _).failsOnly.bind fun _ => ?_
      refine (equips _).failsOnly.bind fun _ => ?_
      exact (offers _).bind fun _ => (begins _).failsOnly
    · exact (succeeds_modify _).failsOnly

theorem succeeds_onExit
    (id : Nat)
    (code : Json) :
    Succeeds (onExit id code) := by
  refine succeeds_get.bind fun desk => ?_
  split
  · exact succeeds_pure ()
  · split
    · exact succeeds_pure ()
    · refine (succeeds_installTransform _).bind fun _ => (succeeds_removeCommands _).bind fun _ => ?_
      refine (succeeds_removeGroup _).bind fun _ => (succeeds_conclude _ _).bind fun _ => ?_
      exact Succeeds.bind (succeeds_modify _) fun _ => succeeds_tellAll _ _ _

/-- What holds before an act that goes unnoticed, and behind the act after it, holds behind both. -/
theorem KeepsAt.bindHolds
    {act : Act α}
    {next : α → Act β}
    {desk : Desk}
    {holds : Ledger → Prop}
    (first : KeepsAt act desk)
    (before : holds desk.ledger)
    (second : ∀ value (ready : Desk), ready.ledger = desk.ledger →
      holds (after (next value) ready).ledger) :
    holds (after (act >>= next) desk).ledger := by
  apply after_bind_of fun left => holds left.ledger
  · intro _ _
    rw [first]
    exact before
  · intro value _
    exact second value _ first

/-- A start for a root launches at most the server of a new session. -/
theorem launchesNew_startAt
    {desk : Desk}
    (numbered : desk.ledger.Numbered)
    (silent : desk.ledger.orders = [])
    (server : Config.Entries Setting)
    (root : Option Path)
    (number : Int) :
    LaunchesNew desk.ledger (after (startAt server root number) desk).ledger := by
  intro id launched
  have nothing : ∀ {ledger : Ledger}, ledger.orders = desk.ledger.orders →
      .launch id ∉ ledger.orders := by
    intro ledger same told
    rw [same, silent] at told
    cases told
  obtain ⟨entry, _, _, _, _, joined⟩ | ⟨_, same⟩ := ledger_startAt numbered server root number
  · rw [joined] at launched
    exact (nothing rfl launched).elim
  · have sameAfter : after (startAt server root number) desk =
        after (launch server root number) desk := congrArg Prod.snd same
    rw [sameAfter] at launched ⊢
    obtain ⟨_, left⟩ | ⟨_, left | left⟩ := ledger_launch numbered server root number
    · rw [left] at launched ⊢
      have orders : ((desk.ledger.enroll root number).tell (.launch desk.ledger.nextId)).orders =
          [.launch desk.ledger.nextId] := by
        simp [Ledger.tell, Ledger.enroll, silent]
      rw [orders] at launched ⊢
      cases List.mem_singleton.mp launched
      exact ⟨rfl, fun used => Nat.lt_irrefl _ (numbered.below _ used)⟩
    · rw [left] at launched
      exact (nothing rfl launched).elim
    · rw [left] at launched
      exact (nothing rfl launched).elim

/-- What holds before a session is started, and behind each start for a root, holds behind the start of
a session. -/
theorem holds_start
    {desk : Desk}
    {holds : Ledger → Prop}
    (before : holds desk.ledger)
    (starts : ∀ server root number (ready : Desk), ready.ledger = desk.ledger →
      holds (after (startAt server root number) ready).ledger)
    (overrides : Config.Entries Setting)
    (buffer : Option Int) :
    holds (after (start overrides buffer) desk).ledger := by
  have unchanged : ∀ ready : Desk, ready.ledger = desk.ledger → holds ready.ledger := by
    intro ready same
    rwa [same]
  unfold start startWith
  refine (keeps_chosenBuffer buffer desk).bindHolds before fun number opened same => ?_
  refine ((reads_serverSettings overrides).keeps opened).bindHolds (unchanged _ same)
    fun server set sameSet => ?_
  have same := sameSet.trans same
  refine ((reads_bufferName number).keeps set).bindHolds (unchanged _ same) fun file named sameNamed => ?_
  have same := sameNamed.trans same
  refine (keeps_rootFor keeps_resolveRoot file named).bindHolds (unchanged _ same)
    fun root placed samePlaced => ?_
  have same := samePlaced.trans same
  refine ((reads_lacksRoot root).keeps placed).bindHolds (unchanged _ same) fun lacks ready sameReady => ?_
  have same := sameReady.trans same
  split
  · have kept : KeepsAt (do
        say .warning ("Not starting " ++ serverName ++ ": no root found for " ++
          (if file.isEmpty then "buffer" else file))
        return (none : Option Nat)) ready :=
      KeepsAt.bind (keeps_say _ _ _) fun _ _ => keeps_pure none _
    exact unchanged _ (kept.trans same)
  · apply after_bind_of fun left => holds left.ledger
    · intro _ _
      exact starts server root number ready same
    · intro _ _
      exact starts server root number ready same

theorem isSafeAt_start
    {desk : Desk}
    (numbered : desk.ledger.Numbered)
    (silent : desk.orders = [])
    (overrides : Config.Entries Setting)
    (buffer : Option Int) :
    IsSafeAt (start overrides buffer) desk := by
  obtain ⟨numberedAfter, lasts⟩ :=
    numbered.turns (turns_startWith keeps_resolveRoot numbered overrides buffer)
  have silentLedger : desk.ledger.orders = [] := silent
  refine ⟨numberedAfter, lasts, holds_start (fun id launched => ?_) ?_ overrides buffer⟩
  · rw [silentLedger] at launched
    cases launched
  · intro server root number ready same
    rw [← same]
    rw [← same] at numbered silentLedger
    exact launchesNew_startAt numbered silentLedger server root number

end Act

end AnalyzerSessions
