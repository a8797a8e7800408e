import AnalyzerSessions.Proofs.HostOperations
import AnalyzerSessions.Proofs.ReloadMoves

namespace AnalyzerSessions

/-!
# Reloads of saved manifests

When a manifest is saved, the servers of the sessions that it concerns are asked to reload
their workspaces one after the other, each once, and each when the one before has answered.
A request that fails is the last one: whoever would come after it is not asked.
-/

/-!
## Saved manifests

Whatever place a manifest is saved in, its file is one that the triggers of sessions match.
When nothing else is concerned by it, the sessions are gone through in the order of their
triggers: those that are not concerned are passed over, and the server of the next one that
is gets its request.
-/

/-! ## Names of manifests -/

namespace Text.Wildcard

/-- For a list of elements and each of its ends, whether it matches a text. -/
def matchesOf (elements : List Element) (chars : List Char) : List Bool :=
  chars.foldr (fun char behind => extendMatches char elements behind) (emptyMatches elements)

theorem matchElements_eq
    (elements : List Element)
    (chars : List Char) :
    matchElements elements chars = (matchesOf elements chars).headD false :=
  rfl

/-- What is known of the ends of a list is known of the ends of its rest. -/
theorem tail_matchesOf
    (element : Element)
    (rest : List Element)
    (chars : List Char) :
    (matchesOf (element :: rest) chars).tail = matchesOf rest chars := by
  induction chars with
  | nil =>
      rfl
  | cons char behind inductionHypothesis =>
      show extendMatches char rest (matchesOf (element :: rest) behind).tail = _
      rw [inductionHypothesis]
      rfl

/-- A character is matched by itself. -/
theorem matchElements_exactly
    (char : Char)
    (rest : List Element)
    (behind : List Char) :
    matchElements (.exactly char :: rest) (char :: behind) = matchElements rest behind := by
  show (char == char && (matchesOf (.exactly char :: rest) behind).tail.headD false) = _
  rw [tail_matchesOf, beq_self_eq_true, Bool.true_and, matchElements_eq]

/-- A word matches itself. -/
theorem matchElements_word
    (word : List Char) :
    matchElements (word.map .exactly) word = true := by
  induction word with
  | nil =>
      rfl
  | cons char rest inductionHypothesis =>
      rw [List.map_cons, matchElements_exactly]
      exact inductionHypothesis

/-- Behind any run of characters, a text is matched by whatever matches it. -/
theorem matchElements_anyRun
    {rest : List Element}
    {chars : List Char}
    (matched : matchElements rest chars = true)
    (front : List Char) :
    matchElements (.anyRun :: rest) (front ++ chars) = true := by
  induction front with
  | nil =>
      cases chars with
      | nil =>
          exact matched
      | cons char behind =>
          show (((extendMatches char rest (matchesOf (.anyRun :: rest) behind).tail).headD false) ||
            _) = true
          rw [tail_matchesOf]
          exact Bool.or_eq_true_iff.mpr (.inl matched)
  | cons char front inductionHypothesis =>
      exact Bool.or_eq_true_iff.mpr (.inr inductionHypothesis)

end Text.Wildcard

/-- A manifest in whatever place is matched by the pattern of the triggers. -/
theorem matchesWildcard_manifest
    (front : String) :
    Text.matchesWildcard ("*/" ++ manifestName) (front ++ ("/" ++ manifestName)) = true := by
  have isPattern : Text.Wildcard.elements ("*/" ++ manifestName).toList =
      .anyRun :: ("/" ++ manifestName).toList.map .exactly := by
    decide +kernel
  unfold Text.matchesWildcard
  rw [isPattern]
  generalize "/" ++ manifestName = ending
  rw [String.toList_append]
  exact Text.Wildcard.matchElements_anyRun (Text.Wildcard.matchElements_word _) _

/-! ## Concerned sessions -/

/-- The sessions that auto-commands reload and that are concerned, in order. -/
def concernedSessions (isConcerned : Nat → Bool) (commands : List (AutoCommand Action)) :
    List Nat :=
  (commands.filterMap fun command => command.action.reloads?).filter isConcerned

/-- The session of the first auto-command comes first if it is concerned. -/
theorem concernedSessions_cons
    {isConcerned : Nat → Bool}
    {command : AutoCommand Action}
    {id : Nat}
    (bound : command.action.reloads? = some id)
    (rest : List (AutoCommand Action)) :
    concernedSessions isConcerned (command :: rest) =
      if isConcerned id then id :: concernedSessions isConcerned rest
      else concernedSessions isConcerned rest := by
  unfold concernedSessions
  rw [List.filterMap_cons, bound, List.filter_cons]

/-- A session with a group has one trigger among the auto-commands that the saving of a manifest
concerns. -/
theorem Desk.HoldsTriggers.count_matching
    {desk : Desk}
    (holds : desk.HoldsTriggers)
    {id : Nat}
    (grouped : (desk.registry.group? id).isSome)
    (front : String) :
    ((desk.host.matching Move.writeEvent (front ++ ("/" ++ manifestName))).filterMap
      fun command => command.action.reloads?).count id = 1 := by
  obtain ⟨group, has⟩ := Option.isSome_iff_exists.mp grouped
  obtain ⟨number, isTrigger⟩ := holds.triggered id group has
  have isMatched : Text.matchesWildcard (reloadTrigger number id group).pattern
      (front ++ ("/" ++ manifestName)) = true :=
    matchesWildcard_manifest front
  have swapped : (desk.host.matching Move.writeEvent (front ++ ("/" ++ manifestName))).filter
      (fun command => command.action.reloads? == some id) =
        (desk.host.triggers id).filter fun command => command.event == Move.writeEvent &&
          Text.matchesWildcard command.pattern (front ++ ("/" ++ manifestName)) := by
    unfold Host.matching Host.triggers
    rw [List.filter_filter, List.filter_filter]
    exact List.filter_congr fun command _ => Bool.and_comm _ _
  rw [List.count_filterMap, List.countP_eq_length_filter, swapped, isTrigger,
    List.filter_singleton, isMatched]
  rfl

/-- The saving of a manifest concerns every session that it should, once. -/
theorem Desk.IsArmed.concerned_matching
    {desk : Desk}
    (isArmed : desk.IsArmed)
    (front : String)
    (place : Path) :
    let ids := concernedSessions (desk.isConcerned place)
      (desk.host.matching Move.writeEvent (front ++ ("/" ++ manifestName)))
    ids.Nodup ∧ ∀ id, id ∈ ids ↔ desk.isConcerned place id = true := by
  have once : ∀ id, desk.isConcerned place id = true → (concernedSessions (desk.isConcerned place)
      (desk.host.matching Move.writeEvent (front ++ ("/" ++ manifestName)))).count id = 1 := by
    intro id isConcerned
    obtain ⟨session, found, running⟩ := Desk.running_of_isConcerned isConcerned
    have grouped : (desk.registry.group? id).isSome := by
      rw [group?_of_get? found]
      exact ((isArmed.armed id session found).running running).1
    unfold concernedSessions
    rw [List.count_filter isConcerned]
    exact isArmed.toHoldsTriggers.count_matching grouped front
  have only : ∀ id ∈ concernedSessions (desk.isConcerned place)
      (desk.host.matching Move.writeEvent (front ++ ("/" ++ manifestName))),
      desk.isConcerned place id = true :=
    fun id member => (List.mem_filter.mp member).2
  refine ⟨List.nodup_iff_count_le_one.mpr fun id => ?_, fun id => ⟨only id, fun isConcerned => ?_⟩⟩
  · by_cases isConcerned : desk.isConcerned place id = true
    · exact Nat.le_of_eq (once id isConcerned)
    · have never := List.count_eq_zero.mpr (mt (only id) isConcerned)
      exact Nat.le_trans (Nat.le_of_eq never) (Nat.zero_le 1)
  · exact List.count_pos_iff.mp (once id isConcerned ▸ Nat.one_pos)

/-! ## One session after the other -/

namespace Move

/-- How the auto-commands of a saved manifest go on: there is none left, the session of the next one
is not concerned, or its server is asked to reload. -/
inductive Fires
    (isConcerned : Nat → Bool)
    (path : String)
    (count : Nat)
    (record : List Occurrence) :
    List (AutoCommand Action) → Next × Station → Prop where
  | ends {after : Station}
      (recorded : after.chronicle = record) :
      Fires isConcerned path count record [] (.value (.nat count), after)
  | skips {command : AutoCommand Action} {rest : List (AutoCommand Action)} {id : Nat}
      {after : Station}
      (bound : command.action.reloads? = some id)
      (unconcerned : isConcerned id = false)
      (recorded : after.chronicle = record) :
      Fires isConcerned path count record (command :: rest)
        (Next.done.into (.firing rest path count), after)
  | asks {command : AutoCommand Action} {rest : List (AutoCommand Action)} {id : Nat}
      {result : Next × Station}
      (bound : command.action.reloads? = some id)
      (concerned : isConcerned id = true)
      (asked : Asked id record result) :
      Fires isConcerned path count record (command :: rest)
        ((result.1.into (.leafAnswered .reloadWorkspace)).into (.firing rest path count), result.2)

/-- A station at which the saving of a file may be told to the servers that it concerns. -/
structure MayReload (place : Path) (path : String) (station : Station) : Prop where
  silent : station.desk.orders = []
  isArmed : station.desk.IsArmed
  leads : station.desk.disk.resolve (Path.ofText path) = .ok place
  talks : ∀ id, station.desk.isConcerned place id = true → ∃ client,
    station.client? id = some client ∧ ∃ process, station.process? client.process = some process

/-- It does not matter which frames of a task are set aside. -/
theorem MayReload.laid
    {place : Path}
    {path : String}
    {station : Station}
    (mayReload : MayReload place path station)
    (task : Nat)
    (rest : List Frame) :
    MayReload place path (station.laid task rest) :=
  ⟨mayReload.silent, mayReload.isArmed, mayReload.leads, mayReload.talks⟩

theorem fires_fireAll
    {place : Path}
    {path : String}
    {station : Station}
    (mayReload : MayReload place path station)
    (count : Nat)
    {commands : List (AutoCommand Action)}
    (bound : ∀ command ∈ commands, command.action.reloads?.isSome) :
    Fires (station.desk.isConcerned place) path count station.chronicle commands
      (make (fireAll path count commands) station) := by
  cases commands with
  | nil =>
      exact .ends rfl
  | cons command rest =>
      obtain ⟨id, isBound⟩ := Option.isSome_iff_exists.mp (bound command List.mem_cons_self)
      have isReload : command.action = .reload id := by
        cases action : command.action with
        | reload other =>
            rw [action] at isBound
            cases isBound
            rfl
        | _ =>
            rw [action] at isBound
            cases isBound
      have fires : make (fireAll path count (command :: rest)) station =
          ((make (reloadFor id path) station).1.into (.firing rest path count),
            (make (reloadFor id path) station).2) := by
        show make (into (run [.str path] command.action) (.firing rest path count)) station = _
        rw [isReload, make_into]
        rfl
      rw [fires]
      cases concerned : station.desk.isConcerned place id with
      | false =>
          rw [make_reloadFor_of_not mayReload.silent mayReload.leads concerned]
          exact .skips isBound concerned rfl
      | true =>
          obtain ⟨client, found, talks⟩ := mayReload.talks id concerned
          obtain ⟨result, asked, reloads⟩ := asked_reloadFor mayReload.silent mayReload.isArmed
            mayReload.leads concerned found talks
          rw [reloads]
          exact .asks isBound concerned asked

end Move

/-! ## What reloads put on record -/

/-- What the reload of a session puts on record, and how its request has ended if it has. -/
inductive ReloadRecord (session : Nat) : List Occurrence → Option Outcome → Prop where
  | asked (number : Nat) :
      ReloadRecord session [.issued session number, .sent session (reloadRequest number),
        .written session number] none
  | answered (number : Nat) (outcome : Outcome) :
      ReloadRecord session [.issued session number, .sent session (reloadRequest number),
        .written session number, .settled session number outcome] (some outcome)
  /-- The request could not be written. -/
  | refused (number : Nat) (failure : Failure) :
      ReloadRecord session [.issued session number, .settled session number (.error failure)]
        (some (.error failure))

/-- The servers of sessions have all been asked, one after the other, and none has failed. -/
inductive Reloaded : List Nat → List Occurrence → Prop where
  | none :
      Reloaded [] []
  | next {ids : List Nat} {id : Nat} {deeds more : List Occurrence} {value : Value}
      (earlier : Reloaded ids deeds)
      (answered : ReloadRecord id more (some (.ok value))) :
      Reloaded (ids ++ [id]) (deeds ++ more)

/-- How far the reloads of sessions have come, and whether nothing more comes of them. -/
inductive Reloads (ids : List Nat) : Bool → List Occurrence → Prop where
  /-- Some have been asked and none has failed. -/
  | goOn {done rest : List Nat} {deeds : List Occurrence}
      (split : ids = done ++ rest)
      (reloaded : Reloaded done deeds) :
      Reloads ids rest.isEmpty deeds
  /-- The answer of one is waited for. -/
  | wait {done rest : List Nat} {id : Nat} {before more : List Occurrence}
      (split : ids = done ++ id :: rest)
      (reloaded : Reloaded done before)
      (asked : ReloadRecord id more none) :
      Reloads ids false (before ++ more)
  /-- One has failed, and the rest is not asked. -/
  | fail {done rest : List Nat} {id : Nat} {before more : List Occurrence} {failure : Failure}
      (split : ids = done ++ id :: rest)
      (reloaded : Reloaded done before)
      (failed : ReloadRecord id more (some (.error failure))) :
      Reloads ids true (before ++ more)

/-- The session whose server is asked to reload its workspace. -/
def Occurrence.asked? : Occurrence → Option Nat
  | .sent session message =>
    if message.get? "method" = some (.str reloadMethod) then some session else none
  | _ => none

/-- The sessions whose servers have been asked to reload their workspaces, in order. -/
def askedSessions (deeds : List Occurrence) : List Nat :=
  deeds.filterMap Occurrence.asked?

theorem asked?_sent_reloadRequest (session number : Nat) :
    (Occurrence.sent session (reloadRequest number)).asked? = some session := by
  have isMethod : (reloadRequest number).get? "method" = some (.str reloadMethod) := rfl
  rw [Occurrence.asked?, if_pos isMethod]

/-- A reload asks the server of its session once; that which fails may not ask it. -/
theorem ReloadRecord.askedSessions_eq
    {session : Nat}
    {deeds : List Occurrence}
    {ended : Option Outcome}
    (recorded : ReloadRecord session deeds ended) :
    askedSessions deeds = [session] ∨
      askedSessions deeds = [] ∧ ∃ failure, ended = some (.error failure) := by
  have asks : ∀ number, (Occurrence.sent session (reloadRequest number)).asked?.toList =
      [session] :=
    fun number => by rw [asked?_sent_reloadRequest, Option.toList_some]
  unfold askedSessions
  rw [List.filterMap_eq_flatMap_toList]
  cases recorded with
  | asked number => exact .inl (asks number)
  | answered number outcome => exact .inl (asks number)
  | refused number failure => exact .inr ⟨rfl, failure, rfl⟩

/-- A failure is put on record. -/
theorem ReloadRecord.fails
    {session : Nat}
    {deeds : List Occurrence}
    {failure : Failure}
    (recorded : ReloadRecord session deeds (some (.error failure))) :
    ∃ number, .settled session number (.error failure) ∈ deeds := by
  cases recorded with
  | answered number _ => exact ⟨number, by simp⟩
  | refused number _ => exact ⟨number, by simp⟩

theorem Reloaded.askedSessions_eq
    {ids : List Nat}
    {deeds : List Occurrence}
    (reloaded : Reloaded ids deeds) :
    askedSessions deeds = ids := by
  induction reloaded with
  | none =>
      rfl
  | next earlier answered inductionHypothesis =>
      obtain asked | ⟨_, failure, isFailure⟩ := answered.askedSessions_eq
      · unfold askedSessions at inductionHypothesis asked ⊢
        rw [List.filterMap_append, inductionHypothesis, asked]
      · cases isFailure

/-- The servers are asked in order, and each of them once. -/
theorem Reloads.askedSessions_prefix
    {ids : List Nat}
    {ended : Bool}
    {deeds : List Occurrence}
    (reloads : Reloads ids ended deeds) :
    askedSessions deeds <+: ids := by
  have further : ∀ {done rest : List Nat} {id : Nat} {before more : List Occurrence}
      {outcome : Option Outcome}, ids = done ++ id :: rest → Reloaded done before →
      ReloadRecord id more outcome → askedSessions (before ++ more) <+: ids := by
    intro done rest id before more outcome split reloaded recorded
    have isBefore := reloaded.askedSessions_eq
    unfold askedSessions at isBefore ⊢
    rw [List.filterMap_append, isBefore, split]
    obtain asked | ⟨notAsked, _⟩ := recorded.askedSessions_eq
    · unfold askedSessions at asked
      rw [asked]
      exact ⟨rest, List.append_assoc done [id] rest⟩
    · unfold askedSessions at notAsked
      rw [notAsked, List.append_nil]
      exact List.prefix_append done (id :: rest)
  cases reloads with
  | goOn split reloaded =>
      rw [reloaded.askedSessions_eq, split]
      exact List.prefix_append _ _
  | wait split reloaded asked => exact further split reloaded asked
  | fail split reloaded failed => exact further split reloaded failed

/-- When nothing more comes of the reloads and no request has failed, all servers have been
asked. -/
theorem Reloads.askedSessions_eq
    {ids : List Nat}
    {deeds : List Occurrence}
    (reloads : Reloads ids true deeds)
    (noFailure : ∀ id number failure, .settled id number (.error failure) ∉ deeds) :
    askedSessions deeds = ids := by
  generalize isEnded : true = ended at reloads
  cases reloads with
  | @goOn done rest deeds split reloaded =>
      rw [List.isEmpty_iff.mp isEnded.symm, List.append_nil] at split
      rw [reloaded.askedSessions_eq, split]
  | wait => cases isEnded
  | fail split reloaded failed =>
      obtain ⟨number, isSettled⟩ := failed.fails
      exact (noFailure _ number _ (List.mem_append_right _ isSettled)).elim

namespace Station

variable {station after : Station} {task : Nat} {place : Path} {path : String}
  {isConcerned : Nat → Bool} {ids : List Nat} {deeds : List Occurrence}

/-- What is left of a task that saves a file and fires no more. -/
inductive Unwinds : Outcome → List Frame → Prop where
  | failing (failure : Failure) (rest : List (AutoCommand Action)) (count : Nat) :
      Unwinds (.error failure) [.firing rest path count, .discarding]
  | discarding (outcome : Outcome) :
      Unwinds outcome [.discarding]
  | ending (outcome : Outcome) :
      Unwinds outcome []

/-- How a task stands that saves a file, and what it has put on record. -/
inductive Saves
    (task : Nat)
    (isConcerned : Nat → Bool)
    (path : String)
    (ids : List Nat)
    (deeds : List Occurrence)
    (station : Station) : Prop where
  /-- It goes on to the next auto-command. -/
  | fires {rest : List (AutoCommand Action)} {done : List Nat} {count : Nat} {value : Value}
      (stands : station.Stands task (some (.ok value)) [.firing rest path count, .discarding])
      (bound : ∀ command ∈ rest, command.action.reloads?.isSome)
      (split : ids = done ++ concernedSessions isConcerned rest)
      (reloaded : Reloaded done deeds)
  /-- It waits for an answer. -/
  | waits {rest : List (AutoCommand Action)} {done : List Nat} {id number count : Nat}
      {limit : Json} {waiting : List Frame} {given : Option Outcome} {before : List Occurrence}
      (stands : station.Stands task given (waiting ++ [.requested id number reloadMethod limit,
        .leafAnswered .reloadWorkspace, .firing rest path count, .discarding]))
      (areWaits : ∀ frame ∈ waiting, frame.IsWait)
      (bound : ∀ command ∈ rest, command.action.reloads?.isSome)
      (split : ids = done ++ id :: concernedSessions isConcerned rest)
      (reloaded : Reloaded done before)
      (recorded : deeds = before ++ [.issued id number,
        .sent id (reloadRequest number), .written id number])
  /-- It is told how a request has ended. -/
  | told {rest : List (AutoCommand Action)} {done : List Nat} {id count : Nat} {outcome : Outcome}
      {before more : List Occurrence}
      (stands : station.Stands task (some outcome) [.leafAnswered .reloadWorkspace,
        .firing rest path count, .discarding])
      (bound : ∀ command ∈ rest, command.action.reloads?.isSome)
      (split : ids = done ++ id :: concernedSessions isConcerned rest)
      (reloaded : Reloaded done before)
      (ended : ReloadRecord id more (some outcome))
      (recorded : deeds = before ++ more)
  /-- It comes to its end. -/
  | unwinds {frames : List Frame} {outcome : Outcome}
      (stands : station.Stands task (some outcome) frames)
      (unwinds : @Unwinds path outcome frames)
      (isOver : Reloads ids true deeds)
  | gone
      (isGone : station.IsGone task)
      (isOver : Reloads ids true deeds)

/-- A task that stands is not gone. -/
theorem Stands.not_gone
    {given : Option Outcome}
    {frames : List Frame}
    (stands : station.Stands task given frames) :
    ¬station.IsGone task :=
  fun isGone => isGone.gone frames stands.isThere

/-- The reloads have come as far as what is on record, and to their end when the task is gone. -/
theorem Saves.reloads
    (saves : station.Saves task isConcerned path ids deeds) :
    ∃ ended, Reloads ids ended deeds ∧ (station.IsGone task → ended = true) := by
  cases saves with
  | fires stands bound split reloaded =>
      exact ⟨_, .goOn split reloaded, fun isGone => (stands.not_gone isGone).elim⟩
  | waits stands areWaits bound split reloaded recorded =>
      rw [recorded]
      exact ⟨_, .wait split reloaded (.asked _), fun isGone => (stands.not_gone isGone).elim⟩
  | @told rest done id count outcome before more stands bound split reloaded ended recorded =>
      have notGone : station.IsGone task → ∀ ended, ended = true :=
        fun isGone => (stands.not_gone isGone).elim
      rw [recorded]
      cases outcome with
      | error failure =>
          exact ⟨_, .fail split reloaded ended, fun _ => rfl⟩
      | ok value =>
          rw [← List.singleton_append, ← List.append_assoc] at split
          exact ⟨_, .goOn split (reloaded.next ended), fun isGone => notGone isGone _⟩
  | unwinds stands unwinds isOver =>
      exact ⟨true, isOver, fun _ => rfl⟩
  | gone isGone isOver =>
      exact ⟨true, isOver, fun _ => rfl⟩

/-! ## How a saving task goes on -/

/-- A task that goes on puts on record what its frame did, and stands as the frame said. -/
theorem Stands.step
    {outcome : Outcome}
    {frame : Frame}
    {rest : List Frame}
    (stands : station.Stands task (some outcome) (frame :: rest))
    (poised : station.Poised) :
    ∃ given, station.step.Stands task given
        ((station.moved task frame rest outcome).1.frames ++ rest) ∧
      (∀ told, (station.moved task frame rest outcome).1.pause = .give told → given = some told) ∧
      ∀ more, (station.moved task frame rest outcome).2.chronicle = station.chronicle ++ more →
        station.deedsOf task station.step = more := by
  obtain ⟨turns, _⟩ := poised.turns stands.running (stands.frames_eq poised.toSound)
  obtain ⟨given, standsThen, gives⟩ := turns.stands
  refine ⟨given, standsThen, gives, fun more recorded => ?_⟩
  unfold deedsOf
  rw [stands.isGiven, turns.step]
  show (station.moved task frame rest outcome).2.chronicle.drop station.chronicle.length = more
  rw [recorded, List.drop_left]

/-- Whatever happens to a saving task, it stays as it is, or it goes on. -/
theorem Stands.saves
    {given : Option Outcome}
    {frames : List Frame}
    (stands : station.Stands task given frames)
    (poised : station.Poised)
    (tends : station.Tends after)
    (stays : ∀ now, after.Stands task now frames → (given.isSome → now = given) →
      after.Saves task isConcerned path ids deeds)
    (goesOn : ∀ outcome, station.Stands task (some outcome) frames → given = some outcome →
      station.step.Saves task isConcerned path ids (deeds ++ station.deedsOf task station.step)) :
    after.Saves task isConcerned path ids (deeds ++ station.deedsOf task after) := by
  rcases stands.tends poised tends with ⟨now, standsThen, same, noDeeds⟩ | ⟨outcome, isGiven, rfl⟩
  · rw [noDeeds, List.append_nil]
    exact stays now standsThen same
  · exact goesOn outcome (isGiven ▸ stands) isGiven

/-- What comes of the auto-commands of a saved manifest is how the task stands that runs them. -/
theorem saves_of_fires
    {record : List Occurrence}
    {rest : List (AutoCommand Action)}
    {done : List Nat}
    {count : Nat}
    {result : Next × Station}
    {given : Option Outcome}
    (fires : Move.Fires isConcerned path count record rest result)
    (bound : ∀ command ∈ rest, command.action.reloads?.isSome)
    (split : ids = done ++ concernedSessions isConcerned rest)
    (reloaded : Reloaded done deeds)
    (stands : after.Stands task given (result.1.frames ++ [.discarding]))
    (gives : ∀ told, result.1.pause = .give told → given = some told) :
    ∃ more, result.2.chronicle = record ++ more ∧
      after.Saves task isConcerned path ids (deeds ++ more) := by
  cases fires with
  | ends recorded =>
      obtain rfl := gives _ rfl
      refine ⟨[], by rw [recorded, List.append_nil], ?_⟩
      rw [List.append_nil]
      exact .unwinds stands (.discarding _) (.goOn split reloaded)
  | @skips command rest id _ isBound unconcerned recorded =>
      obtain rfl := gives _ rfl
      refine ⟨[], by rw [recorded, List.append_nil], ?_⟩
      rw [List.append_nil]
      refine .fires stands (fun other member => bound other (List.mem_cons_of_mem _ member)) ?_
        reloaded
      rw [split, concernedSessions_cons isBound, unconcerned]
      rfl
  | @asks command rest id result isBound concerned asked =>
      have boundRest : ∀ other ∈ rest, other.action.reloads?.isSome :=
        fun other member => bound other (List.mem_cons_of_mem _ member)
      have splitHere : ids = done ++ id :: concernedSessions isConcerned rest := by
        rw [split, concernedSessions_cons isBound, concerned]
        rfl
      cases asked with
      | @waits number limit waiting pause mid isWaiting recorded =>
          have standsHere : after.Stands task given (waiting ++ [.requested id number reloadMethod
              limit, .leafAnswered .reloadWorkspace, .firing rest path count, .discarding]) := by
            simpa [Next.into] using stands
          exact ⟨_, recorded, .waits standsHere isWaiting boundRest splitHere reloaded rfl⟩
      | refused recorded =>
          obtain rfl := gives _ rfl
          exact ⟨_, recorded, .told stands boundRest splitHere reloaded (.refused _ _) rfl⟩

/-- A saving task that goes on to the next auto-command comes to its end, passes the session over or
asks its server. -/
theorem Saves.step_fires
    {rest : List (AutoCommand Action)}
    {done : List Nat}
    {count : Nat}
    {value : Value}
    (poised : station.Poised)
    (mayReload : Move.MayReload place path station)
    (stands : station.Stands task (some (.ok value)) [.firing rest path count, .discarding])
    (bound : ∀ command ∈ rest, command.action.reloads?.isSome)
    (split : ids = done ++ concernedSessions (station.desk.isConcerned place) rest)
    (reloaded : Reloaded done deeds) :
    station.step.Saves task (station.desk.isConcerned place) path ids
      (deeds ++ station.deedsOf task station.step) := by
  obtain ⟨given, standsThen, gives, recorded⟩ := stands.step poised
  have fires := Move.fires_fireAll (mayReload.laid task [.discarding]) count bound
  obtain ⟨more, isMore, saves⟩ := saves_of_fires fires bound split reloaded standsThen gives
  rwa [recorded more isMore]

/-- A saving task that waits goes on to wait, or is told how its request has ended. -/
theorem Saves.step_waits
    {rest : List (AutoCommand Action)}
    {done : List Nat}
    {id number count : Nat}
    {limit : Json}
    {waiting : List Frame}
    {outcome : Outcome}
    {before : List Occurrence}
    (poised : station.Poised)
    (stands : station.Stands task (some outcome) (waiting ++ [
      .requested id number reloadMethod limit, .leafAnswered .reloadWorkspace,
      .firing rest path count, .discarding]))
    (areWaits : ∀ frame ∈ waiting, frame.IsWait)
    (bound : ∀ command ∈ rest, command.action.reloads?.isSome)
    (split : ids = done ++ id :: concernedSessions isConcerned rest)
    (reloaded : Reloaded done before) :
    let more : List Occurrence := [.issued id number, .sent id (reloadRequest number),
      .written id number]
    station.step.Saves task isConcerned path ids
      (before ++ more ++ station.deedsOf task station.step) := by
  intro more
  cases waiting with
  | nil =>
      obtain ⟨given, standsThen, gives, recorded⟩ := stands.step poised
      obtain ⟨settled, mid, made, isSettled⟩ :=
        Move.make_afterRequest (station.laid task [.leafAnswered .reloadWorkspace,
          .firing rest path count, .discarding]) id number reloadMethod limit outcome
      have moved : station.moved task (.requested id number reloadMethod limit)
          [.leafAnswered .reloadWorkspace, .firing rest path count, .discarding] outcome =
            (.give settled, mid) := made
      rw [moved] at standsThen gives recorded
      obtain rfl := gives settled rfl
      rw [recorded [.settled id number settled] isSettled]
      exact .told standsThen bound split reloaded (.answered number settled)
        (List.append_assoc _ _ _)
  | cons frame waiting =>
      let behind := waiting ++ [.requested id number reloadMethod limit,
        .leafAnswered .reloadWorkspace, .firing rest path count, .discarding]
      have standsHere : station.Stands task (some outcome) (frame :: behind) := stands
      obtain ⟨given, standsThen, gives, recorded⟩ := standsHere.step poised
      have lingers : Move.Lingers (Move.resume frame outcome) (station.laid task behind) :=
        (Move.waits_resume rfl (areWaits frame List.mem_cons_self) outcome).lingers
      rw [recorded [] (lingers.recorded.trans (List.append_nil _).symm), List.append_nil]
      rw [← List.append_assoc] at standsThen
      refine .waits standsThen (fun known member => ?_) bound split reloaded rfl
      rcases List.mem_append.mp member with isNew | isOld
      · exact lingers.waits known isNew
      · exact areWaits known (List.mem_cons_of_mem _ isOld)

/-- A saving task that is told how a request has ended goes on, or comes to its end. -/
theorem Saves.step_told
    {rest : List (AutoCommand Action)}
    {done : List Nat}
    {id count : Nat}
    {outcome : Outcome}
    {before more : List Occurrence}
    (poised : station.Poised)
    (stands : station.Stands task (some outcome) [.leafAnswered .reloadWorkspace,
      .firing rest path count, .discarding])
    (bound : ∀ command ∈ rest, command.action.reloads?.isSome)
    (split : ids = done ++ id :: concernedSessions isConcerned rest)
    (reloaded : Reloaded done before)
    (ended : ReloadRecord id more (some outcome)) :
    station.step.Saves task isConcerned path ids
      (before ++ more ++ station.deedsOf task station.step) := by
  obtain ⟨given, standsThen, gives, recorded⟩ := stands.step poised
  obtain ⟨told, made, sameFailure⟩ :=
    Move.make_afterLeaf (station.laid task [.firing rest path count, .discarding]) outcome
  have moved : station.moved task (.leafAnswered .reloadWorkspace)
      [.firing rest path count, .discarding] outcome = (.give told, _) := made
  rw [moved] at standsThen gives recorded
  obtain rfl := gives told rfl
  rw [recorded [] (List.append_nil _).symm, List.append_nil]
  cases outcome with
  | ok value =>
      obtain ⟨done', rfl⟩ : ∃ value, told = .ok value := by
        cases told with
        | ok value => exact ⟨value, rfl⟩
        | error failure => cases sameFailure
      refine .fires standsThen bound ?_ (reloaded.next ended)
      rw [split, List.append_assoc]
      rfl
  | error failure =>
      obtain rfl : told = .error failure := by
        cases told with
        | ok value => cases sameFailure
        | error other => cases sameFailure; rfl
      exact .unwinds standsThen (.failing failure rest count) (.fail split reloaded ended)

/-- A saving task that fires no more ends without anything further. -/
theorem Saves.step_unwinds
    {frames : List Frame}
    {outcome : Outcome}
    (poised : station.Poised)
    (stands : station.Stands task (some outcome) frames)
    (unwinds : @Unwinds path outcome frames)
    (isOver : Reloads ids true deeds) :
    station.step.Saves task isConcerned path ids
      (deeds ++ station.deedsOf task station.step) := by
  cases unwinds with
  | failing failure rest count =>
      obtain ⟨given, standsThen, gives, recorded⟩ := stands.step poised
      obtain rfl := gives (.error failure) rfl
      rw [recorded [] (List.append_nil _).symm, List.append_nil]
      exact .unwinds standsThen (.discarding _) isOver
  | discarding =>
      obtain ⟨given, standsThen, gives, recorded⟩ := stands.step poised
      obtain ⟨told, made, _⟩ := Move.make_afterDiscarded (station.laid task []) outcome
      have moved : station.moved task .discarding [] outcome = (.give told, _) := made
      rw [moved] at standsThen gives recorded
      obtain rfl := gives told rfl
      rw [recorded [] (List.append_nil _).symm, List.append_nil]
      exact .unwinds standsThen (.ending _) isOver
  | ending =>
      obtain ⟨isGone, noDeeds⟩ := stands.ends poised
      rw [noDeeds, List.append_nil]
      exact .gone isGone isOver

/-- Whatever happens, the reloads of a saving task come further as they should. -/
theorem Saves.tends
    (saves : station.Saves task (station.desk.isConcerned place) path ids deeds)
    (attentive : station.Attentive)
    (poised : station.Poised)
    (mayReload : Move.MayReload place path station)
    (tends : station.Tends after) :
    after.Saves task (station.desk.isConcerned place) path ids
      (deeds ++ station.deedsOf task after) := by
  cases saves with
  | fires stands bound split reloaded =>
      refine stands.saves poised tends (fun now standsThen same => ?_) fun _ standsNow isGiven => ?_
      · obtain rfl := same rfl
        exact .fires standsThen bound split reloaded
      · exact Saves.step_fires poised mayReload stands bound split reloaded
  | waits stands areWaits bound split reloaded recorded =>
      refine stands.saves poised tends (fun now standsThen _ => ?_) fun _ standsNow isGiven => ?_
      · exact .waits standsThen areWaits bound split reloaded recorded
      · rw [recorded]
        exact Saves.step_waits poised standsNow areWaits bound split reloaded
  | told stands bound split reloaded ended recorded =>
      refine stands.saves poised tends (fun now standsThen same => ?_) fun _ standsNow isGiven => ?_
      · obtain rfl := same rfl
        exact .told standsThen bound split reloaded ended recorded
      · rw [recorded]
        exact Saves.step_told poised stands bound split reloaded ended
  | unwinds stands unwinds isOver =>
      refine stands.saves poised tends (fun now standsThen same => ?_) fun _ standsNow isGiven => ?_
      · obtain rfl := same rfl
        exact .unwinds standsThen unwinds isOver
      · exact Saves.step_unwinds poised stands unwinds isOver
  | gone isGone isOver =>
      obtain ⟨isGoneThen, noDeeds⟩ := isGone.tends attentive poised tends
      rw [noDeeds, List.append_nil]
      exact .gone isGoneThen isOver

end Station

end AnalyzerSessions
