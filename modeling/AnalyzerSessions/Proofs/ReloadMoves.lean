import AnalyzerSessions.Proofs.AnsweredRequests
import AnalyzerSessions.Proofs.PursuedTasks

namespace AnalyzerSessions

/-!
# Moves of a saved manifest

The auto-commands of a saved manifest are run one after the other.  One whose session is
not concerned does nothing; the server of any other session is sent a request, and what
comes after it waits for the answer.  A request that cannot be written, and one that fails,
ends the auto-commands.
-/

/-- The method that has a server reload its workspace. -/
def reloadMethod : String := "rust-analyzer/reloadWorkspace"

/-- The request that has a server reload its workspace. -/
def reloadRequest (number : Nat) : Json :=
  Move.requestMessage number reloadMethod .null

/-- A running session is concerned by a place when it has no root, or when the place is within its
root. -/
def Desk.isConcerned (desk : Desk) (place : Path) (id : Nat) : Bool :=
  (desk.registry.get? id).any fun session =>
    session.state == .running && session.root.all fun root => place.isWithin root

theorem Desk.running_of_isConcerned
    {desk : Desk}
    {place : Path}
    {id : Nat}
    (concerned : desk.isConcerned place id = true) :
    ∃ session, desk.registry.get? id = some session ∧ session.state = .running := by
  cases found : desk.registry.get? id with
  | none =>
      rw [isConcerned, found] at concerned
      cases concerned
  | some session =>
      rw [isConcerned, found, Option.any_some, Bool.and_eq_true] at concerned
      exact ⟨session, rfl, beq_iff_eq.mp concerned.1⟩

/-- How something failed, if it did. -/
def Outcome.failure? : Outcome → Option Failure
  | .ok _ => none
  | .error failure => some failure

/-- A frame in which a promise is waited for until its time is over. -/
def Frame.IsWait (frame : Frame) : Prop :=
  ∃ promise, frame.IsLimit promise

theorem Frame.areWaits_nil : ∀ frame ∈ ([] : List Frame), frame.IsWait :=
  fun _ member => (List.not_mem_nil member).elim

namespace Move

/-! ## Waiting -/

/-- A move puts nothing on record, and what is next after it waits. -/
structure Lingers (move : Move Next) (station : Station) : Prop where
  recorded : (make move station).2.chronicle = station.chronicle
  waits : ∀ frame ∈ (make move station).1.frames, frame.IsWait

section

variable {record : List Occurrence} {station : Station} (held : station.chronicle = record)

include held

theorem waits_cancelAndWait
    (promise : Nat)
    {frame : Frame}
    (isLimit : frame.IsLimit promise) :
    Retains (fun after => after.chronicle = record) station (cancelAndWait promise frame)
      fun next _ => ∀ known ∈ next.frames, known.IsWait := by
  have waiting : ∀ waiter, ∀ known ∈ ((Next.await waiter).into frame).frames, known.IsWait := by
    intro waiter known member
    cases List.mem_singleton.mp member
    exact ⟨promise, isLimit⟩
  refine ⟨held, fun next same => ?_⟩
  cases same
  exact waiting _

theorem waits_awaitFor
    (promise : Nat)
    (seconds : Number.Binary64) :
    Retains (fun after => after.chronicle = record) station (awaitFor promise seconds)
      fun next _ => ∀ known ∈ next.frames, known.IsWait := by
  unfold awaitFor
  split
  · refine retains_get ?_
    split
    · exact retains_pure held Frame.areWaits_nil
    · exact waits_cancelAndWait held promise .expired
  · refine ⟨held, fun next same => ?_⟩
    cases same
    intro known member
    cases List.mem_singleton.mp member
    exact ⟨promise, .deadline _⟩

theorem waits_awaitWithin
    (promise : Nat)
    (limit : Json) :
    Retains (fun after => after.chronicle = record) station (awaitWithin promise limit)
      fun next _ => ∀ known ∈ next.frames, known.IsWait := by
  unfold awaitWithin
  split
  · exact retains_throw held
  · exact retains_pure held Frame.areWaits_nil
  · exact waits_awaitFor held promise _

theorem waits_resume
    {frame : Frame}
    (isWait : frame.IsWait)
    (outcome : Outcome) :
    Retains (fun after => after.chronicle = record) station (resume frame outcome)
      fun next _ => ∀ known ∈ next.frames, known.IsWait := by
  obtain ⟨promise, isLimit⟩ := isWait
  have cancelled : ∀ mid : Station, mid.chronicle = record → ∀ time : Nat,
      Retains (fun after => after.chronicle = record) mid (cancelTimer time) fun _ _ => True :=
    fun mid same time => retains_modify same
  cases isLimit with
  | deadline time =>
      refine retains_get ?_
      split
      · exact (cancelled station held time).bind fun _ _ same _ =>
          retains_pure same Frame.areWaits_nil
      · exact waits_cancelAndWait held promise .expired
      · exact waits_cancelAndWait held promise (.abandoned time)
  | expired =>
      cases outcome with
      | error failure => exact retains_pure held Frame.areWaits_nil
      | ok value => exact retains_get (retains_pure held Frame.areWaits_nil)
  | abandoned time =>
      exact (cancelled station held time).bind fun _ _ same _ =>
        retains_pure same Frame.areWaits_nil

end

variable {station : Station} {session : Nat}

theorem Retains.lingers
    {move : Move Next}
    (retains : Retains (fun after => after.chronicle = station.chronicle) station move
      fun next _ => ∀ known ∈ next.frames, known.IsWait) :
    Lingers move station := by
  obtain ⟨recorded, waits⟩ := retains
  constructor
  · rw [make_eq]
    generalize perform move station = result at recorded
    obtain ⟨failure | next, after⟩ := result <;> exact recorded
  · rw [make_eq]
    generalize perform move station = result at waits
    obtain ⟨failure | next, after⟩ := result
    · exact Frame.areWaits_nil
    · exact waits next rfl

/-! ## Requests -/

/-- A message is written, or nothing happens. -/
theorem write_cases
    {client : Client}
    (found : station.client? session = some client)
    (talks : ∃ process, station.process? client.process = some process)
    (message : Json) :
    (∃ failure, perform (write session message) station = (.error failure, station)) ∨
      ∃ after, perform (write session message) station = (.ok (), after) ∧
        after.chronicle = station.chronicle ++ [.sent session message] := by
  obtain ⟨process, isProcess⟩ := talks
  cases encoded : Wire.encode message with
  | error fault =>
      refine .inl ⟨.ofWrite fault, ?_⟩
      unfold write
      rw [perform_bind, perform_client found]
      dsimp only
      rw [encoded]
      rfl
  | ok bytes =>
      cases broken : process.isBroken with
      | true =>
          refine .inl ⟨.brokenPipe, ?_⟩
          unfold write
          rw [perform_bind, perform_client found]
          dsimp only
          rw [encoded]
          dsimp only
          rw [perform_get_bind, isProcess]
          dsimp only
          rw [broken]
          rfl
      | false =>
          obtain ⟨after, written, _, sent⟩ :=
            perform_write found ⟨process, isProcess, broken⟩ ⟨bytes, encoded⟩
          exact .inr ⟨after, written, sent⟩

/-- The message of a request is written, or the call ends with a failure. -/
theorem writeRequest_cases
    {client : Client}
    (found : station.client? session = some client)
    (talks : ∃ process, station.process? client.process = some process)
    (number : Nat)
    (message : Json) :
    (∃ failure after, perform (writeRequest session number message) station =
        (.error failure, after) ∧
        after.chronicle = station.chronicle ++ [.settled session number (.error failure)]) ∨
      ∃ after, perform (writeRequest session number message) station = (.ok (), after) ∧
        after.chronicle = station.chronicle ++
          [.sent session message, .written session number] := by
  unfold writeRequest
  rw [perform_bind, perform_tryCatch]
  rcases write_cases found talks message with ⟨failure, refused⟩ | ⟨after, written, sent⟩
  · rw [refused]
    exact .inl ⟨failure, _, rfl, rfl⟩
  · rw [written]
    refine .inr ⟨_, rfl, ?_⟩
    show after.chronicle ++ [_] = _
    rw [sent, List.append_assoc]
    rfl

/-- What comes of asking the server of a session to reload its workspace: the request is written and
its answer waited for, or it cannot be written. -/
inductive Asked (session : Nat) (record : List Occurrence) : Next × Station → Prop where
  | waits {number : Nat} {limit : Json} {waiting : List Frame} {pause : Pause} {after : Station}
      (isWaiting : ∀ frame ∈ waiting, frame.IsWait)
      (recorded : after.chronicle = record ++ [.issued session number,
        .sent session (reloadRequest number), .written session number]) :
      Asked session record
        (⟨waiting ++ [.requested session number reloadMethod limit], pause⟩, after)
  | refused {number : Nat} {failure : Failure} {after : Station}
      (recorded : after.chronicle = record ++
        [.issued session number, .settled session number (.error failure)]) :
      Asked session record (.fail failure, after)

/-- The message of a request is written and its answer is waited for, or the call ends. -/
theorem asked_of_written
    {client : Client}
    {number promise : Nat}
    {limit : Json}
    {record : List Occurrence}
    (found : station.client? session = some client)
    (talks : ∃ process, station.process? client.process = some process)
    (issued : station.chronicle = record ++ [.issued session number]) :
    Asked session record (make (do
        writeRequest session number (reloadRequest number)
        into (awaitWithin promise limit) (.requested session number reloadMethod limit))
      station) := by
  rcases writeRequest_cases found talks number (reloadRequest number) with
    ⟨failure, after, refused, recorded⟩ | ⟨after, written, recorded⟩
  · rw [make_eq, perform_bind, refused]
    refine @Asked.refused session record number failure after ?_
    rw [recorded, issued, List.append_assoc]
    rfl
  · rw [make_bind written, make_into]
    have lingers := (waits_awaitWithin (rfl : after.chronicle = _) promise limit).lingers
    refine .waits lingers.waits ?_
    rw [lingers.recorded, recorded, issued, List.append_assoc]
    rfl

theorem asked_request
    {client : Client}
    (found : station.client? session = some client)
    (talks : ∃ process, station.process? client.process = some process) :
    Asked session station.chronicle
      (make (request session reloadMethod .null .null) station) := by
  unfold request
  rw [make_bind (perform_client found)]
  let promise := station.loop.promises.length
  let promised := station.modifyLoop fun loop =>
    (loop.newPromise (.answer session client.nextRequest)).2
  let issued : Station := { promised.modifyClient session fun client => client.enter promise with
    chronicle := station.chronicle ++ [.issued session client.nextRequest] }
  let text := "LSP REQUEST [" ++ toString client.nextRequest ++ "] " ++ reloadMethod
  let said : Station :=
    { issued with desk := { issued.desk with log := issued.desk.log ++ [⟨.debug, text⟩] } }
  have promises : perform (newPromise (.answer session client.nextRequest)) station =
      (.ok promise, promised) := rfl
  have issues : perform (issue session client.nextRequest promise) promised = (.ok (), issued) :=
    rfl
  have tells : perform (say .debug text) issued = (.ok (), said) := rfl
  have foundNow : said.client? session = some (client.enter promise) := by
    have entered := promised.client?_modifyClient session session fun client => client.enter promise
    have found : promised.client? session = some client := found
    rw [found, Option.map_some, if_pos rfl] at entered
    exact entered
  dsimp only
  rw [make_bind promises, make_bind issues, make_bind tells]
  exact asked_of_written foundNow talks rfl

/-! ## Reloads -/

/-- What is only read at a desk leaves the station as it is. -/
theorem perform_atDesk_of_reads
    {α : Type}
    {act : Act α}
    {result : Except Failure α}
    (silent : station.desk.orders = [])
    (reads : Act.perform act station.desk = (result, station.desk)) :
    perform (atDesk act) station = (result, station) := by
  have cleared : ({ station.desk with orders := [] } : Desk) = station.desk := by
    rw [← silent]
  have after : Act.after act station.desk = station.desk := congrArg Prod.snd reads
  rw [perform_atDesk_of_silent (by rw [cleared, after, silent]), cleared, after, reads]

/-- Whether a session is concerned by a file is found out where the file leads somewhere. -/
theorem perform_concernsManifest
    {desk : Desk}
    {file place : Path}
    (leads : desk.disk.resolve file = .ok place)
    (id : Nat) :
    Act.perform (Act.concernsManifest id file) desk = (.ok (desk.isConcerned place id), desk) := by
  unfold Act.concernsManifest Desk.isConcerned
  rw [Act.perform_get_bind]
  cases desk.registry.get? id with
  | none =>
      rfl
  | some session =>
      dsimp only [Option.any_some]
      by_cases running : session.state = .running
      · rw [if_neg (not_not_intro running), running]
        cases session.root with
        | none =>
            rfl
        | some root =>
            have resolves : Act.perform (Act.resolvePath file) desk = (.ok place, desk) := by
              unfold Act.resolvePath
              rw [Act.perform_get_bind, leads]
              rfl
            dsimp only
            rw [Act.perform_bind, resolves]
            rfl
      · have notRunning : (session.state == .running) = false := beq_eq_false_iff_ne.mpr running
        rw [if_pos running, notRunning]
        rfl

/-- A session that is not concerned by a file does nothing. -/
theorem make_reloadFor_of_not
    {name : String}
    {place : Path}
    (silent : station.desk.orders = [])
    (leads : station.desk.disk.resolve (Path.ofText name) = .ok place)
    (unconcerned : station.desk.isConcerned place session = false) :
    make (reloadFor session name) station = (Next.done, station) := by
  unfold reloadFor
  rw [make_bind (perform_atDesk_of_reads silent (perform_concernsManifest leads session)),
    unconcerned]
  rfl

/-- A concerned session runs, has its client, and its server is asked to reload. -/
theorem asked_reloadFor
    {name : String}
    {place : Path}
    {client : Client}
    (silent : station.desk.orders = [])
    (isArmed : station.desk.IsArmed)
    (leads : station.desk.disk.resolve (Path.ofText name) = .ok place)
    (concerned : station.desk.isConcerned place session = true)
    (found : station.client? session = some client)
    (talks : ∃ process, station.process? client.process = some process) :
    ∃ result, Asked session station.chronicle result ∧
      make (reloadFor session name) station =
        (result.1.into (.leafAnswered .reloadWorkspace), result.2) := by
  obtain ⟨owner, owns, runs⟩ := Desk.running_of_isConcerned concerned
  have connected : owner.client = some .client :=
    ((isArmed.armed session owner owns).running runs).2
  have acts : Act.perform (Act.leafAction reloadLeaf ([] : List Json).length) station.desk =
      (.ok .reloadWorkspace, station.desk) := by
    unfold Act.leafAction
    rw [Act.perform_get_bind, isArmed.builtIn]
    rfl
  let text := "Reloading workspace " ++ Session.rootText owner.root
  let said : Station :=
    { station with desk := { station.desk with log := station.desk.log ++ [⟨.info, text⟩] } }
  have cleared : ({ station.desk with orders := [] } : Desk) = station.desk := by
    rw [← silent]
  have tells : perform (atDesk (Act.leafMessage owner .reloadWorkspace [])) station =
      (.ok ⟨true, reloadMethod, .null⟩, said) := by
    rw [perform_atDesk_of_silent, cleared]
    · rfl
    · rw [cleared]
      exact silent
  have isOwner : station.session? session = some owner := owns
  have connects : perform (connection session "send_request") said = (.ok .client, said) := by
    have ownsNow : said.session? session = some owner := isOwner
    unfold connection
    rw [perform_get_bind, ownsNow, Option.bind_some, connected]
    rfl
  refine ⟨_, @asked_request said session client found talks, ?_⟩
  have asks : make (sendRequest session reloadMethod .null) said =
      make (request session reloadMethod .null .null) said := by
    unfold sendRequest
    rw [make_bind connects]
  rw [← asks, ← make_into]
  unfold reloadFor
  rw [make_bind (perform_atDesk_of_reads silent (perform_concernsManifest leads session)),
    concerned]
  show make (runLeaf session reloadLeaf []) station = _
  unfold runLeaf
  rw [make_bind (perform_atDesk_of_reads silent acts)]
  show make (Move.session session >>= fun owner => _) station = _
  rw [make_bind (perform_session isOwner), make_bind tells]
  rfl

/-! ## What comes after an answer -/

/-- The call that made a request ends with what was answered, which is put on record. -/
theorem make_afterRequest
    (station : Station)
    (session number : Nat)
    (method : String)
    (limit : Json)
    (outcome : Outcome) :
    ∃ settled after,
      make (afterRequest session number method limit outcome) station = (.give settled, after) ∧
        after.chronicle = station.chronicle ++ [.settled session number settled] := by
  unfold afterRequest
  split
  · exact ⟨_, _, rfl, rfl⟩
  · exact ⟨_, _, rfl, rfl⟩

/-- A reload gives nothing, or the failure of its request. -/
theorem make_afterLeaf
    (station : Station)
    (outcome : Outcome) :
    ∃ given, make (afterLeaf .reloadWorkspace outcome) station = (.give given, station) ∧
      given.failure? = outcome.failure? := by
  unfold afterLeaf
  split
  · exact ⟨_, rfl, rfl⟩
  · exact ⟨_, rfl, rfl⟩

/-- Writing a buffer gives nothing, or the failure of an auto-command. -/
theorem make_afterDiscarded
    (station : Station)
    (outcome : Outcome) :
    ∃ given, make (afterDiscarded outcome) station = (.give given, station) ∧
      given.failure? = outcome.failure? := by
  cases outcome with
  | ok value => exact ⟨_, rfl, rfl⟩
  | error failure => exact ⟨_, rfl, rfl⟩

end Move

end AnalyzerSessions
