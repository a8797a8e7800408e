import AnalyzerSessions.Proofs.CalmMoves
import Mathlib.Data.List.Perm.Subperm

namespace AnalyzerSessions

/-!
# Rights to speak

A few things are said once to the server of a session, and only by whoever has the right
to say them: that its answer to the handshake is accepted, that it is to shut down, and
that it is to exit.  A right comes into being with the client of a session, or when the
session is told to stop; it is held by a frame, and spent when it is used.  Everything
else is said only when the client is introduced and was not asked to stop.
-/

/-- The right to say something once to the server of a session. -/
inductive Right where
  /-- That its answer to the handshake is accepted. -/
  | accept (session : Nat)
  /-- That it is to shut down. -/
  | bid (session : Nat)
  /-- That it is to exit. -/
  | leave (session : Nat)
  deriving DecidableEq

/-- The right that a message with a method takes. -/
def methodRights (session : Nat) (method : String) : List Right :=
  if method = "initialized" then [.accept session]
  else if method = "shutdown" then [.bid session]
  else if method = "exit" then [.leave session]
  else []

/-- The right that a message takes. -/
def messageRights (session : Nat) (message : Json) : List Right :=
  match message.get? "method" with
  | some (.str method) => methodRights session method
  | _ => []

/-- The rights that are used by what happened. -/
def Occurrence.rights : Occurrence → List Right
  | sent session message => messageRights session message
  | _ => []

/-- The rights that a job needs. -/
def Job.rights : Job → List Right
  | request session method _ _ => methodRights session method
  | stopClient session => [.bid session, .leave session]
  | _ => []

/-- The rights that a frame holds. -/
def Frame.rights : Frame → List Right
  | begin job => job.rights
  | handshaken session => [.accept session]
  | shutDown session => [.leave session]
  | _ => []

theorem Frame.IsFree.rights
    {frame : Frame}
    (free : frame.IsFree) :
    frame.rights = [] := by
  cases frame with
  | begin job =>
      cases job with
      | request _ _ _ _ => exact free.elim
      | stopClient _ => exact free.elim
      | _ => rfl
  | handshaken _ => exact free.elim
  | shutDown _ => exact free.elim
  | _ => rfl

theorem Occurrence.IsSilent.rights
    {occurrence : Occurrence}
    (silent : occurrence.IsSilent) :
    occurrence.rights = [] := by
  cases occurrence with
  | sent session message =>
      have noMethod : message.get? "method" = none := silent
      simp [Occurrence.rights, messageRights, noMethod]
  | _ => rfl

/-! ## What was said -/

/-- A message with a method was sent to the server of a session. -/
def Says (chronicle : List Occurrence) (session : Nat) (method : String) : Prop :=
  ∃ message, .sent session message ∈ chronicle ∧ message.get? "method" = some (.str method)

/-- A request or a notification was sent to the server of a session. -/
def HasSpoken (chronicle : List Occurrence) (session : Nat) : Prop :=
  ∃ message, .sent session message ∈ chronicle ∧ message.get? "method" ≠ none

/-- Whoever has said something has spoken. -/
theorem Says.hasSpoken
    {chronicle : List Occurrence}
    {session : Nat}
    {method : String}
    (said : Says chronicle session method) :
    HasSpoken chronicle session := by
  obtain ⟨message, sent, isMethod⟩ := said
  exact ⟨message, sent, by simp [isMethod]⟩

/-- What silent occurrences leave of a record of messages. -/
theorem mem_of_silent
    {chronicle more : List Occurrence}
    {session : Nat}
    {message : Json}
    (silent : ∀ occurrence ∈ more, occurrence.IsSilent)
    (sent : .sent session message ∈ chronicle ++ more)
    (isSpoken : message.get? "method" ≠ none) :
    .sent session message ∈ chronicle :=
  (List.mem_append.mp sent).resolve_right fun late => isSpoken (silent _ late)

/-- What may be said to the server of a session after what has happened. -/
inductive MaySay (before : List Occurrence) (session : Nat) : Json → Prop where
  /-- The client introduces itself, and has said nothing before. -/
  | introduction {params : Json} (first : ¬HasSpoken before session) :
      MaySay before session (Move.requestMessage 1 "initialize" params)
  /-- The answer to the introduction was read and is accepted. -/
  | acceptance {answer : Json} {result : InitializeResult}
      (replied : WasReplied before session "initialize" (.json answer))
      (valid : Schema.check "InitializeResult" InitializeResult.read (Act.presentParams answer) =
        .ok result) :
      MaySay before session (Move.notificationMessage "initialized" (.obj []))
  /-- A client that is introduced asks a server that was not told to shut down. -/
  | request {number : Nat} {method : String} {params : Json}
      (introduced : IsIntroduced before session)
      (ordinary : method ∉ ["initialize", "initialized", "exit"])
      (goesOn : ¬Says before session "shutdown") :
      MaySay before session (Move.requestMessage number method params)
  /-- A client that is introduced tells something. -/
  | notification {method : String} {params : Json}
      (introduced : IsIntroduced before session)
      (ordinary : method ∉ ["initialize", "initialized", "shutdown", "exit"]) :
      MaySay before session (Move.notificationMessage method params)
  /-- The server is to exit, and has agreed to shut down. -/
  | farewell {value : Value}
      (replied : WasReplied before session "shutdown" value) :
      MaySay before session (Move.notificationMessage "exit" .null)

/-- What may be said may be said when something silent has happened. -/
theorem MaySay.later
    {before more : List Occurrence}
    {session : Nat}
    {message : Json}
    (may : MaySay before session message)
    (silent : ∀ occurrence ∈ more, occurrence.IsSilent) :
    MaySay (before ++ more) session message := by
  have grows : before <+: before ++ more := List.prefix_append before more
  cases may with
  | introduction first =>
      exact .introduction fun ⟨known, sent, isSpoken⟩ =>
        first ⟨known, mem_of_silent silent sent isSpoken, isSpoken⟩
  | acceptance replied valid =>
      exact .acceptance (replied.mono grows) valid
  | request introduced ordinary goesOn =>
      refine .request (introduced.mono grows) ordinary fun ⟨known, sent, isMethod⟩ => ?_
      exact goesOn ⟨known, mem_of_silent silent sent (by simp [isMethod]), isMethod⟩
  | notification introduced ordinary =>
      exact .notification (introduced.mono grows) ordinary
  | farewell replied =>
      exact .farewell (replied.mono grows)

/-- Whatever was said was such that it might be said. -/
def IsOrderly (chronicle : List Occurrence) : Prop :=
  ∀ before session message, before ++ [.sent session message] <+: chronicle →
    message.get? "method" ≠ none → MaySay before session message

theorem IsOrderly.concat
    {chronicle : List Occurrence}
    {occurrence : Occurrence}
    (orderly : IsOrderly chronicle)
    (may : ∀ session message, occurrence = .sent session message →
      message.get? "method" ≠ none → MaySay chronicle session message) :
    IsOrderly (chronicle ++ [occurrence]) := by
  intro before session message isPart isSpoken
  rcases List.prefix_concat_iff.mp isPart with isWhole | isEarly
  · obtain ⟨rfl, isLast⟩ := List.append_inj' isWhole rfl
    cases isLast
    exact may session message rfl isSpoken
  · exact orderly before session message isEarly isSpoken

theorem IsOrderly.later
    {chronicle more : List Occurrence}
    (orderly : IsOrderly chronicle)
    (silent : ∀ occurrence ∈ more, occurrence.IsSilent) :
    IsOrderly (chronicle ++ more) := by
  induction more generalizing chronicle with
  | nil =>
      rwa [List.append_nil]
  | cons occurrence rest inductionHypothesis =>
      have added : IsOrderly (chronicle ++ [occurrence]) := by
        refine orderly.concat fun session message same isSpoken => ?_
        subst same
        exact (isSpoken (silent _ List.mem_cons_self)).elim
      rw [List.append_cons]
      exact inductionHypothesis added fun other member =>
        silent other (List.mem_cons_of_mem occurrence member)

/-- What a job needs to be given to a task of a manager with built-in leaves: what a client says is
said in the course of its start or its stop, or by a command. -/
def Job.MayBegin (chronicle : List Occurrence) : Job → Prop
  | request session method _ _ => method = "shutdown" ∧ IsIntroduced chronicle session
  | notify _ _ _ => False
  | startClient _ => False
  | leaf _ _ _ => False
  | _ => True

/-- What a frame needs to be among the frames of a task. -/
def Frame.MayStand (chronicle : List Occurrence) : Frame → Prop
  | begin job => job.MayBegin chronicle
  | _ => True

theorem Frame.IsFree.mayStand
    {frame : Frame}
    (free : frame.IsFree)
    (chronicle : List Occurrence) :
    frame.MayStand chronicle := by
  cases frame with
  | begin job =>
      cases job with
      | request _ _ _ _ => exact free.elim
      | notify _ _ _ => exact free.elim
      | startClient _ => exact free.elim
      | leaf _ _ _ => exact free.elim
      | _ => trivial
  | _ => trivial

theorem Frame.MayStand.mono
    {before after : List Occurrence}
    {frame : Frame}
    (stands : frame.MayStand before)
    (grows : before <+: after) :
    frame.MayStand after := by
  cases frame with
  | begin job =>
      cases job with
      | request session method params timeout =>
          exact ⟨stands.1, IsIntroduced.mono stands.2 grows⟩
      | _ => exact stands
  | _ => trivial

namespace Station

/-! ## Rights at a station -/

/-- The rights that are held or were used. -/
def rights (station : Station) : List Right :=
  station.loop.gathered Frame.rights ++ station.chronicle.flatMap Occurrence.rights

/-- What a right is about is there. -/
def Knows (station : Station) : Right → Prop
  | .accept session => station.HasClient session
  | .bid session => session ∈ station.desk.ledger.ids
  | .leave session => session ∈ station.desk.ledger.ids

/-- Every right is there once, and only when it may be. -/
structure Warrants (hand : List Right) (station : Station) : Prop where
  once : (hand ++ station.rights).Nodup
  known : ∀ right ∈ hand ++ station.rights, station.Knows right
  /-- A session that serves was not told to stop. -/
  serving : ∀ entry ∈ station.desk.ledger.entries, entry.state.isServing = true →
    ∀ right ∈ hand ++ station.rights, right ≠ .bid entry.id ∧ right ≠ .leave entry.id

/-- What holds of a station at which clients say what they may, with some rights in hand. -/
structure Mannered (hand : List Right) (station : Station) : Prop
    extends station.Warrants hand where
  frames : ∀ stack ∈ station.loop.frameStacks, ∀ frame ∈ stack.2, frame.MayStand station.chronicle
  orderly : IsOrderly station.chronicle
  unheard : ∀ session, station.client? session = none → ¬HasSpoken station.chronicle session
  introduced : ∀ session client, station.client? session = some client →
    client.isInitialized = true → IsIntroduced station.chronicle session
  numbered : station.desk.ledger.Numbered
  running : ∀ entry ∈ station.desk.ledger.entries, entry.state = .running →
    IsIntroduced station.chronicle entry.id

variable {before after station : Station} {hand other : List Right}

theorem Warrants.mono
    (warrants : before.Warrants hand)
    (fewer : (other ++ after.rights).Subperm (hand ++ before.rights))
    (clients : ∀ session, before.HasClient session → after.HasClient session)
    (ids : ∀ id ∈ before.desk.ledger.ids, id ∈ after.desk.ledger.ids)
    (serving : ∀ entry ∈ after.desk.ledger.entries, entry.state.isServing = true →
      ∃ old ∈ before.desk.ledger.entries, old.id = entry.id ∧ old.state.isServing = true) :
    after.Warrants other where
  once := by
    obtain ⟨some, same, isPart⟩ := fewer
    exact same.nodup_iff.mp (isPart.nodup warrants.once)
  known right member := by
    have knew := warrants.known right (fewer.subset member)
    cases right with
    | accept session => exact clients session knew
    | bid session => exact ids session knew
    | leave session => exact ids session knew
  serving entry member serves right isRight := by
    obtain ⟨old, isOld, sameId, served⟩ := serving entry member serves
    rw [← sameId]
    exact warrants.serving old isOld served right (fewer.subset isRight)

/-- Fewer rights may be in hand. -/
theorem Mannered.fewer
    (mannered : station.Mannered hand)
    (fewer : other.Subperm hand) :
    station.Mannered other :=
  { mannered with
    toWarrants := mannered.toWarrants.mono ((List.subperm_append_right _).mpr fewer) (fun _ => id)
      (fun _ => id) fun entry member serves => ⟨entry, member, rfl, serves⟩ }

/-! ## What is unspoken -/

theorem Unspoken.rights (unspoken : before.Unspoken after) : after.rights = before.rights := by
  obtain ⟨frames, sameStacks, free⟩ := unspoken.frameStacks
  obtain ⟨occurrences, sameChronicle, silent⟩ := unspoken.chronicle
  have noneHeld : frames.flatMap (fun stack => stack.2.flatMap Frame.rights) = [] :=
    List.flatMap_eq_nil_iff.mpr fun stack member =>
      List.flatMap_eq_nil_iff.mpr fun frame isFrame => (free stack member frame isFrame).rights
  have noneUsed : occurrences.flatMap Occurrence.rights = [] :=
    List.flatMap_eq_nil_iff.mpr fun occurrence member => (silent occurrence member).rights
  unfold Station.rights Loop.gathered
  rw [sameStacks, sameChronicle, List.flatMap_append, List.flatMap_append, noneHeld, noneUsed,
    List.append_nil, List.append_nil]

theorem Unspoken.client?_eq_none
    (unspoken : before.Unspoken after)
    (session : Nat) :
    after.client? session = none ↔ before.client? session = none := by
  have same := unspoken.clients session
  constructor
  · intro missing
    rw [missing] at same
    exact Option.map_eq_none_iff.mp same.symm
  · intro missing
    rw [missing] at same
    exact Option.map_eq_none_iff.mp same

/-- A client is introduced if it was. -/
theorem Unspoken.isInitialized
    {session : Nat}
    {client : Client}
    (unspoken : before.Unspoken after)
    (found : after.client? session = some client) :
    ∃ old, before.client? session = some old ∧ old.isInitialized = client.isInitialized := by
  have same := unspoken.clients session
  rw [found] at same
  exact Option.map_eq_some_iff.mp same.symm

/-- Where nothing is said manners are kept. -/
theorem Mannered.unspoken
    (mannered : before.Mannered hand)
    (unspoken : before.Unspoken after) :
    after.Mannered hand := by
  have wanes := unspoken.sessions mannered.numbered
  refine ⟨mannered.toWarrants.mono ?_ (fun session present => ?_)
    (fun id member => wanes.ids ▸ member) fun entry member serves => ?_,
    fun stack member frame isFrame => ?_, ?_,
    fun session missing => ?_, fun session client found initialized => ?_, wanes.numbered,
    fun entry member runs => ?_⟩
  · rw [unspoken.rights]
  · obtain ⟨client, found⟩ := present
    refine Option.ne_none_iff_exists'.mp fun missing => ?_
    cases ((unspoken.client?_eq_none session).mp missing).symm.trans found
  · obtain ⟨old, isOld, sameId, sameState⟩ := wanes.serving entry member serves
    exact ⟨old, isOld, sameId, sameState ▸ serves⟩
  · obtain ⟨more, same, free⟩ := unspoken.frameStacks
    rw [same] at member
    rcases List.mem_append.mp member with old | new
    · exact (mannered.frames stack old frame isFrame).mono unspoken.grows
    · exact (free stack new frame isFrame).mayStand _
  · obtain ⟨more, same, silent⟩ := unspoken.chronicle
    rw [same]
    exact mannered.orderly.later silent
  · rintro ⟨message, sent, isSpoken⟩
    obtain ⟨more, same, silent⟩ := unspoken.chronicle
    rw [same] at sent
    exact mannered.unheard session ((unspoken.client?_eq_none session).mp missing)
      ⟨message, mem_of_silent silent sent isSpoken, isSpoken⟩
  · obtain ⟨old, wasFound, same⟩ := unspoken.isInitialized found
    exact (mannered.introduced session old wasFound (same.trans initialized)).mono unspoken.grows
  · have serves : entry.state.isServing = true := by
      rw [runs]
      rfl
    obtain ⟨old, isOld, sameId, sameState⟩ := wanes.serving entry member serves
    rw [← sameId]
    exact (mannered.running old isOld (sameState.trans runs)).mono unspoken.grows

/-! ## What is said -/

/-- A message was sent to the server of a session. -/
def heard (station : Station) (session : Nat) (message : Json) : Station :=
  { station with chronicle := station.chronicle ++ [.sent session message] }

/-- Where a client says what it may, and uses the right to say it, manners are kept. -/
theorem Mannered.heard
    {session : Nat}
    {message : Json}
    (mannered : station.Mannered (messageRights session message ++ hand))
    (present : station.HasClient session)
    (may : MaySay station.chronicle session message) :
    (station.heard session message).Mannered hand := by
  have grows : station.chronicle <+: (station.heard session message).chronicle :=
    List.prefix_append _ _
  have rights : (hand ++ (station.heard session message).rights).Perm
      (messageRights session message ++ hand ++ station.rights) := by
    have used : (station.heard session message).rights =
        station.rights ++ messageRights session message := by
      simp [Station.rights, Station.heard, Occurrence.rights]
    rw [used, ← List.append_assoc, List.append_assoc (messageRights _ _)]
    exact List.perm_append_comm
  refine ⟨mannered.toWarrants.mono rights.subperm (fun _ => id) (fun _ => id) fun entry member serves =>
    ⟨entry, member, rfl, serves⟩, fun stack member frame isFrame => ?_, ?_, fun other missing => ?_,
    fun other client found initialized => ?_, mannered.numbered, fun entry member runs => ?_⟩
  · exact (mannered.frames stack member frame isFrame).mono grows
  · refine mannered.orderly.concat fun other said same _ => ?_
    cases same
    exact may
  · rintro ⟨said, sent, isSpoken⟩
    rcases List.mem_append.mp sent with old | isLast
    · exact mannered.unheard other missing ⟨said, old, isSpoken⟩
    · cases List.mem_singleton.mp isLast
      obtain ⟨client, found⟩ := present
      cases missing.symm.trans found
  · exact (mannered.introduced other client found initialized).mono grows
  · exact (mannered.running entry member runs).mono grows

/-- Whoever has the right to say something has not said it. -/
theorem Warrants.not_says
    {session : Nat}
    {method : String}
    {right : Right}
    (warrants : station.Warrants hand)
    (isRight : methodRights session method = [right])
    (held : right ∈ hand) :
    ¬Says station.chronicle session method := by
  rintro ⟨message, sent, isMethod⟩
  have used : right ∈ station.rights := by
    refine List.mem_append_right _ (List.mem_flatMap.mpr ⟨_, sent, ?_⟩)
    simp [Occurrence.rights, messageRights, isMethod, isRight]
  exact (List.nodup_append.mp warrants.once).2.2 right held right used rfl

/-- A session that serves was not told to shut down. -/
theorem Warrants.goesOn
    {entry : LedgerEntry}
    (warrants : station.Warrants hand)
    (member : entry ∈ station.desk.ledger.entries)
    (serves : entry.state.isServing = true) :
    ¬Says station.chronicle entry.id "shutdown" := by
  rintro ⟨message, sent, isMethod⟩
  have used : .bid entry.id ∈ station.rights := by
    refine List.mem_append_right _ (List.mem_flatMap.mpr ⟨_, sent, ?_⟩)
    simp [Occurrence.rights, messageRights, isMethod, methodRights]
  exact (warrants.serving entry member serves _ (List.mem_append_right _ used)).1 rfl

/-! ## Frames that are laid down and taken up -/

/-- Rights change hands when the frames of a task are others. -/
theorem Mannered.reloop
    {change : Loop Frame → Loop Frame}
    (mannered : station.Mannered hand)
    (same : (other ++ (change station.loop).gathered Frame.rights).Perm
      (hand ++ station.loop.gathered Frame.rights))
    (frames : ∀ stack ∈ (change station.loop).frameStacks, ∀ frame ∈ stack.2,
      frame.MayStand station.chronicle) :
    (station.modifyLoop change).Mannered other :=
  { mannered with
    toWarrants := by
      refine mannered.toWarrants.mono (List.Perm.subperm ?_) (fun _ => id) (fun _ => id)
        fun entry member serves => ⟨entry, member, rfl, serves⟩
      unfold rights
      rw [← List.append_assoc, ← List.append_assoc]
      exact same.append_right _
    frames }

/-- A task for a job may begin by whoever has the rights that the job needs. -/
theorem Mannered.spawn
    {job : Job}
    (mannered : station.Mannered (job.rights ++ hand))
    (mayBegin : job.MayBegin station.chronicle) :
    (station.modifyLoop fun loop => (loop.spawn job.topic [.begin job]).2).Mannered hand := by
  have frameStacks := Loop.frameStacks_spawn station.loop job.topic [.begin job]
  refine mannered.reloop ?_ fun stack member frame isFrame => ?_
  · have held : (station.loop.spawn job.topic [.begin job]).2.gathered Frame.rights =
        station.loop.gathered Frame.rights ++ job.rights := by
      simp [Loop.gathered, frameStacks, Frame.rights]
    rw [held, ← List.append_assoc, List.append_assoc job.rights]
    exact List.perm_append_comm
  · rw [frameStacks] at member
    rcases List.mem_append.mp member with old | isLast
    · exact mannered.frames stack old frame isFrame
    · cases List.mem_singleton.mp isLast
      cases List.mem_singleton.mp isFrame
      exact mayBegin

end Station

end AnalyzerSessions
