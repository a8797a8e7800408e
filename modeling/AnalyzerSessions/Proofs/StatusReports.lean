import AnalyzerSessions.Proofs.ArmedSessions
import AnalyzerSessions.Proofs.ListenerMoments

namespace AnalyzerSessions

/-!
# Status reports

However many reports a server sends, and however many of them are malformed, the status of its
session is that of the last well-formed one.  That the server has become quiet is logged once
each time, and each report of trouble is logged once, at its level.
-/

/-! ## Reports and records -/

namespace ServerStatus

/-- The status that a report gives, if it is well formed. -/
def of? (report : Json) : Option ServerStatus :=
  (Schema.check "ServerStatus" read (Act.presentParams report)).toOption

/-- Whether a server was at work, or had said nothing, and is quiet now. -/
def TurnsQuiet (previous : Option ServerStatus) (status : ServerStatus) : Bool :=
  status.quiescent && !(previous.map quiescent).getD false

/-- What is said of trouble: its message, or the name of the health without one. -/
def troubleText (status : ServerStatus) : String :=
  (status.message.filter fun text => !text.isEmpty).getD status.health.name

end ServerStatus

namespace Session

/-- The record of a report that is malformed. -/
def malformedRecord (session : Session) (reason : String) : Record :=
  ⟨.warning, "Ignoring malformed serverStatus from session " ++ toString session.id ++ ": " ++
    reason⟩

/-- The record of a server that has become quiet. -/
def quietRecord (session : Session) (status : ServerStatus) : Record :=
  ⟨.info, "Session " ++ toString session.id ++ " is quiescent (health=" ++ status.health.name ++
    ")"⟩

/-- The record of a server that is in trouble. -/
def troubleRecord (session : Session) (level : Level) (status : ServerStatus) : Record :=
  ⟨level, "rust-analyzer (" ++ rootText session.root ++ "): " ++ status.troubleText⟩

/-- The records of the trouble that a server reports: one for an error, and one for a warning. -/
def troubleRecords (session : Session) (status : ServerStatus) : Log :=
  match status.health with
  | .ok => []
  | .warning => [session.troubleRecord .warning status]
  | .error => [session.troubleRecord .error status]

/-- The records that a report is worth, apart from those of servers that become quiet. -/
inductive Tells (session : Session) : (report : Json) → (records : Log) → Prop where
  | malformed {report : Json}
      (isMalformed : ServerStatus.of? report = none)
      (reason : String) :
      Tells session report [session.malformedRecord reason]
  | noted {report : Json} {status : ServerStatus}
      (isStatus : ServerStatus.of? report = some status) :
      Tells session report (session.troubleRecords status)

/-- What becomes of a session whose server has sent reports, and what is logged about it. -/
structure HasHeard (session : Session) (reports : List Json) (heard : Session)
    (records : Log) : Prop where
  /-- The status is the last one that was reported, or still the old one. -/
  last : heard = { session with
    status := (reports.filterMap ServerStatus.of?).getLast?.or session.status }
  /-- A record for each status at which the server becomes quiet. -/
  quiet :
    let statuses := reports.filterMap ServerStatus.of?
    records.filter (·.level = .info) =
      ((session.status :: statuses.map some).zip statuses).filterMap fun (previous, status) =>
        if ServerStatus.TurnsQuiet previous status then some (session.quietRecord status) else none
  /-- The other records are those of the reports, one report after the other. -/
  others : ∃ told, List.Forall₂ session.Tells reports told ∧
    records.filter (·.level ≠ .info) = told.flatten

end Session

namespace Act

/-- Take note of status reports of a session, one after the other. -/
def noteStatuses (id : Nat) : (reports : List Json) → Act Unit
  | [] => pure ()
  | report :: rest => do
    match (← get).registry.get? id with
    | none => pure ()
    | some session => noteStatus session report
    noteStatuses id rest

/-! ## One report -/

theorem perform_noteStatus_of_malformed
    {report : Json}
    (isMalformed : ServerStatus.of? report = none)
    (session : Session)
    (desk : Desk) :
    ∃ reason, perform (noteStatus session report) desk =
      (.ok (), { desk with log := desk.log ++ [session.malformedRecord reason] }) := by
  unfold ServerStatus.of? at isMalformed
  unfold noteStatus
  split
  · exact ⟨_, rfl⟩
  · rename_i checked
    rw [checked] at isMalformed
    cases isMalformed

theorem perform_noteStatus_of_isStatus
    {report : Json}
    {status : ServerStatus}
    (isStatus : ServerStatus.of? report = some status)
    (session : Session)
    (desk : Desk) :
    perform (noteStatus session report) desk = (.ok (), { desk with
      registry := desk.registry.modify session.id fun current =>
        { current with status := some status }
      log := desk.log ++ (session.troubleRecords status ++
        if ServerStatus.TurnsQuiet session.status status then [session.quietRecord status]
        else []) }) := by
  unfold ServerStatus.of? at isStatus
  unfold noteStatus
  split
  · rename_i checked
    rw [checked] at isStatus
    cases isStatus
  · rename_i checked
    rw [checked] at isStatus
    cases isStatus
    by_cases quiet : (status.quiescent &&
        !(session.status.map ServerStatus.quiescent).getD false) = true
    · have turns : ServerStatus.TurnsQuiet session.status status := quiet
      simp only [quiet, turns, if_true]
      rcases status with ⟨_ | _ | _, quiescent, message⟩
      · rfl
      · exact congrArg _ (congrArg _ (List.append_assoc ..))
      · exact congrArg _ (congrArg _ (List.append_assoc ..))
    · have turns : ¬ServerStatus.TurnsQuiet session.status status := quiet
      simp only [quiet, turns]
      rcases status with ⟨_ | _ | _, quiescent, message⟩
      · exact congrArg _ (congrArg _ (List.append_nil _).symm)
      · rfl
      · rfl

end Act

/-! ## Many reports -/

namespace Session

variable {session heard : Session} {report : Json} {reports : List Json} {records : Log}

theorem hasHeard_nil (session : Session) : session.HasHeard [] session [] where
  last := by
    rw [List.filterMap_nil, List.getLast?_nil, Option.none_or]
  quiet := rfl
  others := ⟨[], .nil, rfl⟩

theorem HasHeard.malformed
    (hasHeard : session.HasHeard reports heard records)
    (isMalformed : ServerStatus.of? report = none)
    (reason : String) :
    session.HasHeard (report :: reports) heard (session.malformedRecord reason :: records) where
  last := by
    rw [List.filterMap_cons_none isMalformed]
    exact hasHeard.last
  quiet := by
    rw [List.filterMap_cons_none isMalformed]
    exact hasHeard.quiet
  others := by
    obtain ⟨told, tells, isTold⟩ := hasHeard.others
    exact ⟨_, .cons (.malformed isMalformed reason) tells, congrArg (_ :: ·) isTold⟩

theorem filter_troubleRecords
    (session : Session)
    (status : ServerStatus) :
    (session.troubleRecords status).filter (·.level = .info) = [] ∧
      (session.troubleRecords status).filter (·.level ≠ .info) = session.troubleRecords status := by
  unfold troubleRecords
  cases status.health <;> exact ⟨rfl, rfl⟩

theorem HasHeard.noted
    {status : ServerStatus}
    (hasHeard : { session with status := some status }.HasHeard reports heard records)
    (isStatus : ServerStatus.of? report = some status) :
    session.HasHeard (report :: reports) heard (session.troubleRecords status ++
      ((if ServerStatus.TurnsQuiet session.status status then [session.quietRecord status] else []) ++
        records)) where
  last := by
    rw [List.filterMap_cons_some isStatus, List.getLast?_cons, hasHeard.last]
    cases (reports.filterMap ServerStatus.of?).getLast? <;> rfl
  quiet := by
    dsimp only
    rw [List.filterMap_cons_some isStatus, List.map_cons, List.zip_cons_cons, List.filterMap_cons,
      List.filter_append, (session.filter_troubleRecords status).1, List.filter_append,
      hasHeard.quiet]
    split <;> rfl
  others := by
    obtain ⟨told, tells, isTold⟩ := hasHeard.others
    have same : List.Forall₂ session.Tells reports told := by
      refine tells.imp ?_
      rintro _ _ (⟨isMalformed, reason⟩ | isStatus)
      · exact .malformed isMalformed reason
      · exact .noted isStatus
    refine ⟨_, .cons (.noted isStatus) same, ?_⟩
    rw [List.filter_append, (session.filter_troubleRecords status).2, List.filter_append, isTold,
      List.flatten_cons]
    split <;> rfl

end Session

namespace Act

/-- Whatever a server reports, the last well-formed report is what is known of it. -/
theorem perform_noteStatuses
    {id : Nat}
    {session : Session}
    {desk : Desk}
    (known : desk.registry.get? id = some session)
    (reports : List Json) :
    ∃ heard records registry, perform (noteStatuses id reports) desk =
        (.ok (), { desk with registry, log := desk.log ++ records }) ∧
      session.HasHeard reports heard records ∧
      registry.get? id = some heard ∧
      ∀ other ≠ id, registry.get? other = desk.registry.get? other := by
  induction reports generalizing session desk with
  | nil =>
      refine ⟨session, [], desk.registry, ?_, session.hasHeard_nil, known, fun _ _ => rfl⟩
      rw [List.append_nil]
      rfl
  | cons report reports inductionHypothesis =>
      obtain rfl : session.id = id := (entry_of_get? known).2
      have begins : perform (noteStatuses session.id (report :: reports)) desk =
          perform (do noteStatus session report; noteStatuses session.id reports) desk := by
        rw [noteStatuses, perform_get_bind, known]
      rw [begins, perform_bind]
      cases isStatus : ServerStatus.of? report with
      | none =>
          obtain ⟨reason, noted⟩ := perform_noteStatus_of_malformed isStatus session desk
          obtain ⟨heard, records, registry, performed, hasHeard, found, same⟩ :=
            @inductionHypothesis session
              { desk with log := desk.log ++ [session.malformedRecord reason] } known
          refine ⟨heard, _, registry, ?_, hasHeard.malformed isStatus reason, found, same⟩
          rw [noted]
          refine performed.trans ?_
          rw [List.append_assoc, List.singleton_append]
      | some status =>
          let note (current : Session) : Session := { current with status := some status }
          have sameId : ∀ current, (note current).id = current.id := fun _ => rfl
          have isNoted : (desk.registry.modify session.id note).get? session.id =
              some (note session) := get?_modifySession note sameId known
          have noted := perform_noteStatus_of_isStatus isStatus session desk
          obtain ⟨heard, records, registry, performed, hasHeard, found, same⟩ :=
            @inductionHypothesis (note session) { desk with
              registry := desk.registry.modify session.id note, log := _ } isNoted
          refine ⟨heard, _, registry, ?_, hasHeard.noted isStatus, found, fun other different => ?_⟩
          · rw [noted]
            refine performed.trans ?_
            rw [List.append_assoc, List.append_assoc]
          · exact (same other different).trans (get?_modifySession_of_ne sameId different desk)

/-- Reports of which one is missing and one malformed. -/
def mixedReports : List Json := [
  .null,
  .obj [("quiescent", .bool true)],
  .int 5,
  .obj [("quiescent", .bool true), ("health", .str "error"), ("message", .str "crash")]]

theorem perform_noteStatuses_mixedReports :
    let session := Session.fresh 1 "rust-analyzer" none []
    let desk : Desk := { Desk.bare with registry := ⟨[session], [1]⟩ }
    desk.registry.get? 1 = some session ∧
      mixedReports.map ServerStatus.of? =
        [some ⟨.ok, false, none⟩, some ⟨.ok, true, none⟩, none, some ⟨.error, true, some "crash"⟩] ∧
      ∃ heard records registry, perform (noteStatuses 1 mixedReports) desk =
          (.ok (), { desk with registry, log := desk.log ++ records }) ∧
        session.HasHeard mixedReports heard records ∧
        registry.get? 1 = some heard ∧
        ∀ other ≠ 1, registry.get? other = desk.registry.get? other := by
  intro session desk
  have known : desk.registry.get? 1 = some session := rfl
  exact ⟨known, by decide, perform_noteStatuses known mixedReports⟩

end Act

end AnalyzerSessions
