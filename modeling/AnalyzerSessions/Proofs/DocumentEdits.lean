import AnalyzerSessions.Proofs.HostBuffers
import AnalyzerSessions.Proofs.LedgerActs
import AnalyzerSessions.Session.Editing

namespace AnalyzerSessions

/-!
# Editing documents

Batches of edits are applied one after the other, each to the document of its URI.  A
document ends with the text that its own batches make of the one that it had, or would
have been opened with, and batches for other documents make no difference to it.
-/

/-- The edits for one URI. -/
abbrev Batch := String × List TextEdit

/-- The name of the document of a URI: the place that its path leads to. -/
def Disk.documentName? (disk : Disk) (uri : String) : Option String :=
  match FileUri.toPath uri with
  | .error _ => none
  | .ok path => (disk.resolve path).toOption.map Path.text

namespace Host

variable {host other before mid after : Host Action} {disk : Disk} {uri name text : String}

/-- The name and the text of the document of a URI, as it is open or would be opened. -/
def document (host : Host Action) (disk : Disk) (uri : String) :
    Except Failure (String × String) :=
  match FileUri.toPath uri with
  | .error fault => .error (.uri fault)
  | .ok path =>
    match disk.resolve path with
    | .error error => .error (.file error)
    | .ok place =>
      match host.bufferNamed? place.text with
      | some buffer => .ok (place.text, buffer.text)
      | none =>
        match initialText disk place none with
        | .error error => .error (.file error)
        | .ok content => .ok (place.text, content)

theorem documentName?_of_document (opens : host.document disk uri = .ok (name, text)) :
    disk.documentName? uri = some name := by
  unfold document at opens
  unfold Disk.documentName?
  split at opens
  · cases opens
  · split at opens
    · cases opens
    · rename_i place resolves
      simp only [resolves, Except.toOption, Option.map_some]
      split at opens
      · cases opens
        rfl
      · split at opens
        · cases opens
        · cases opens
          rfl

/-- Whether a document can be opened, and with which text, depends on the host only by its buffer. -/
theorem document_congr
    (isName : disk.documentName? uri = some name)
    (same : host.bufferNamed? name = other.bufferNamed? name) :
    host.document disk uri = other.document disk uri := by
  unfold Disk.documentName? at isName
  unfold document
  split at isName
  · cases isName
  · rename_i path _
    cases resolves : disk.resolve path with
    | error error => rfl
    | ok place =>
        rw [resolves] at isName
        cases isName
        simp only [same]

theorem document_of_open
    {buffer : Buffer}
    (isName : disk.documentName? uri = some name)
    (isOpen : host.bufferNamed? name = some buffer) :
    host.document disk uri = .ok (name, buffer.text) := by
  unfold Disk.documentName? at isName
  unfold document
  split at isName
  · cases isName
  · rename_i path _
    cases resolves : disk.resolve path with
    | error error =>
        rw [resolves] at isName
        cases isName
    | ok place =>
        rw [resolves] at isName
        cases isName
        simp only [isOpen]

theorem seat_text (opens : host.document disk uri = .ok (name, text)) :
    (host.seat name text).text = text := by
  cases isOpen : host.bufferNamed? name with
  | none =>
      simp [seat, isOpen]
  | some buffer =>
      rw [document_of_open (documentName?_of_document opens) isOpen] at opens
      cases opens
      simp [seat, isOpen]

/-! ## Batches in a row -/

/-- The text that a batch makes of one. -/
def revised (change : List TextEdit → List TextEdit) (encoding : Text.Encoding) (text : String)
    (batch : Batch) : String :=
  String.ofList (splice encoding (change batch.2) text.toList)

/-- Batches are applied in a row, each after a change of it. -/
inductive Edits (disk : Disk) (change : List TextEdit → List TextEdit) (encoding : Text.Encoding) :
    List Batch → Host Action → Host Action → Prop where
  | none {host : Host Action} :
      Edits disk change encoding [] host host
  | next {host after : Host Action} {batch : Batch} {rest : List Batch} {name text : String}
      (opens : host.document disk batch.1 = .ok (name, text))
      (later : Edits disk change encoding rest
        (host.rewritten name text (revised change encoding text batch)) after) :
      Edits disk change encoding (batch :: rest) host after

/-- The batches for one document. -/
def own (disk : Disk) (name : String) (batches : List Batch) : List Batch :=
  batches.filter fun batch => disk.documentName? batch.1 == some name

theorem own_append (disk : Disk) (name : String) (early late : List Batch) :
    own disk name (early ++ late) = own disk name early ++ own disk name late :=
  List.filter_append _ _

/-- What batches make of a host. -/
structure IsEdited (disk : Disk) (change : List TextEdit → List TextEdit)
    (encoding : Text.Encoding) (batches : List Batch) (before after : Host Action) : Prop where
  /-- A document for which there are batches ends with the text that they make one after the other
  of the one with which it was open, or was opened. -/
  named : ∀ name first rest, own disk name batches = first :: rest →
    ∃ text, before.document disk first.1 = .ok (name, text) ∧
      (after.bufferNamed? name).map Buffer.text =
        some ((first :: rest).foldl (revised change encoding) text)
  /-- Other documents stay as they are, and are not opened. -/
  others : ∀ name, own disk name batches = [] → after.buffersNamed name = before.buffersNamed name
  /-- No buffer is closed, or gets another number or name. -/
  seats : before.seats <+: after.seats
  /-- Commands, groups and auto-commands stay as they are, and so does what is current. -/
  rest : after = { before with buffers := after.buffers, nextId := after.nextId }

section

variable {change : List TextEdit → List TextEdit} {encoding : Text.Encoding}
  {batch : Batch} {batches more : List Batch}

theorem IsEdited.refl (host : Host Action) : IsEdited disk change encoding [] host host :=
  ⟨nofun, fun _ _ => rfl, List.prefix_rfl, rfl⟩

theorem bufferNamed?_congr (same : after.buffersNamed name = before.buffersNamed name) :
    after.bufferNamed? name = before.bufferNamed? name := by
  rw [bufferNamed?_eq_head?, bufferNamed?_eq_head?, same]

theorem IsEdited.trans
    (early : IsEdited disk change encoding batches before mid)
    (late : IsEdited disk change encoding more mid after) :
    IsEdited disk change encoding (batches ++ more) before after := by
  refine ⟨fun name first rest isOwn => ?_, fun name isOwn => ?_, early.seats.trans late.seats, ?_⟩
  · rw [own_append] at isOwn
    cases isEarly : own disk name batches with
    | nil =>
        rw [isEarly, List.nil_append] at isOwn
        obtain ⟨text, opens, isText⟩ := late.named name first rest isOwn
        have unchanged := bufferNamed?_congr (early.others name isEarly)
        exact ⟨text, document_congr (documentName?_of_document opens) unchanged ▸ opens, isText⟩
    | cons head tail =>
        rw [isEarly, List.cons_append] at isOwn
        obtain ⟨rfl, rfl⟩ := List.cons.inj isOwn
        obtain ⟨text, opens, isText⟩ := early.named name head tail isEarly
        refine ⟨text, opens, ?_⟩
        rw [← List.cons_append, List.foldl_append]
        cases isLate : own disk name more with
        | nil =>
            rw [bufferNamed?_congr (late.others name isLate), isText]
            rfl
        | cons second others =>
            obtain ⟨middle, opensLate, isLateText⟩ := late.named name second others isLate
            obtain ⟨buffer, found, isMiddle⟩ := Option.map_eq_some_iff.mp isText
            rw [document_of_open (documentName?_of_document opensLate) found] at opensLate
            cases opensLate
            rw [isLateText, isMiddle]
  · rw [own_append] at isOwn
    obtain ⟨noneEarly, noneLate⟩ := List.append_eq_nil_iff.mp isOwn
    exact (late.others name noneLate).trans (early.others name noneEarly)
  · rw [late.rest, early.rest]

theorem IsNumbered.isEdited_rewritten
    (numbered : before.IsNumbered)
    (opens : before.document disk batch.1 = .ok (name, text)) :
    IsEdited disk change encoding [batch] before
      (before.rewritten name text (revised change encoding text batch)) := by
  have isName := documentName?_of_document opens
  refine ⟨fun known first rest isOwn => ?_, fun known isOwn => ?_, ?_,
    rewritten_eq before name text _⟩
  · by_cases same : known = name
    · subst same
      simp only [own, isName, beq_self_eq_true, List.filter_cons_of_pos, List.filter_nil,
        List.cons.injEq] at isOwn
      obtain ⟨rfl, rfl⟩ := isOwn
      exact ⟨text, opens, by rw [bufferNamed?_rewritten]; rfl⟩
    · simp [own, isName, Ne.symm same] at isOwn
  · refine numbered.buffersNamed_rewritten text _ fun same => ?_
    simp [own, isName, same] at isOwn
  · rw [seats_rewritten]
    exact List.prefix_append _ _

/-- Batches that are applied in a row make of a host what they are to make of it. -/
theorem Edits.isEdited
    (edits : Edits disk change encoding batches before after)
    (numbered : before.IsNumbered) :
    IsEdited disk change encoding batches before after := by
  induction edits with
  | none =>
      exact .refl _
  | next opens _ inductionHypothesis =>
      exact (numbered.isEdited_rewritten opens).trans
        (inductionHypothesis (numbered.rewritten _ _ _))

theorem Edits.congr
    {instead : List TextEdit → List TextEdit}
    (edits : Edits disk change encoding batches before after)
    (same : ∀ batch ∈ batches, change batch.2 = instead batch.2) :
    Edits disk instead encoding batches before after := by
  induction edits with
  | none =>
      exact .none
  | @next host after batch rest name text opens _ inductionHypothesis =>
      have sameText : revised change encoding text batch = revised instead encoding text batch := by
        rw [revised, revised, same batch List.mem_cons_self]
      refine .next opens ?_
      rw [← sameText]
      exact inductionHypothesis fun other member => same other (List.mem_cons_of_mem _ member)

/-- A document that can be opened can still be opened when others have been edited. -/
theorem IsEdited.document_eq_error
    {failure : Failure}
    (edited : IsEdited disk change encoding batches before after)
    (fails : after.document disk uri = .error failure) :
    before.document disk uri = .error failure := by
  cases isName : disk.documentName? uri with
  | none =>
      rw [← fails]
      unfold Disk.documentName? at isName
      unfold document
      split at isName
      · rfl
      · rename_i path _
        cases resolves : disk.resolve path with
        | error error => rfl
        | ok place =>
            rw [resolves] at isName
            cases isName
  | some name =>
      have notOpen : after.bufferNamed? name = none := by
        cases found : after.bufferNamed? name with
        | none => rfl
        | some buffer =>
            rw [document_of_open isName found] at fails
            cases fails
      cases isOwn : own disk name batches with
      | nil =>
          rw [← fails]
          exact document_congr isName (bufferNamed?_congr (edited.others name isOwn)).symm
      | cons first rest =>
          obtain ⟨_, _, isText⟩ := edited.named name first rest isOwn
          rw [notOpen] at isText
          cases isText

end

end Host

namespace Act

open Host

theorem perform_bufferForUri
    (desk : Desk)
    (uri : String) :
    perform (bufferForUri uri) desk =
      match desk.host.document desk.disk uri with
      | .error failure => (.error failure, desk)
      | .ok (name, text) =>
        (.ok (desk.host.opened name text).1,
          { desk with host := (desk.host.opened name text).2 }) := by
  unfold bufferForUri document
  cases FileUri.toPath uri with
  | error fault => rfl
  | ok path =>
      show perform (openBuffer path none false) desk = _
      unfold openBuffer
      rw [perform_get_bind]
      unfold Host.openBuffer
      simp only
      cases desk.disk.resolve path with
      | error error => rfl
      | ok place =>
          unfold Host.opened
          cases found : desk.host.bufferNamed? place.text with
          | some buffer =>
              simp only [found]
              rfl
          | none =>
              simp only [found]
              cases initialText desk.disk place none with
              | error error => rfl
              | ok content =>
                  simp only [found]
                  rfl

/-- What becomes of batches: all are applied, or those before one whose document cannot be opened, or
before one with a snippet that is nested too deeply. -/
inductive Applies (disk : Disk) (chain : TransformChain) (encoding : Text.Encoding)
    (before : Host Action) (batches : List Batch) : Except Failure Unit → Host Action → Prop where
  | all {after : Host Action}
      (edits : Edits disk (fun edits => (chain.run? edits).getD []) encoding batches before after)
      (shallow : ∀ batch ∈ batches, (chain.run? batch.2).isSome) :
      Applies disk chain encoding before batches (.ok ()) after
  | unopened {after : Host Action} {done rest : List Batch} {batch : Batch} {failure : Failure}
      (split : batches = done ++ batch :: rest)
      (edits : Edits disk (fun edits => (chain.run? edits).getD []) encoding done before after)
      (fails : after.document disk batch.1 = .error failure) :
      Applies disk chain encoding before batches (.error failure) after
  | tooDeep {mid : Host Action} {done rest : List Batch} {batch : Batch} {name text : String}
      (split : batches = done ++ batch :: rest)
      (edits : Edits disk (fun edits => (chain.run? edits).getD []) encoding done before mid)
      (opens : mid.document disk batch.1 = .ok (name, text))
      (isDeep : chain.run? batch.2 = none) :
      Applies disk chain encoding before batches (.error .tooDeep) (mid.opened name text).2

/-- The first batch is applied, and then the others. -/
theorem Applies.next
    {disk : Disk}
    {chain : TransformChain}
    {encoding : Text.Encoding}
    {before after : Host Action}
    {batch : Batch}
    {rest : List Batch}
    {name text : String}
    {changed : List TextEdit}
    {result : Except Failure Unit}
    (opens : before.document disk batch.1 = .ok (name, text))
    (runs : chain.run? batch.2 = some changed)
    (later : Applies disk chain encoding
      (before.rewritten name text (String.ofList (splice encoding changed text.toList))) rest result
      after) :
    Applies disk chain encoding before (batch :: rest) result after := by
  have isText : revised (fun edits => (chain.run? edits).getD []) encoding text batch =
      String.ofList (splice encoding changed text.toList) := by
    simp [revised, runs]
  rw [← isText] at later
  cases later with
  | all edits shallow =>
      refine .all (.next opens edits) fun known member => ?_
      rcases List.mem_cons.mp member with rfl | inRest
      · exact runs ▸ rfl
      · exact shallow known inRest
  | unopened split edits fails =>
      exact .unopened (by rw [split, List.cons_append]) (.next opens edits) fails
  | tooDeep split edits opensLate isDeep =>
      exact .tooDeep (by rw [split, List.cons_append]) (.next opens edits) opensLate isDeep

/-- A batch is applied to a buffer that is open. -/
theorem perform_applyBatch
    (desk : Desk)
    (encoding : Text.Encoding)
    {buffer : Buffer}
    {changed : List TextEdit}
    {edits : List TextEdit}
    (runs : desk.transforms.run? edits = some changed)
    (isOpen : desk.host.buffer? buffer.number = some buffer) :
    ∃ log, perform (applyBatch edits buffer.number encoding) desk =
      (.ok (), { desk with
        host := desk.host.setText buffer.number
          (String.ofList (splice encoding changed buffer.text.toList))
        log }) := by
  unfold applyBatch
  rw [perform_get_bind, runs]
  simp only
  unfold applyToBuffer
  rw [perform_get_bind]
  simp only [applyEdits?, isOpen, Option.map_some]
  exact ⟨_, rfl⟩

section

variable {desk : Desk} {batch : Batch} {name text : String}

theorem perform_applyBatches_unopened
    {failure : Failure}
    (fails : desk.host.document desk.disk batch.1 = .error failure)
    (encoding : Text.Encoding)
    (rest : List Batch) :
    perform (applyBatches encoding (batch :: rest)) desk = (.error failure, desk) := by
  unfold applyBatches
  rw [perform_bind, perform_bufferForUri, fails]

theorem perform_applyBatches_tooDeep
    (opens : desk.host.document desk.disk batch.1 = .ok (name, text))
    (isDeep : desk.transforms.run? batch.2 = none)
    (encoding : Text.Encoding)
    (rest : List Batch) :
    perform (applyBatches encoding (batch :: rest)) desk =
      (.error .tooDeep, { desk with host := (desk.host.opened name text).2 }) := by
  have failed : perform (applyBatch batch.2 (desk.host.opened name text).1 encoding)
      { desk with host := (desk.host.opened name text).2 } =
      (.error .tooDeep, { desk with host := (desk.host.opened name text).2 }) := by
    unfold applyBatch
    rw [perform_get_bind, isDeep]
    rfl
  unfold applyBatches
  rw [perform_bind, perform_bufferForUri, opens]
  dsimp only
  rw [perform_bind, failed]

theorem perform_applyBatches_next
    {changed : List TextEdit}
    (numbered : desk.host.IsNumbered)
    (opens : desk.host.document desk.disk batch.1 = .ok (name, text))
    (runs : desk.transforms.run? batch.2 = some changed)
    (encoding : Text.Encoding)
    (rest : List Batch) :
    ∃ log, perform (applyBatches encoding (batch :: rest)) desk =
      perform (applyBatches encoding rest) { desk with
        host := desk.host.rewritten name text
          (String.ofList (splice encoding changed text.toList))
        log } := by
  have seated := bufferNamed?_opened desk.host name text
  have isOpen := (numbered.opened name text).buffer?_number (mem_of_bufferNamed? seated).1
  have applied := perform_applyBatch
    { desk with host := (desk.host.opened name text).2 } encoding runs isOpen
  rw [← opened_number, seat_text opens] at applied
  obtain ⟨log, isApplied⟩ := applied
  show ∃ log, perform (bufferForUri batch.1 >>= fun number =>
    applyBatch batch.2 number encoding >>= fun _ => applyBatches encoding rest) desk = _
  rw [perform_bind, perform_bufferForUri, opens]
  dsimp only
  rw [perform_bind, isApplied]
  exact ⟨log, rfl⟩

end

/-- Batches are applied one after the other, and nothing but the host and the log changes. -/
theorem perform_applyBatches
    {desk : Desk}
    (numbered : desk.host.IsNumbered)
    (encoding : Text.Encoding)
    (batches : List Batch) :
    ∃ result host log, perform (applyBatches encoding batches) desk =
        (result, { desk with host, log }) ∧
      Applies desk.disk desk.transforms encoding desk.host batches result host := by
  induction batches generalizing desk with
  | nil =>
      exact ⟨.ok (), desk.host, desk.log, rfl, .all .none nofun⟩
  | cons batch rest inductionHypothesis =>
      cases opens : desk.host.document desk.disk batch.1 with
      | error failure =>
          exact ⟨.error failure, desk.host, desk.log,
            perform_applyBatches_unopened opens encoding rest,
            .unopened (List.nil_append _).symm .none opens⟩
      | ok document =>
          obtain ⟨name, text⟩ := document
          cases runs : desk.transforms.run? batch.2 with
          | none =>
              exact ⟨.error .tooDeep, _, desk.log,
                perform_applyBatches_tooDeep opens runs encoding rest,
                .tooDeep (List.nil_append _).symm .none opens runs⟩
          | some changed =>
              obtain ⟨log, isNext⟩ :=
                perform_applyBatches_next numbered opens runs encoding rest
              obtain ⟨result, host, lastLog, performed, applies⟩ :=
                @inductionHypothesis { desk with
                  host := desk.host.rewritten name text
                    (String.ofList (splice encoding changed text.toList))
                  log } (numbered.rewritten _ _ _)
              exact ⟨result, host, lastLog, isNext.trans performed, applies.next opens runs⟩

end Act

end AnalyzerSessions
