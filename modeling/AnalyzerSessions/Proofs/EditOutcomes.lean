import AnalyzerSessions.Proofs.EditPipelines
import AnalyzerSessions.Proofs.NearestRoots
import AnalyzerSessions.Proofs.WorkspaceEdits

namespace AnalyzerSessions

/-!
# Outcomes of edits

Batches are applied up to the first one whose document cannot be opened, or for which a
transform gives nothing.  What that failure is decides how a server's request to edit the
workspace ends: most failures are told to the server, and a few are not dealt with.
Operations on files as a whole are looked for before anything else is done.  What the edited
documents become is left open here, so that all of this holds of any host.
-/

/-! ## Documents that cannot be opened -/

/-- Links lead in a circle, or too deep. -/
inductive FileError.IsEndless : FileError → Prop where
  | circle (place : Path) : IsEndless (.linkLoop place)
  | tooDeep : IsEndless .tooDeep

namespace Disk

variable {disk : Disk} {error : FileError}

theorem follow_eq_error
    {depth : Nat}
    {seen : SeenLinks}
    {place : Path}
    {parts : List String}
    (fails : disk.follow depth seen place parts = .error error) :
    error = .nullByte ∨ error = .tooDeep := by
  fun_induction Disk.follow disk depth seen place parts generalizing error <;> simp_all

/-- A path that cannot be resolved holds a null character, its links do not end, or it is relative and
the working directory was removed. -/
theorem resolve_eq_error
    {path : Path}
    (fails : disk.resolve path = .error error) :
    error = .nullByte ∨ error.IsEndless ∨
      error = .noWorkingDirectory ∧
        disk.tree.entry? disk.workingDirectory ≠ some .directory := by
  unfold resolve at fails
  dsimp only at fails
  split at fails
  · rename_i followFails
    cases fails
    rcases follow_eq_error followFails with rfl | rfl
    · exact .inl rfl
    · exact .inr (.inl .tooDeep)
  · split at fails
    · split at fails
      · cases fails
        exact .inl rfl
      · split at fails
        · cases fails
          exact .inr (.inl (.circle _))
        · cases fails
    · rename_i notAnchored
      cases fails
      simp only [isAnchored, Bool.or_eq_true, beq_iff_eq, not_or] at notAnchored
      exact .inr (.inr ⟨rfl, notAnchored.2⟩)

/-- A file is read if the system allows it. -/
theorem readBytes_of_isFile
    {place : Path}
    (holds : disk.isFile place = .ok true) :
    (disk.isReadable place = true ∧ ∃ bytes, disk.readBytes place = .ok bytes) ∨
      disk.isReadable place = false ∧
        disk.readBytes place = .error (.refused .forbidden place) := by
  unfold Disk.isFile entryAt? stat at holds
  cases nulls : hasNull place with
  | true =>
      simp [nulls, Except.map] at holds
  | false =>
      cases ends : disk.locate place with
      | error fault =>
          cases isAbsence : fault.isAbsence <;> simp [nulls, ends, isAbsence, Except.map] at holds
      | ok location =>
          cases location with
          | vacant parts =>
              simp [nulls, ends, FileFault.isAbsence, Except.map] at holds
          | present parts entry =>
              cases entry with
              | link target => simp [nulls, ends, Except.map] at holds
              | directory => simp [nulls, ends, Except.map] at holds
              | file bytes =>
                  cases denied : disk.denies parts .read with
                  | true =>
                      exact .inr (by simp [isReadable, readBytes, nulls, ends, denied])
                  | false =>
                      exact .inl (by simp [isReadable, readBytes, nulls, ends, denied])

/-- What a document that is not open cannot be opened with: what the file holds may be no text,
nobody may look at its place, or the file may not be read. -/
theorem initialText_eq_error
    {place : Path}
    (fails : Host.initialText disk place none = .error error) :
    (∃ fault, error = .undecodable fault) ∨
      (∃ fault, disk.IsClosed place fault ∧ error = .refused fault place) ∨
      disk.isFile place = .ok true ∧ disk.isReadable place = false ∧
        error = .refused .forbidden place := by
  unfold Host.initialText at fails
  dsimp only at fails
  split at fails
  · rename_i looked
    cases fails
    exact .inr (.inl (isFile_eq_error_iff.mp looked))
  · rename_i holds
    unfold readText at fails
    rcases readBytes_of_isFile holds with ⟨_, bytes, reads⟩ | ⟨unreadable, refused⟩
    · rw [reads] at fails
      dsimp only at fails
      split at fails
      · cases fails
        exact .inl ⟨_, rfl⟩
      · cases fails
    · rw [refused] at fails
      cases fails
      exact .inr (.inr ⟨holds, unreadable, rfl⟩)
  · cases fails

end Disk

namespace Host

variable {host : Host Action} {disk : Disk} {uri : String}

/-- A document is barred: the way to it does not end, or begins at a working directory that was
removed, or it is not open and the system does not let anybody look at its place or read the file
there. -/
inductive IsBarred (host : Host Action) (disk : Disk) (uri : String) : FileError → Prop where
  | endless {path : Path} {error : FileError}
      (isPath : FileUri.toPath uri = .ok path)
      (leads : disk.resolve path = .error error)
      (isEndless : error.IsEndless) :
      IsBarred host disk uri error
  | adrift {path : Path}
      (isPath : FileUri.toPath uri = .ok path)
      (leads : disk.resolve path = .error .noWorkingDirectory)
      (isGone : disk.tree.entry? disk.workingDirectory ≠ some .directory) :
      IsBarred host disk uri .noWorkingDirectory
  | closed {path place : Path} {fault : FileFault}
      (isPath : FileUri.toPath uri = .ok path)
      (leads : disk.resolve path = .ok place)
      (unopened : host.bufferNamed? place.text = none)
      (isClosed : disk.IsClosed place fault) :
      IsBarred host disk uri (.refused fault place)
  | unreadable {path place : Path}
      (isPath : FileUri.toPath uri = .ok path)
      (leads : disk.resolve path = .ok place)
      (unopened : host.bufferNamed? place.text = none)
      (isFile : disk.isFile place = .ok true)
      (denied : disk.isReadable place = false) :
      IsBarred host disk uri (.refused .forbidden place)

theorem IsBarred.not_isRefusal
    {error : FileError}
    (barred : host.IsBarred disk uri error) :
    (Failure.file error).isRefusal = false := by
  cases barred with
  | endless isPath leads isEndless => cases isEndless <;> rfl
  | adrift => rfl
  | closed => rfl
  | unreadable => rfl

theorem document_of_isBarred
    {error : FileError}
    (barred : host.IsBarred disk uri error) :
    host.document disk uri = .error (.file error) := by
  cases barred with
  | endless isPath leads isEndless => simp only [document, isPath, leads]
  | adrift isPath leads isGone => simp only [document, isPath, leads]
  | closed isPath leads unopened isClosed =>
      have looked := Disk.isFile_eq_error_iff.mpr ⟨_, isClosed, rfl⟩
      simp only [document, isPath, leads, unopened, initialText, looked]
  | unreadable isPath leads unopened isFile denied =>
      have unread := (Disk.readBytes_of_isFile isFile).resolve_left fun isReadable =>
        absurd isReadable.1 (Bool.eq_false_iff.mp denied)
      simp only [document, isPath, leads, unopened, initialText, isFile, Disk.readText, unread.2]

/-- A document that cannot be opened is refused, unless it is barred. -/
theorem document_eq_error
    {failure : Failure}
    (fails : host.document disk uri = .error failure) :
    (failure.isRefusal = true ∧ ∀ reason, failure ≠ .unsupported reason) ∨
      ∃ error, failure = .file error ∧ host.IsBarred disk uri error := by
  unfold document at fails
  split at fails
  · cases fails
    exact .inl ⟨rfl, nofun⟩
  · rename_i path isPath
    split at fails
    · rename_i error leads
      cases fails
      rcases disk.resolve_eq_error leads with rfl | isEndless | ⟨rfl, isGone⟩
      · exact .inl ⟨rfl, nofun⟩
      · exact .inr ⟨error, rfl, .endless isPath leads isEndless⟩
      · exact .inr ⟨_, rfl, .adrift isPath leads isGone⟩
    · rename_i place leads
      split at fails
      · cases fails
      · rename_i unopened
        split at fails
        · rename_i unread
          cases fails
          rcases disk.initialText_eq_error unread with ⟨fault, rfl⟩ | ⟨fault, isClosed, rfl⟩ |
            ⟨isFile, denied, rfl⟩
          · exact .inl ⟨rfl, nofun⟩
          · exact .inr ⟨_, rfl, .closed isPath leads unopened isClosed⟩
          · exact .inr ⟨_, rfl, .unreadable isPath leads unopened isFile denied⟩
        · cases fails

end Host

/-! ## Where batches end -/

namespace Act

variable {desk : Desk} {encoding : Text.Encoding} {batches : List Batch} {batch : Batch}

theorem buffer?_opened_isSome
    (host : Host Action)
    (name text : String) :
    ((host.opened name text).2.buffer? (host.opened name text).1).isSome = true := by
  have seated := Host.mem_of_bufferNamed? (host.bufferNamed?_opened name text)
  rw [host.opened_number]
  exact List.find?_isSome.mpr ⟨_, seated.1, by simp⟩

/-- A batch of which the document can be opened, and which the transforms get through, is applied,
and the others find nothing changed but the host and the log. -/
theorem perform_applyBatches_cons
    {document : String × String}
    {final : List TextEdit}
    (opens : desk.host.document desk.disk batch.1 = .ok document)
    (runs : desk.transforms.run? batch.2 = some final)
    (encoding : Text.Encoding) :
    ∃ host log, ∀ rest, perform (applyBatches encoding (batch :: rest)) desk =
      perform (applyBatches encoding rest) { desk with host, log } := by
  obtain ⟨name, text⟩ := document
  obtain ⟨buffer, isOpen⟩ :=
    Option.isSome_iff_exists.mp (buffer?_opened_isSome desk.host name text)
  have applied : ∃ host log, perform (applyBatch batch.2 (desk.host.opened name text).1 encoding)
      { desk with host := (desk.host.opened name text).2 } = (.ok (), { desk with host, log }) := by
    have opened : ({ desk with host := (desk.host.opened name text).2 } : Desk).transforms.run?
        batch.2 = some final := runs
    rw [applyBatch_eq_passOn, perform_passOn_of_run applyToBuffer _ encoding opened]
    unfold applyToBuffer
    rw [perform_get_bind]
    simp only [Host.applyEdits?, isOpen, Option.map_some]
    exact ⟨_, _, rfl⟩
  obtain ⟨host, log, isApplied⟩ := applied
  refine ⟨host, log, fun rest => ?_⟩
  show perform (bufferForUri batch.1 >>= fun number =>
    applyBatch batch.2 number encoding >>= fun _ => applyBatches encoding rest) desk = _
  rw [perform_bind, perform_bufferForUri, opens]
  dsimp only
  rw [perform_bind, isApplied]

/-- Batches in a row are applied up to the end of the first ones, and then the others. -/
theorem applyBatches_append
    (encoding : Text.Encoding)
    (done rest : List Batch) :
    applyBatches encoding (done ++ rest) =
      (applyBatches encoding done >>= fun _ => applyBatches encoding rest) := by
  induction done with
  | nil =>
      rfl
  | cons batch more inductionHypothesis =>
      simp only [List.cons_append, applyBatches, bind_assoc, inductionHypothesis]

/-- What is the matter with a batch: its document cannot be opened, or a transform gives nothing for
it. -/
inductive IsStuck (desk : Desk) (batch : Batch) : Failure → Prop where
  | unopened {failure : Failure}
      (fails : desk.host.document desk.disk batch.1 = .error failure) :
      IsStuck desk batch failure
  | tooDeep {name text : String}
      (opens : desk.host.document desk.disk batch.1 = .ok (name, text))
      (stops : desk.transforms.run? batch.2 = none) :
      IsStuck desk batch .tooDeep

/-- The failure with which batches end: those before one with which something is the matter have
been applied. -/
inductive StopsAt (desk : Desk) (encoding : Text.Encoding) (batches : List Batch) :
    Failure → Prop where
  | stuck {done rest : List Batch} {batch : Batch} {host : Host Action} {log : Log}
      {failure : Failure}
      (split : batches = done ++ batch :: rest)
      (applied : perform (applyBatches encoding done) desk = (.ok (), { desk with host, log }))
      (isStuck : IsStuck { desk with host, log } batch failure) :
      StopsAt desk encoding batches failure

theorem StopsAt.perform_eq
    {failure : Failure}
    (stops : StopsAt desk encoding batches failure) :
    (perform (applyBatches encoding batches) desk).1 = .error failure := by
  obtain ⟨split, applied, isStuck⟩ := stops
  rw [split, applyBatches_append, perform_bind, applied]
  dsimp only
  cases isStuck with
  | unopened fails =>
      rw [perform_applyBatches_unopened fails]
  | tooDeep opens noEdits =>
      rw [perform_applyBatches_tooDeep opens noEdits]

/-- Batches are applied as a whole, or up to one with which something is the matter. -/
theorem perform_applyBatches_cases
    (desk : Desk)
    (encoding : Text.Encoding)
    (batches : List Batch) :
    (perform (applyBatches encoding batches) desk).1 = .ok () ∨
      ∃ failure, (perform (applyBatches encoding batches) desk).1 = .error failure ∧
        StopsAt desk encoding batches failure := by
  induction batches generalizing desk with
  | nil =>
      exact .inl rfl
  | cons batch rest inductionHypothesis =>
      have first : ∀ failure, IsStuck desk batch failure →
          StopsAt desk encoding (batch :: rest) failure := fun _ stuck =>
        .stuck (List.nil_append _).symm rfl stuck
      cases opens : desk.host.document desk.disk batch.1 with
      | error failure =>
          have stops := first failure (.unopened opens)
          exact .inr ⟨failure, stops.perform_eq, stops⟩
      | ok document =>
          cases runs : desk.transforms.run? batch.2 with
          | none =>
              have stops := first .tooDeep (.tooDeep opens runs)
              exact .inr ⟨.tooDeep, stops.perform_eq, stops⟩
          | some final =>
              obtain ⟨host, log, next⟩ := perform_applyBatches_cons opens runs encoding
              rw [next]
              refine (inductionHypothesis { desk with host, log }).imp_right ?_
              rintro ⟨failure, failed, stops⟩
              obtain @⟨done, more, last, _, _, _, split, applied, isStuck⟩ := stops
              have isSplit : batch :: rest = (batch :: done) ++ last :: more :=
                congrArg (batch :: ·) split
              exact ⟨failure, failed, .stuck isSplit ((next done).trans applied) isStuck⟩

theorem perform_applyBatches_eq_error_iff
    {failure : Failure} :
    (perform (applyBatches encoding batches) desk).1 = .error failure ↔
      StopsAt desk encoding batches failure := by
  refine ⟨fun failed => ?_, StopsAt.perform_eq⟩
  rcases perform_applyBatches_cases desk encoding batches with applied | ⟨other, alsoFailed, stops⟩
  · cases applied.symm.trans failed
  · cases alsoFailed.symm.trans failed
    exact stops

/-- Batches do not fail for what is not supported. -/
theorem StopsAt.ne_unsupported
    {failure : Failure}
    (stops : StopsAt desk encoding batches failure)
    (reason : UnsupportedEdit) :
    failure ≠ .unsupported reason := by
  obtain ⟨_, _, isStuck⟩ := stops
  cases isStuck with
  | unopened fails =>
      rcases Host.document_eq_error fails with ⟨_, isOther⟩ | ⟨_, rfl, _⟩
      · exact isOther reason
      · exact nofun
  | tooDeep => exact nofun

end Act

/-! ## Operations on files as a whole -/

/-- An operation is the first one that a workspace edit lists: only edits come before it. -/
def WorkspaceEdit.BeginsWith (edit : WorkspaceEdit) (operation : ResourceOperation) : Prop :=
  ∃ (early : List TextDocumentEdit) (late : List DocumentChange),
    edit.documentChanges = some (early.map .edits ++ .resource operation :: late)

/-- A list of changes is passed up to its first operation, or as a whole. -/
theorem onlyEdits_eq_error_iff
    {changes : List DocumentChange}
    {reason : UnsupportedEdit} :
    onlyEdits changes = .error reason ↔
      ∃ (early : List TextDocumentEdit) (operation : ResourceOperation) (late : List DocumentChange),
        changes = early.map .edits ++ .resource operation :: late ∧
          reason = .resourceOperation operation.kind := by
  constructor
  · intro refused
    induction changes with
    | nil => cases refused
    | cons change rest inductionHypothesis =>
        cases change with
        | resource operation =>
            cases refused
            exact ⟨[], operation, rest, rfl, rfl⟩
        | edits edit =>
            rw [onlyEdits] at refused
            cases isPassed : onlyEdits rest with
            | ok edits =>
                rw [isPassed] at refused
                cases refused
            | error other =>
                rw [isPassed] at refused
                cases refused
                obtain ⟨early, operation, late, rfl, isReason⟩ := inductionHypothesis isPassed
                exact ⟨edit :: early, operation, late, rfl, isReason⟩
  · rintro ⟨early, operation, late, rfl, rfl⟩
    induction early with
    | nil => rfl
    | cons edit more inductionHypothesis =>
        rw [List.map_cons, List.cons_append, onlyEdits, inductionHypothesis]
        rfl

theorem exists_first_operation
    {changes : List DocumentChange}
    {operation : ResourceOperation}
    (member : .resource operation ∈ changes) :
    ∃ (early : List TextDocumentEdit) (first : ResourceOperation) (late : List DocumentChange),
      changes = early.map .edits ++ .resource first :: late := by
  induction changes with
  | nil => cases member
  | cons change rest inductionHypothesis =>
      cases change with
      | resource first => exact ⟨[], first, rest, rfl⟩
      | edits edit =>
          have later : .resource operation ∈ rest := by simpa using member
          obtain ⟨early, first, late, rfl⟩ := inductionHypothesis later
          exact ⟨edit :: early, first, late, rfl⟩

namespace WorkspaceEdit

variable {edit : WorkspaceEdit}

/-- A workspace edit without batches is one that lists an operation; it is refused for the first. -/
theorem batches_eq_error_iff
    {reason : UnsupportedEdit} :
    edit.batches = .error reason ↔
      ∃ operation, edit.BeginsWith operation ∧ reason = .resourceOperation operation.kind := by
  unfold batches BeginsWith
  split
  · rename_i first rest listed
    have refused : (onlyEdits (first :: rest)).map (fun edits =>
        edits.map fun change => (change.document.uri, change.edits)) = .error reason ↔
        onlyEdits (first :: rest) = .error reason := by
      cases onlyEdits (first :: rest) <;> simp [Except.map]
    rw [refused, onlyEdits_eq_error_iff]
    simp only [listed, Option.some.injEq]
    constructor
    · rintro ⟨early, operation, late, split, isReason⟩
      exact ⟨operation, ⟨early, late, split⟩, isReason⟩
    · rintro ⟨operation, ⟨early, late, split⟩, isReason⟩
      exact ⟨early, operation, late, split, isReason⟩
  · rename_i unlisted
    constructor
    · exact nofun
    · rintro ⟨operation, ⟨early, late, listed⟩, -⟩
      cases early with
      | nil => exact (unlisted _ _ listed).elim
      | cons first more => exact (unlisted _ _ listed).elim

theorem exists_beginsWith_iff :
    (∃ operation, edit.BeginsWith operation) ↔
      ∃ operation, .resource operation ∈ edit.documentChanges.getD [] := by
  constructor
  · rintro ⟨operation, early, late, listed⟩
    exact ⟨operation, by simp [listed]⟩
  · rintro ⟨operation, member⟩
    cases listed : edit.documentChanges with
    | none =>
        rw [listed] at member
        cases member
    | some changes =>
        rw [listed] at member
        obtain ⟨early, first, late, rfl⟩ := exists_first_operation member
        exact ⟨first, early, late, listed⟩

end WorkspaceEdit

namespace Act

variable {desk : Desk} {edit : WorkspaceEdit} {encoding : Text.Encoding}

/-- A workspace edit without batches is refused before a buffer is looked up for any document. -/
theorem perform_passWorkspaceEdit_of_error
    {reason : UnsupportedEdit}
    (unlisted : edit.batches = .error reason)
    (lookup : String → Act Int)
    (hand : List TextEdit → Int → Text.Encoding → Act Unit)
    (encoding : Text.Encoding)
    (desk : Desk) :
    perform (passWorkspaceEdit lookup hand edit encoding) desk =
      (.error (.unsupported reason), desk) := by
  unfold passWorkspaceEdit
  rw [unlisted]
  rfl

theorem applyWorkspaceEdit_eq_unsupported_iff
    {reason : UnsupportedEdit} :
    (perform (applyWorkspaceEdit edit encoding) desk).1 = .error (.unsupported reason) ↔
      edit.batches = .error reason := by
  constructor
  · intro refused
    cases lists : edit.batches with
    | ok batches =>
        rw [perform_applyWorkspaceEdit lists] at refused
        exact ((perform_applyBatches_eq_error_iff.mp refused).ne_unsupported reason rfl).elim
    | error other =>
        rw [applyWorkspaceEdit_eq_passWorkspaceEdit,
          perform_passWorkspaceEdit_of_error lists] at refused
        cases refused
        rfl
  · intro unlisted
    rw [applyWorkspaceEdit_eq_passWorkspaceEdit, perform_passWorkspaceEdit_of_error unlisted]

/-- A workspace edit is unsupported when it lists an operation on a file as a whole, wherever that
stands.  It is then refused for the first one, and nothing is done: the desk is as it was, and
neither a buffer is looked up nor an edit handed over, whatever would look them up and take
them. -/
theorem applyWorkspaceEdit_unsupported
    (edit : WorkspaceEdit)
    (encoding : Text.Encoding)
    (desk : Desk) :
    ((∃ reason, (perform (applyWorkspaceEdit edit encoding) desk).1 =
        .error (.unsupported reason)) ↔
      ∃ operation, .resource operation ∈ edit.documentChanges.getD []) ∧
    ∀ reason, (perform (applyWorkspaceEdit edit encoding) desk).1 = .error (.unsupported reason) →
      after (applyWorkspaceEdit edit encoding) desk = desk ∧
      (∃ operation, edit.BeginsWith operation ∧
        reason.message = "Resource operation '" ++ operation.kind ++ "' is not supported") ∧
      ∀ lookup hand, perform (passWorkspaceEdit lookup hand edit encoding) desk =
        (.error (.unsupported reason), desk) := by
  constructor
  · rw [← WorkspaceEdit.exists_beginsWith_iff]
    constructor
    · rintro ⟨reason, refused⟩
      have unlisted := applyWorkspaceEdit_eq_unsupported_iff.mp refused
      obtain ⟨operation, begins, -⟩ := WorkspaceEdit.batches_eq_error_iff.mp unlisted
      exact ⟨operation, begins⟩
    · rintro ⟨operation, begins⟩
      exact ⟨.resourceOperation operation.kind, applyWorkspaceEdit_eq_unsupported_iff.mpr
        (WorkspaceEdit.batches_eq_error_iff.mpr ⟨operation, begins, rfl⟩)⟩
  · intro reason refused
    have unlisted := applyWorkspaceEdit_eq_unsupported_iff.mp refused
    obtain ⟨operation, begins, rfl⟩ := WorkspaceEdit.batches_eq_error_iff.mp unlisted
    have refuses := fun lookup hand =>
      perform_passWorkspaceEdit_of_error unlisted lookup hand encoding desk
    refine ⟨?_, ⟨operation, begins, rfl⟩, refuses⟩
    rw [applyWorkspaceEdit_eq_passWorkspaceEdit, after, refuses]

/-- An edit that changes two documents, renames one, changes the other again and creates a third. -/
def renamingEdit : WorkspaceEdit :=
  ⟨some [("file:///main.rs", [insertion "a" none])], some [
    .edits ⟨⟨"file:///main.rs", none⟩, [insertion "pub " none]⟩,
    .edits ⟨⟨"file:///lib.rs", some 3⟩, [insertion "${1:x}" (some .snippet)]⟩,
    .resource (.rename "file:///main.rs" "file:///bin.rs" none),
    .edits ⟨⟨"file:///lib.rs", none⟩, []⟩,
    .resource (.create "file:///new.rs" none)]⟩

/-- It is refused for the renaming, and both documents stay as they are. -/
theorem renamingEdit_refused :
    (perform (applyWorkspaceEdit renamingEdit .utf16) Desk.drafting).1 =
        .error (.unsupported (.resourceOperation "rename")) ∧
      after (applyWorkspaceEdit renamingEdit .utf16) Desk.drafting = Desk.drafting ∧
      ∀ lookup hand, perform (passWorkspaceEdit lookup hand renamingEdit .utf16) Desk.drafting =
        (.error (.unsupported (.resourceOperation "rename")), Desk.drafting) := by
  obtain ⟨-, outcome⟩ := applyWorkspaceEdit_unsupported renamingEdit .utf16 Desk.drafting
  have refused : (perform (applyWorkspaceEdit renamingEdit .utf16) Desk.drafting).1 =
      .error (.unsupported (.resourceOperation "rename")) := rfl
  obtain ⟨unchanged, -, untouched⟩ := outcome _ refused
  exact ⟨refused, unchanged, untouched⟩

/-! ## Requests that are not answered -/

/-- A server gets an answer: its edit was applied, or it was refused for a reason. -/
def IsAnswered (result : Except Failure Json) : Prop :=
  result = .ok appliedAnswer ∨ ∃ reason, result = .ok (refusedAnswer reason)

/-- What a server's request to edit the workspace fails with.  The documents before a batch were
edited, and then its document is barred, or a snippet for it is nested too deeply. -/
inductive Raises (session : Session) (params : Json) (desk : Desk) : Failure → Prop where
  | barred {request : ApplyRequest} {done rest : List Batch} {batch : Batch}
      {host : Host Action} {log : Log} {error : FileError}
      (valid : Schema.check "ApplyWorkspaceEditParams" ApplyRequest.read (presentParams params) =
        .ok request)
      (lists : request.edit.batches = .ok (done ++ batch :: rest))
      (applied : perform (applyBatches session.encoding done) desk =
        (.ok (), { desk with host, log }))
      (isBarred : host.IsBarred desk.disk batch.1 error) :
      Raises session params desk (.file error)
  | tooDeep {request : ApplyRequest} {done rest : List Batch} {batch : Batch}
      {host : Host Action} {log : Log} {name text : String}
      (valid : Schema.check "ApplyWorkspaceEditParams" ApplyRequest.read (presentParams params) =
        .ok request)
      (lists : request.edit.batches = .ok (done ++ batch :: rest))
      (applied : perform (applyBatches session.encoding done) desk =
        (.ok (), { desk with host, log }))
      (opens : host.document desk.disk batch.1 = .ok (name, text))
      (stops : desk.transforms.run? batch.2 = none) :
      Raises session params desk .tooDeep

variable {session : Session} {params : Json} {failure : Failure}

theorem Raises.isNotTold
    (raises : Raises session params desk failure) :
    failure.isRefusal = false ∧ (perform (applyRequest session params) desk).1 = .error failure := by
  cases raises with
  | barred valid lists applied isBarred =>
      refine ⟨isBarred.not_isRefusal, ?_⟩
      rw [perform_applyRequest_batches valid lists]
      exact (StopsAt.stuck rfl applied (.unopened (Host.document_of_isBarred isBarred))).perform_eq
  | tooDeep valid lists applied opens stops =>
      refine ⟨rfl, ?_⟩
      rw [perform_applyRequest_batches valid lists]
      exact (StopsAt.stuck rfl applied (.tooDeep opens stops)).perform_eq

/-- A request that fails is refused, or its failure is one that nobody deals with. -/
theorem applyRequest_eq_error
    (failed : (perform (applyRequest session params) desk).1 = .error failure) :
    failure.isRefusal = true ∨ Raises session params desk failure := by
  cases valid : Schema.check "ApplyWorkspaceEditParams" ApplyRequest.read (presentParams params) with
  | error rejection =>
      unfold applyRequest at failed
      rw [valid] at failed
      cases failed
      exact .inl rfl
  | ok request =>
      cases lists : request.edit.batches with
      | error reason =>
          rw [perform_applyRequest valid, applyWorkspaceEdit_eq_passWorkspaceEdit,
            perform_passWorkspaceEdit_of_error lists] at failed
          cases failed
          exact .inl rfl
      | ok batches =>
          rw [perform_applyRequest_batches valid lists] at failed
          obtain ⟨split, applied, isStuck⟩ := perform_applyBatches_eq_error_iff.mp failed
          rw [split] at lists
          cases isStuck with
          | unopened fails =>
              rcases Host.document_eq_error fails with ⟨isRefusal, _⟩ | ⟨error, rfl, isBarred⟩
              · exact .inl isRefusal
              · exact .inr (.barred valid lists applied isBarred)
          | tooDeep opens stops =>
              exact .inr (.tooDeep valid lists applied opens stops)

/-- The answer is the outcome of the request, in which a failure that is a refusal is told. -/
theorem answerApplyEdit_eq
    (session : Session)
    (params : Json)
    (desk : Desk) :
    (perform (answerApplyEdit session params) desk).1 =
      match (perform (applyRequest session params) desk).1 with
      | .ok _ => .ok appliedAnswer
      | .error failure =>
        if failure.isRefusal then .ok (refusedAnswer failure.message) else .error failure := by
  rw [perform_answerApplyEdit]
  rcases perform (applyRequest session params) desk with ⟨failure | _, after⟩
  · dsimp only
    split <;> rfl
  · rfl

theorem answerApplyEdit_eq_error_iff :
    (perform (answerApplyEdit session params) desk).1 = .error failure ↔
      Raises session params desk failure := by
  rw [answerApplyEdit_eq]
  constructor
  · intro failed
    cases outcome : (perform (applyRequest session params) desk).1 with
    | ok =>
        rw [outcome] at failed
        cases failed
    | error other =>
        rw [outcome] at failed
        dsimp only at failed
        split at failed
        · cases failed
        · rename_i notRefusal
          cases failed
          exact (applyRequest_eq_error outcome).resolve_left notRefusal
  · intro raises
    obtain ⟨notRefusal, failed⟩ := raises.isNotTold
    rw [failed]
    simp [notRefusal]

/-- A server's request to edit the workspace is answered, unless a document is barred or a snippet is
nested too deeply: such a failure is not dealt with. -/
theorem answerApplyEdit_answers
    (session : Session)
    (params : Json)
    (desk : Desk) :
    (IsAnswered (perform (answerApplyEdit session params) desk).1 ↔
      ¬∃ failure, Raises session params desk failure) ∧
    ∀ failure, (perform (answerApplyEdit session params) desk).1 = .error failure ↔
      Raises session params desk failure := by
  refine ⟨?_, fun _ => answerApplyEdit_eq_error_iff⟩
  simp only [← answerApplyEdit_eq_error_iff]
  rw [answerApplyEdit_eq]
  rcases (perform (applyRequest session params) desk).1 with failure | _
  · cases isRefusal : failure.isRefusal <;> simp [IsAnswered, isRefusal]
  · simp [IsAnswered]

/-- A request with an edit for a link that leads to itself. -/
def loopedRequest : Json :=
  .obj [("edit", .obj [("changes", .obj [("file:///rustup/toolchains", .arr [])])])]

/-- A server that wants to edit a link that leads to itself gets no answer. -/
theorem looped_request_is_not_answered :
    ¬∀ session params desk, IsAnswered (perform (answerApplyEdit session params) desk).1 := by
  intro answers
  have valid : Schema.check "ApplyWorkspaceEditParams" ApplyRequest.read
      (presentParams loopedRequest) =
        .ok ⟨none, ⟨some [("file:///rustup/toolchains", [])], none⟩⟩ := by
    decide +kernel
  have isPath : FileUri.toPath "file:///rustup/toolchains" =
      .ok (.absolute ["rustup", "toolchains"]) := by
    decide +kernel
  have isBarred : (Desk.crated .looped).host.IsBarred (Desk.crated .looped).disk
      "file:///rustup/toolchains" (.linkLoop (.absolute ["rustup", "toolchains"])) :=
    .endless isPath Disk.resolve_looped_toolchains (.circle _)
  have lists : WorkspaceEdit.batches ⟨some [("file:///rustup/toolchains", [])], none⟩ =
      .ok ([] ++ [("file:///rustup/toolchains", [])]) := rfl
  have raises : Raises (.fresh 1 serverName none []) loopedRequest (.crated .looped)
      (.file (.linkLoop (.absolute ["rustup", "toolchains"]))) :=
    .barred valid lists rfl isBarred
  have failed := answerApplyEdit_eq_error_iff.mpr raises
  have answered := answers (.fresh 1 serverName none []) loopedRequest (.crated .looped)
  rw [failed] at answered
  simp [IsAnswered] at answered

end Act

end AnalyzerSessions
