import AnalyzerSessions.Proofs.DocumentEdits
import AnalyzerSessions.Proofs.LinkFreeDisks
import AnalyzerSessions.Proofs.ManagerRuns
import AnalyzerSessions.Proofs.SafeActs
import AnalyzerSessions.Proofs.SnippetMeaning

namespace AnalyzerSessions

/-!
# Workspace edits

A workspace edit is applied batch by batch.  When every document can be opened, each
document ends with what its own batches make of it, in whatever way batches for
different documents are mixed.
-/

section

open Host

/-- The batches that a workspace edit lists: those of its list of changes when there are any, else
those by document in written order. -/
inductive WorkspaceEdit.Lists (edit : WorkspaceEdit) : List Batch → Prop where
  | documentChanges {edits : List TextDocumentEdit}
      (listed : edit.documentChanges = some (edits.map .edits))
      (nonempty : edits ≠ []) :
      Lists edit (edits.map fun change => (change.document.uri, change.edits))
  | changes (unlisted : edit.documentChanges.getD [] = []) :
      Lists edit (edit.changes.getD [])

theorem onlyEdits_edits (edits : List TextDocumentEdit) :
    onlyEdits (edits.map .edits) = .ok edits := by
  induction edits with
  | nil => rfl
  | cons first rest inductionHypothesis =>
      rw [List.map_cons, onlyEdits, inductionHypothesis]
      rfl

theorem WorkspaceEdit.Lists.batches_eq
    {edit : WorkspaceEdit}
    {batches : List Batch}
    (lists : edit.Lists batches) :
    edit.batches = .ok batches := by
  unfold WorkspaceEdit.batches
  cases lists with
  | @documentChanges edits listed nonempty =>
      cases edits with
      | nil => exact (nonempty rfl).elim
      | cons first rest =>
          have only := onlyEdits_edits (first :: rest)
          rw [List.map_cons] at only listed
          simp only [listed, only]
          rfl
  | changes unlisted =>
      split
      · rename_i first rest listed
        rw [listed] at unlisted
        cases unlisted
      · rfl

/-- Batches of which every document has the same ones make the same of every document. -/
theorem Host.IsEdited.text_congr
    {disk : Disk}
    {change : List TextEdit → List TextEdit}
    {encoding : Text.Encoding}
    {batches others : List Batch}
    {before after mid : Host Action}
    (edited : IsEdited disk change encoding batches before after)
    (instead : IsEdited disk change encoding others before mid)
    (same : ∀ name, own disk name others = own disk name batches)
    (name : String) :
    (mid.bufferNamed? name).map Buffer.text = (after.bufferNamed? name).map Buffer.text := by
  cases isOwn : own disk name batches with
  | nil =>
      have unchanged := edited.others name isOwn
      have alsoUnchanged := instead.others name ((same name).trans isOwn)
      rw [bufferNamed?_congr unchanged, bufferNamed?_congr alsoUnchanged]
  | cons first rest =>
      obtain ⟨text, opens, isText⟩ := edited.named name first rest isOwn
      obtain ⟨other, alsoOpens, isOther⟩ := instead.named name first rest ((same name).trans isOwn)
      rw [opens] at alsoOpens
      cases alsoOpens
      rw [isText, isOther]

/-- Two neighbours for different documents may change places. -/
theorem Host.own_swap
    {disk : Disk}
    {first second : Batch}
    (apart : disk.documentName? first.1 ≠ disk.documentName? second.1)
    (early late : List Batch)
    (name : String) :
    own disk name (early ++ second :: first :: late) =
      own disk name (early ++ first :: second :: late) := by
  rw [own_append, own_append]
  refine congrArg (own disk name early ++ ·) ?_
  by_cases isFirst : disk.documentName? first.1 = some name
  · have notSecond : disk.documentName? second.1 ≠ some name := fun same =>
      apart (isFirst.trans same.symm)
    simp [own, isFirst, notSecond]
  · simp [own, List.filter_cons, isFirst]

/-- Batches without snippets that are nested too deeply become plain. -/
theorem plainSnippets_run?
    {edits : List TextEdit}
    (shallow : ∀ edit ∈ edits, edit.isTooDeep = false) :
    TransformChain.run? [plainSnippets] edits = some (stripSnippets edits) := by
  have noneDeep : edits.any TextEdit.isTooDeep = false := by
    simpa using shallow
  simp [TransformChain.run?, plainSnippets, stripSnippets?, noneDeep]

/-! ## A desk with documents -/

theorem Disk.documentName?_of_plain
    {disk : Disk}
    {uri : String}
    {parts : List String}
    (noLinks : disk.tree.HasNoLinks)
    (isPath : FileUri.toPath uri = .ok (.absolute parts))
    (plain : ∀ name ∈ parts, Disk.IsPlainName name) :
    disk.documentName? uri = some (Path.absolute parts).text := by
  unfold documentName?
  rw [isPath]
  dsimp only
  rw [resolve_plain noLinks plain]
  rfl

namespace Desk

/-- A desk where two documents are open. -/
def drafting : Desk :=
  { Desk.bare with
    host := { Host.empty with
      buffers := [⟨1, "/main.rs", "fn main() \x7b\x7d\n"⟩, ⟨2, "/lib.rs", ""⟩]
      nextId := 3
      current := some 2 }
    transforms := [plainSnippets] }

theorem drafting_numbered : drafting.host.IsNumbered :=
  ⟨(by decide : [(1 : Int), 2].Nodup), by simp [drafting]⟩

/-- The two documents by their URIs, and the first one by another one. -/
theorem drafting_documents :
    drafting.disk.documentName? "file:///main.rs" = some "/main.rs" ∧
      drafting.disk.documentName? "file:///lib.rs" = some "/lib.rs" ∧
      drafting.disk.documentName? "FILE:/main%2Ers" = some "/main.rs" := by
  have named : ∀ uri file, FileUri.toPath uri = .ok (.absolute [file]) → Disk.IsPlainName file →
      drafting.disk.documentName? uri = some (Path.absolute [file]).text := by
    intro uri file isPath plain
    refine Disk.documentName?_of_plain (FileTree.hasNoLinks_empty _) isPath fun name member => ?_
    exact List.mem_singleton.mp member ▸ plain
  exact ⟨named _ "main.rs" (by decide +kernel) (by decide),
    named _ "lib.rs" (by decide +kernel) (by decide),
    named _ "main.rs" (by decide +kernel) (by decide)⟩

end Desk

/-! ## Applying workspace edits -/

namespace Act

variable {desk : Desk}

theorem perform_applyWorkspaceEdit
    {edit : WorkspaceEdit}
    {batches : List Batch}
    (lists : edit.batches = .ok batches)
    (encoding : Text.Encoding)
    (desk : Desk) :
    perform (applyWorkspaceEdit edit encoding) desk =
      perform (applyBatches encoding batches) desk := by
  unfold applyWorkspaceEdit
  rw [lists]
  rfl

/-- A workspace edit of which every document can be opened, and no snippet is nested too deeply, is
applied as a whole. -/
theorem isEdited_applyWorkspaceEdit
    {edit : WorkspaceEdit}
    {batches : List Batch}
    (numbered : desk.host.IsNumbered)
    (translates : desk.transforms = [plainSnippets])
    (lists : edit.Lists batches)
    (opens : ∀ batch ∈ batches, ∃ number, (perform (bufferForUri batch.1) desk).1 = .ok number)
    (shallow : ∀ batch ∈ batches, ∀ change ∈ batch.2, change.isTooDeep = false)
    (encoding : Text.Encoding) :
    ∃ host log, perform (applyWorkspaceEdit edit encoding) desk =
        (.ok (), { desk with host, log }) ∧
      IsEdited desk.disk stripSnippets encoding batches desk.host host := by
  have runs : ∀ batch ∈ batches,
      desk.transforms.run? batch.2 = some (stripSnippets batch.2) := by
    intro batch member
    rw [translates]
    exact plainSnippets_run? (shallow batch member)
  have inBatches : ∀ {done rest : List Batch} {batch : Batch},
      batches = done ++ batch :: rest → batch ∈ batches := by
    rintro done rest batch rfl
    simp
  rw [perform_applyWorkspaceEdit lists.batches_eq]
  obtain ⟨result, host, log, performed, applies⟩ :=
    perform_applyBatches numbered encoding batches
  cases applies with
  | all edits _ =>
      have stripped : Edits desk.disk stripSnippets encoding batches desk.host host :=
        edits.congr fun batch member => by rw [runs batch member, Option.getD_some]
      exact ⟨host, log, performed, stripped.isEdited numbered⟩
  | unopened split edits fails =>
      have failed := (edits.isEdited numbered).document_eq_error fails
      obtain ⟨number, opened⟩ := opens _ (inBatches split)
      rw [perform_bufferForUri, failed] at opened
      cases opened
  | tooDeep split _ _ isDeep =>
      rw [runs _ (inBatches split)] at isDeep
      cases isDeep

/-- A workspace edit of which every document can be opened, and no snippet is nested too deeply, makes
of each document what its own batches make of it, with snippets turned into plain text, and leaves the
rest of the host as it is; neighbours for different documents may change places. -/
theorem applyWorkspaceEdit_edits_documents
    {edit : WorkspaceEdit}
    {batches : List Batch}
    (numbered : desk.host.IsNumbered)
    (translates : desk.transforms = [plainSnippets])
    (lists : edit.Lists batches)
    (opens : ∀ batch ∈ batches, ∃ number, (perform (bufferForUri batch.1) desk).1 = .ok number)
    (shallow : ∀ batch ∈ batches, ∀ change ∈ batch.2, change.isTooDeep = false)
    (encoding : Text.Encoding) :
    ∃ host log, perform (applyWorkspaceEdit edit encoding) desk =
        (.ok (), { desk with host, log }) ∧
      IsEdited desk.disk stripSnippets encoding batches desk.host host ∧
      ∀ other early first second late, batches = early ++ first :: second :: late →
        desk.disk.documentName? first.1 ≠ desk.disk.documentName? second.1 →
        WorkspaceEdit.Lists other (early ++ second :: first :: late) →
        ∃ swapped log, perform (applyWorkspaceEdit other encoding) desk =
            (.ok (), { desk with host := swapped, log }) ∧
          ∀ name, (swapped.bufferNamed? name).map Buffer.text =
            (host.bufferNamed? name).map Buffer.text := by
  obtain ⟨host, log, performed, edited⟩ :=
    isEdited_applyWorkspaceEdit numbered translates lists opens shallow encoding
  refine ⟨host, log, performed, edited, fun other early first second late split apart isOther => ?_⟩
  have members : ∀ batch ∈ early ++ second :: first :: late, batch ∈ batches := by
    intro batch member
    rw [split]
    exact ((List.Perm.swap first second late).append_left early).mem_iff.mp member
  obtain ⟨swapped, lastLog, alsoPerformed, alsoEdited⟩ :=
    isEdited_applyWorkspaceEdit numbered translates isOther
      (fun batch member => opens batch (members batch member))
      (fun batch member => shallow batch (members batch member)) encoding
  refine ⟨swapped, lastLog, alsoPerformed, edited.text_congr alsoEdited fun name => ?_⟩
  rw [split, own_swap apart early late name]

theorem opens_of_open
    {uri name : String}
    {buffer : Buffer}
    (isName : desk.disk.documentName? uri = some name)
    (isOpen : desk.host.bufferNamed? name = some buffer) :
    ∃ number, (perform (bufferForUri uri) desk).1 = .ok number := by
  rw [perform_bufferForUri, document_of_open isName isOpen]
  exact ⟨_, rfl⟩

/-- An edit that puts a text in front of a document. -/
def insertion (text : String) (format : Option InsertTextFormat) : TextEdit :=
  ⟨⟨⟨0, 0⟩, ⟨0, 0⟩⟩, text, some ⟨format, none⟩⟩

theorem isTooDeep_insertion
    {tree : List Snippet.Element}
    (named : Snippet.WellNamedAll tree) :
    (insertion (String.ofList (Snippet.renderAll tree)) (some .snippet)).isTooDeep =
      !decide (Snippet.nestingAll tree ≤ Snippet.maxNesting) := by
  have isRead := (Snippet.isReadAs_valueAll tree named).plainText?_eq
  by_cases shallow : Snippet.nestingAll tree ≤ Snippet.maxNesting <;>
    simp [TextEdit.isTooDeep, TextEdit.isSnippet, insertion, isRead, shallow]

/-- The written form of a function with the parts of a snippet. -/
def functionEdit : TextEdit :=
  insertion (String.ofList (Snippet.renderAll Snippet.functionTree)) (some .snippet)

/-- Edits of two documents, of which one is edited twice by different URIs. -/
def mixedEdits : List TextDocumentEdit := [
  ⟨⟨"file:///main.rs", none⟩, [insertion "pub " none]⟩,
  ⟨⟨"file:///lib.rs", none⟩, [functionEdit]⟩,
  ⟨⟨"FILE:/main%2Ers", none⟩, [insertion "// " none]⟩]

def mixedBatches : List Batch :=
  mixedEdits.map fun change => (change.document.uri, change.edits)

def mixedEdit : WorkspaceEdit where
  changes := none
  documentChanges := some (mixedEdits.map .edits)

theorem mixedEdit_edits_documents :
    Desk.drafting.host.IsNumbered ∧ Desk.drafting.transforms = [plainSnippets] ∧
      mixedEdit.Lists mixedBatches ∧
      (∀ batch ∈ mixedBatches,
        ∃ number, (perform (bufferForUri batch.1) Desk.drafting).1 = .ok number) ∧
      (∀ batch ∈ mixedBatches, ∀ change ∈ batch.2, change.isTooDeep = false) ∧
      ∃ host log, perform (applyWorkspaceEdit mixedEdit .utf16) Desk.drafting =
          (.ok (), { Desk.drafting with host, log }) ∧
        IsEdited Desk.drafting.disk stripSnippets .utf16 mixedBatches Desk.drafting.host host := by
  obtain ⟨isMain, isLib, isMainAgain⟩ := Desk.drafting_documents
  have lists : mixedEdit.Lists mixedBatches := .documentChanges rfl (List.cons_ne_nil _ _)
  have opens : ∀ batch ∈ mixedBatches,
      ∃ number, (perform (bufferForUri batch.1) Desk.drafting).1 = .ok number := by
    intro batch member
    simp only [mixedBatches, mixedEdits, List.map_cons, List.map_nil, List.mem_cons,
      List.not_mem_nil, or_false] at member
    rcases member with rfl | rfl | rfl
    · exact opens_of_open isMain rfl
    · exact opens_of_open isLib rfl
    · exact opens_of_open isMainAgain rfl
  have shallow : ∀ batch ∈ mixedBatches, ∀ change ∈ batch.2, change.isTooDeep = false := by
    have isShallow : functionEdit.isTooDeep = false := by
      rw [functionEdit, isTooDeep_insertion Snippet.functionTree_wellNamed]
      decide +kernel
    have isPlain : ∀ text, (insertion text none).isTooDeep = false := fun _ => rfl
    simp [mixedBatches, mixedEdits, isShallow, isPlain]
  obtain ⟨host, log, performed, edited, _⟩ := applyWorkspaceEdit_edits_documents
    Desk.drafting_numbered rfl lists opens shallow .utf16
  exact ⟨Desk.drafting_numbered, rfl, lists, opens, shallow, host, log, performed, edited⟩

/-- A batch with a snippet that is nested too deeply. -/
def deepBatch : Batch :=
  ("file:///main.rs",
    [insertion (String.ofList (Snippet.renderAll (Snippet.nestedTree 1500))) (some .snippet)])

/-- Not every workspace edit of which every document can be opened is applied. -/
theorem deep_edit_is_not_applied :
    ¬∀ desk edit batches encoding, desk.host.IsNumbered → desk.transforms = [plainSnippets] →
      WorkspaceEdit.Lists edit batches →
      (∀ batch ∈ batches, ∃ number, (perform (bufferForUri batch.1) desk).1 = .ok number) →
      ∃ host log, perform (applyWorkspaceEdit edit encoding) desk =
        (.ok (), { desk with host, log }) := by
  intro applied
  obtain ⟨isMain, _, _⟩ := Desk.drafting_documents
  have lists : WorkspaceEdit.Lists ⟨some [deepBatch], none⟩ [deepBatch] := .changes rfl
  have isDeep : Desk.drafting.transforms.run? deepBatch.2 = none := by
    have tooDeep := isTooDeep_insertion (Snippet.nestedTree_wellNamed 1500)
    rw [Snippet.nestingAll_nestedTree] at tooDeep
    have isMore : ¬1500 ≤ Snippet.maxNesting := by decide
    simp [TransformChain.run?, Desk.drafting, plainSnippets, stripSnippets?, deepBatch, tooDeep, isMore]
  obtain ⟨host, log, performed⟩ :=
    applied Desk.drafting _ _ .utf16 Desk.drafting_numbered rfl lists fun batch member => by
      cases List.mem_singleton.mp member
      exact opens_of_open isMain rfl
  have opens : Desk.drafting.host.document Desk.drafting.disk deepBatch.1 = .ok ("/main.rs", _) :=
    document_of_open isMain rfl
  rw [perform_applyWorkspaceEdit lists.batches_eq,
    perform_applyBatches_tooDeep opens isDeep .utf16 []] at performed
  cases performed

end Act

end

/-!
## Refused edits

A server's request to edit the workspace is refused when it is not valid, when part of
it is about files as a whole, or when a document cannot be opened.  Everything is left as
it was then, unless documents before that one were edited already.
-/

namespace Act

open Host

variable {desk : Desk}

/-- How a request that is refused leaves the host, and why it is refused. -/
inductive IsRefusedAt (session : Session) (params : Json) (desk : Desk) :
    Failure → Host Action → Prop where
  /-- The request is not valid, and nothing is changed. -/
  | invalid {rejection : Schema.Rejection}
      (rejected : Schema.check "ApplyWorkspaceEditParams" ApplyRequest.read (presentParams params) =
        .error rejection) :
      IsRefusedAt session params desk (.rejected rejection) desk.host
  /-- Part of the request is about files as a whole, and nothing is changed. -/
  | unsupported {request : ApplyRequest} {reason : UnsupportedEdit}
      (valid : Schema.check "ApplyWorkspaceEditParams" ApplyRequest.read (presentParams params) =
        .ok request)
      (operation : request.edit.batches = .error reason) :
      IsRefusedAt session params desk (.unsupported reason) desk.host
  /-- The first document cannot be opened, and nothing is changed. -/
  | first {request : ApplyRequest} {batch : Batch} {rest : List Batch} {failure : Failure}
      (valid : Schema.check "ApplyWorkspaceEditParams" ApplyRequest.read (presentParams params) =
        .ok request)
      (lists : request.edit.batches = .ok (batch :: rest))
      (fails : desk.host.document desk.disk batch.1 = .error failure) :
      IsRefusedAt session params desk failure desk.host
  /-- A later document cannot be opened, and the batches before it stay applied. -/
  | later {request : ApplyRequest} {done rest : List Batch} {batch : Batch} {failure : Failure}
      {host : Host Action}
      (valid : Schema.check "ApplyWorkspaceEditParams" ApplyRequest.read (presentParams params) =
        .ok request)
      (lists : request.edit.batches = .ok (done ++ batch :: rest))
      (begun : done ≠ [])
      (fails : desk.host.document desk.disk batch.1 = .error failure)
      (edited : IsEdited desk.disk (fun edits => (desk.transforms.run? edits).getD [])
        session.encoding done desk.host host) :
      IsRefusedAt session params desk failure host

theorem perform_applyRequest
    {params : Json}
    {request : ApplyRequest}
    (valid : Schema.check "ApplyWorkspaceEditParams" ApplyRequest.read (presentParams params) =
      .ok request)
    (session : Session)
    (desk : Desk) :
    perform (applyRequest session params) desk =
      perform (applyWorkspaceEdit request.edit session.encoding) desk := by
  unfold applyRequest
  rw [valid]
  rfl

/-- A request whose edit has batches is carried out by applying these. -/
theorem perform_applyRequest_batches
    {params : Json}
    {request : ApplyRequest}
    {batches : List Batch}
    (valid : Schema.check "ApplyWorkspaceEditParams" ApplyRequest.read (presentParams params) =
      .ok request)
    (lists : request.edit.batches = .ok batches)
    (session : Session)
    (desk : Desk) :
    perform (applyRequest session params) desk =
      perform (applyBatches session.encoding batches) desk := by
  rw [perform_applyRequest valid, perform_applyWorkspaceEdit lists]

/-- A request that fails does so where it is refused, or for a snippet that is nested too deeply. -/
theorem isRefusedAt_of_error
    {session : Session}
    {params : Json}
    {failure : Failure}
    {after : Desk}
    (numbered : desk.host.IsNumbered)
    (failed : perform (applyRequest session params) desk = (.error failure, after)) :
    IsRefusedAt session params desk failure after.host ∨ failure = .tooDeep := by
  cases valid : Schema.check "ApplyWorkspaceEditParams" ApplyRequest.read (presentParams params) with
  | error rejection =>
      unfold applyRequest at failed
      rw [valid] at failed
      cases failed
      exact .inl (.invalid valid)
  | ok request =>
      rw [perform_applyRequest valid] at failed
      cases lists : request.edit.batches with
      | error reason =>
          unfold applyWorkspaceEdit at failed
          rw [lists] at failed
          cases failed
          exact .inl (.unsupported valid lists)
      | ok batches =>
          rw [perform_applyWorkspaceEdit lists] at failed
          obtain ⟨result, host, log, performed, applies⟩ :=
            perform_applyBatches numbered session.encoding batches
          rw [performed] at failed
          cases failed
          cases applies with
          | @unopened _ done rest batch _ split edits fails =>
              have edited := edits.isEdited numbered
              have couldNot := edited.document_eq_error fails
              rw [split] at lists
              cases edits with
              | none =>
                  exact .inl (.first valid lists couldNot)
              | next _ _ =>
                  exact .inl (.later valid lists nofun couldNot edited)
          | tooDeep =>
              exact .inr rfl

/-- A request that is carried out, refused, or failed. -/
theorem perform_answerApplyEdit
    (session : Session)
    (params : Json)
    (desk : Desk) :
    perform (answerApplyEdit session params) desk =
      match perform (applyRequest session params) desk with
      | (.ok _, after) => (.ok appliedAnswer, after)
      | (.error failure, after) =>
        if failure.isRefusal then
          (.ok (refusedAnswer failure.message), { after with
            log := after.log ++ [⟨.warning, "Could not apply workspace edit from session " ++
              toString session.id ++ ": " ++ failure.message⟩] })
        else (.error failure, after) := by
  have tried := perform_bind (applyRequest session params) (fun _ => pure appliedAnswer) desk
  unfold perform at tried ⊢
  unfold answerApplyEdit
  rw [run_tryCatch, tried]
  rcases (ExceptT.run (applyRequest session params)).run desk with ⟨failure | _, after⟩
  · dsimp only
    split <;> rfl
  · rfl

/-- A server whose request is refused finds all documents as they were, unless documents before the
one that cannot be opened were edited already. -/
theorem answerApplyEdit_refused
    {session : Session}
    {params answer : Json}
    {after : Desk}
    (numbered : desk.host.IsNumbered)
    (answered : perform (answerApplyEdit session params) desk = (.ok answer, after))
    (refused : answer.get? "applied" = some (.bool false)) :
    ∃ failure, answer = refusedAnswer failure.message ∧
      IsRefusedAt session params desk failure after.host := by
  rw [perform_answerApplyEdit] at answered
  split at answered
  · cases answered
    cases refused
  · rename_i failure left failed
    split at answered
    · rename_i isRefusal
      cases answered
      rcases isRefusedAt_of_error numbered failed with stops | rfl
      · exact ⟨failure, rfl, stops⟩
      · cases isRefusal
    · cases answered

/-- A request to edit a document that is open and another one that is no file. -/
def mixedRequest : Json :=
  .obj [("edit", .obj [("changes", .obj [
    ("file:///main.rs", .arr [(insertion "pub " none).toJson .dropped]),
    ("untitled:x", .arr [])])])]

/-- The desk where the first document of the request has been edited. -/
def halfDone (log : Log) : Desk :=
  { Desk.drafting with
    host := Desk.drafting.host.rewritten "/main.rs" "fn main() \x7b\x7d\n" "pub fn main() \x7b\x7d\n"
    log }

theorem splice_singleton
    (encoding : Text.Encoding)
    (edit : TextEdit)
    (text : List Char) :
    splice encoding [edit] text = (edit.span encoding text).put text := by
  simp [splice, backToFront]

/-- The first document is edited, and then the request is refused. -/
theorem perform_mixedRequest :
    ∃ log, perform (answerApplyEdit (.fresh 1 serverName none []) mixedRequest) Desk.drafting =
      (.ok (refusedAnswer "Not a file URI: untitled:x"), halfDone log) := by
  obtain ⟨isMain, _, _⟩ := Desk.drafting_documents
  have valid : Schema.check "ApplyWorkspaceEditParams" ApplyRequest.read
      (presentParams mixedRequest) = .ok ⟨none, ⟨some [("file:///main.rs", [insertion "pub " none]),
        ("untitled:x", [])], none⟩⟩ := by
    decide +kernel
  have isOpen : Desk.drafting.host.bufferNamed? "/main.rs" =
      some ⟨1, "/main.rs", "fn main() \x7b\x7d\n"⟩ := rfl
  have runs : Desk.drafting.transforms.run? [insertion "pub " none] = some [insertion "pub " none] := rfl
  have newText : String.ofList (splice .utf16 [insertion "pub " none]
      "fn main() \x7b\x7d\n".toList) = "pub fn main() \x7b\x7d\n" := by
    rw [splice_singleton]
    decide +kernel
  have fails : ∀ host : Host Action, host.document Desk.drafting.disk "untitled:x" =
      .error (.uri (.notFile "untitled:x")) := by
    intro host
    have notFile : FileUri.toPath "untitled:x" = .error (.notFile "untitled:x") := by
      decide +kernel
    rw [document, notFile]
  have applied : ∃ log, perform (applyBatches .utf16 [("file:///main.rs", [insertion "pub " none]),
      ("untitled:x", [])]) Desk.drafting = perform (applyBatches .utf16 [("untitled:x", [])])
        (halfDone log) := by
    have isNext := @perform_applyBatches_next Desk.drafting ("file:///main.rs", [insertion "pub " none])
      _ _ _ Desk.drafting_numbered (document_of_open isMain isOpen) runs .utf16 [("untitled:x", [])]
    rwa [newText] at isNext
  obtain ⟨log, isNext⟩ := applied
  have refuses : perform (applyBatches .utf16 [("untitled:x", [])]) (halfDone log) =
      (.error (.uri (.notFile "untitled:x")), halfDone log) :=
    perform_applyBatches_unopened (fails _) .utf16 []
  have stopped : perform (applyRequest (.fresh 1 serverName none []) mixedRequest) Desk.drafting =
      (.error (.uri (.notFile "untitled:x")), halfDone log) := by
    rw [perform_applyRequest valid, perform_applyWorkspaceEdit rfl]
    exact isNext.trans refuses
  rw [perform_answerApplyEdit, stopped]
  exact ⟨_, rfl⟩

/-- A request that is refused for its second document has edited the first one. -/
theorem mixedRequest_refused :
    ∃ answer after, Desk.drafting.host.IsNumbered ∧
      perform (answerApplyEdit (.fresh 1 serverName none []) mixedRequest) Desk.drafting =
        (.ok answer, after) ∧
      answer.get? "applied" = some (.bool false) ∧
      ∃ failure, answer = refusedAnswer failure.message ∧
        IsRefusedAt (.fresh 1 serverName none []) mixedRequest Desk.drafting failure after.host := by
  obtain ⟨log, performed⟩ := perform_mixedRequest
  exact ⟨_, _, Desk.drafting_numbered, performed, rfl,
    answerApplyEdit_refused Desk.drafting_numbered performed rfl⟩

/-- Not every refused request leaves the documents that were open as they were. -/
theorem refused_request_has_edited :
    ¬∀ session desk params answer after, desk.host.IsNumbered →
      perform (answerApplyEdit session params) desk = (.ok answer, after) →
      answer.get? "applied" = some (.bool false) →
      ∀ buffer ∈ desk.host.buffers,
        (after.host.buffer? buffer.number).map Buffer.text = some buffer.text := by
  intro spares
  obtain ⟨log, performed⟩ := perform_mixedRequest
  have spared := spares _ _ _ _ _ Desk.drafting_numbered performed rfl _ List.mem_cons_self
  have edited : ((halfDone log).host.buffer? 1).map Buffer.text =
      some "pub fn main() \x7b\x7d\n" := rfl
  rw [edited] at spared
  revert spared
  decide

end Act

end AnalyzerSessions
