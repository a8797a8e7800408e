import AnalyzerSessions.Proofs.EditPipelines

namespace AnalyzerSessions

open Schema

/-!
# Edits that are read again

The written form of an edit shows every field, those too that were left out where the edit was read
and stand for a default.  It is read as the same edit again: an entry of a list of changes is still
taken for the kind of change that it was taken for, since its written form fits no other kind.
-/

/-! ## What readers accept -/

namespace Schema

namespace Checked

variable {α β : Type}

@[simp]
theorem map_eq_accepted
    {change : α → β}
    {checked : Checked α}
    {result : β} :
    change <$> checked = .accepted result ↔
      ∃ value, checked = .accepted value ∧ change value = result := by
  cases checked <;> simp [Functor.map, map]

@[simp]
theorem seq_eq_accepted
    {change : Checked (α → β)}
    {checked : Checked α}
    {result : β} :
    change <*> checked = .accepted result ↔
      ∃ function value, change = .accepted function ∧ checked = .accepted value ∧
        function value = result := by
  cases change <;> cases checked <;> simp [Seq.seq, both, map]

@[simp]
theorem within_eq_accepted
    {step : Step}
    {checked : Checked α}
    {result : α} :
    checked.within step = .accepted result ↔ checked = .accepted result := by
  cases checked <;> simp [within]

theorem both_eq_accepted
    {left : Checked α}
    {right : Checked β}
    {result : α × β} :
    left.both right = .accepted result ↔
      left = .accepted result.1 ∧ right = .accepted result.2 := by
  cases left <;> cases right <;> simp [both, Prod.ext_iff]

end Checked

variable {α : Type} {read : Reader α} {write : α → Json} {fields : List (String × Json)}
  {name : String}

@[simp]
theorem model_eq_accepted
    {readFields : List (String × Json) → Checked α}
    {value : Json}
    {result : α} :
    model readFields value = .accepted result ↔
      ∃ fields, value = .obj fields ∧ readFields fields = .accepted result := by
  cases value <;> simp [model, Checked.refuse]

@[simp]
theorem required_eq_accepted
    {result : α} :
    required fields name read = .accepted result ↔
      ∃ value, Json.lookup? name fields = some value ∧ read value = .accepted result := by
  unfold required
  cases Json.lookup? name fields <;> simp

theorem optional_eq_accepted
    {default result : α} :
    optional fields name default read = .accepted result ↔
      (∃ value, Json.lookup? name fields = some value ∧ read value = .accepted result) ∨
        Json.lookup? name fields = none ∧ default = result := by
  unfold optional
  cases Json.lookup? name fields <;> simp

/-! ## Reading again -/

/-- Whatever a reader accepts it accepts again, as the same, from its written form. -/
def Rereads (read : Reader α) (write : α → Json) : Prop :=
  ∀ value result, read value = .accepted result → read (write result) = .accepted result

theorem rereads_string : Rereads string .str :=
  fun _ _ _ => rfl

theorem rereads_integer : Rereads integer .int :=
  fun _ _ _ => rfl

theorem rereads_anyObject : Rereads anyObject id := by
  intro value result accepted
  cases value with
  | obj fields =>
      cases accepted
      rfl
  | _ => cases accepted

/-- The value of a field that has to be there is read again. -/
theorem Rereads.required
    {result : α}
    (rereads : Rereads read write)
    (accepted : Schema.required fields name read = .accepted result) :
    read (write result) = .accepted result := by
  obtain ⟨value, _, isRead⟩ := required_eq_accepted.mp accepted
  exact rereads value result isRead

/-- What may be null is read again by a reader that takes nothing else to be null. -/
theorem Rereads.nullable
    (rereads : Rereads read write)
    (refusesNull : ∀ result, read .null ≠ .accepted result) :
    Rereads (Schema.nullable read) (Json.ofOption write) := by
  have nullable_of_read : ∀ {value : Json} {result : α}, read value = .accepted result →
      Schema.nullable read value = .accepted (some result) := by
    intro value result isRead
    cases value with
    | null => exact (refusesNull result isRead).elim
    | _ => simp only [Schema.nullable, isRead, Checked.map]
  intro value result accepted
  cases result with
  | none =>
      rfl
  | some result =>
      apply nullable_of_read
      apply rereads value
      cases value with
      | null => cases accepted
      | _ =>
          obtain ⟨_, isRead, same⟩ := Checked.map_eq_accepted.mp accepted
          rwa [Option.some.inj same] at isRead

/-- A field that may be left out or null is read again, though it is written then. -/
theorem Rereads.optional
    {result : Option α}
    (rereads : Rereads read write)
    (refusesNull : ∀ result, read .null ≠ .accepted result)
    (accepted : Schema.optional fields name none (Schema.nullable read) = .accepted result) :
    Schema.nullable read (Json.ofOption write result) = .accepted result := by
  rcases optional_eq_accepted.mp accepted with ⟨value, _, isRead⟩ | ⟨_, rfl⟩
  · exact rereads.nullable refusesNull value result isRead
  · rfl

/-- The items of an array are read again. -/
theorem Rereads.itemsFrom
    (rereads : Rereads read write)
    (index : Nat)
    {values : List Json}
    {results : List α}
    (accepted : Schema.itemsFrom read index values = .accepted results)
    (start : Nat) :
    Schema.itemsFrom read start (results.map write) = .accepted results := by
  induction values generalizing index results start with
  | nil =>
      cases accepted
      rfl
  | cons value rest inductionHypothesis =>
      simp only [Schema.itemsFrom] at accepted
      obtain ⟨pair, isPair, rfl⟩ := Checked.map_eq_accepted.mp accepted
      obtain ⟨isFirst, isRest⟩ := Checked.both_eq_accepted.mp isPair
      have first := rereads value pair.1 (Checked.within_eq_accepted.mp isFirst)
      have others := inductionHypothesis (index + 1) isRest (start + 1)
      simp only [List.map_cons, Schema.itemsFrom, first, others]
      rfl

/-- Every item of what was read was read from some item. -/
theorem exists_read_of_itemsFrom
    {index : Nat}
    {values : List Json}
    {results : List α}
    {result : α}
    (accepted : Schema.itemsFrom read index values = .accepted results)
    (member : result ∈ results) :
    ∃ value, read value = .accepted result := by
  induction values generalizing index results with
  | nil =>
      cases accepted
      cases member
  | cons value rest inductionHypothesis =>
      simp only [Schema.itemsFrom] at accepted
      obtain ⟨pair, isPair, rfl⟩ := Checked.map_eq_accepted.mp accepted
      obtain ⟨isFirst, isRest⟩ := Checked.both_eq_accepted.mp isPair
      rcases List.mem_cons.mp member with rfl | inRest
      · exact ⟨value, Checked.within_eq_accepted.mp isFirst⟩
      · exact inductionHypothesis isRest inRest

theorem exists_read_of_array
    {value : Json}
    {results : List α}
    {result : α}
    (accepted : Schema.array read value = .accepted results)
    (member : result ∈ results) :
    ∃ value, read value = .accepted result := by
  cases value with
  | arr values => exact exists_read_of_itemsFrom accepted member
  | _ => cases accepted

/-- Every field of what was read was read from some field. -/
theorem exists_read_of_dictionary
    {value : Json}
    {results : List (String × α)}
    {result : String × α}
    (accepted : Schema.dictionary read value = .accepted results)
    (member : result ∈ results) :
    ∃ value, read value = .accepted result.2 := by
  cases value with
  | obj fields =>
      simp only [Schema.dictionary] at accepted
      induction fields generalizing results with
      | nil =>
          cases accepted
          cases member
      | cons field rest inductionHypothesis =>
          simp only [eachField] at accepted
          obtain ⟨pair, isPair, rfl⟩ := Checked.map_eq_accepted.mp accepted
          obtain ⟨isFirst, isRest⟩ := Checked.both_eq_accepted.mp isPair
          rcases List.mem_cons.mp member with rfl | inRest
          · exact ⟨field.2, Checked.within_eq_accepted.mp isFirst⟩
          · exact inductionHypothesis inRest isRest
  | _ => cases accepted

/-- What an optional field holds was read from some value that is not null. -/
theorem exists_read_of_optional
    {result : α}
    (accepted : Schema.optional fields name none (Schema.nullable read) = .accepted (some result)) :
    ∃ value, read value = .accepted result := by
  rcases optional_eq_accepted.mp accepted with ⟨value, _, isRead⟩ | ⟨_, nothing⟩
  · cases value with
    | null => cases isRead
    | _ =>
        obtain ⟨_, isRead, same⟩ := Checked.map_eq_accepted.mp isRead
        exact ⟨_, Option.some.inj same ▸ isRead⟩
  · cases nothing

theorem Rereads.array
    (rereads : Rereads read write) :
    Rereads (Schema.array read) fun results => .arr (results.map write) := by
  intro value results accepted
  cases value with
  | arr values => exact rereads.itemsFrom 0 accepted 0
  | _ => cases accepted

/-- The fields of an object whose values have the same type are read again. -/
theorem Rereads.dictionary
    (rereads : Rereads read write) :
    Rereads (Schema.dictionary read) fun results =>
      .obj (results.map fun field => (field.1, write field.2)) := by
  intro value results accepted
  cases value with
  | obj fields =>
      simp only [Schema.dictionary] at accepted ⊢
      induction fields generalizing results with
      | nil =>
          cases accepted
          rfl
      | cons field rest inductionHypothesis =>
          simp only [eachField] at accepted
          obtain ⟨pair, isPair, rfl⟩ := Checked.map_eq_accepted.mp accepted
          obtain ⟨isFirst, isRest⟩ := Checked.both_eq_accepted.mp isPair
          have first := rereads field.2 pair.1 (Checked.within_eq_accepted.mp isFirst)
          have others := inductionHypothesis pair.2 isRest
          simp only [List.map_cons, eachField, first, others]
          rfl
  | _ => cases accepted

end Schema

/-! ## Edits -/

theorem Position.read_toJson (position : Position) :
    read position.toJson = .accepted position := by
  simp [read, toJson, model, required, Json.lookup?, integer, Checked.within]

theorem Range.read_toJson (range : Range) :
    read range.toJson = .accepted range := by
  simp [read, toJson, model, required, Json.lookup?, Position.read_toJson, Checked.within]

theorem rereads_insertTextFormat :
    Rereads InsertTextFormat.read fun format => .int format.number := by
  intro value format _
  cases format <;> rfl

theorem rereads_textEdit : Rereads TextEdit.read (TextEdit.toJson .kept) := by
  intro value edit accepted
  simp only [TextEdit.read, model_eq_accepted, Checked.seq_eq_accepted,
    Checked.map_eq_accepted] at accepted
  obtain ⟨fields, rfl, _, annotation, ⟨_, format, ⟨_, newText, ⟨range, isRange, rfl⟩, isText,
    rfl⟩, isFormat, rfl⟩, isAnnotation, rfl⟩ := accepted
  have formatAgain := rereads_insertTextFormat.optional (fun _ => nofun) isFormat
  have annotationAgain := rereads_string.optional (fun _ => nofun) isAnnotation
  simp [TextEdit.read, TextEdit.toJson, TextEdit.extensionFields, record, model, required,
    Schema.optional, Json.lookup?, Range.read_toJson, Schema.string, formatAgain, annotationAgain,
    Checked.within]

theorem rereads_versionedDocument :
    Rereads VersionedDocument.read (VersionedDocument.toJson .kept) := by
  intro value document accepted
  simp only [VersionedDocument.read, model_eq_accepted, Checked.seq_eq_accepted,
    Checked.map_eq_accepted] at accepted
  obtain ⟨fields, rfl, _, version, ⟨uri, isUri, rfl⟩, isVersion, rfl⟩ := accepted
  have versionAgain := rereads_integer.optional (fun _ => nofun) isVersion
  simp [VersionedDocument.read, VersionedDocument.toJson, record, model, required,
    Schema.optional, Json.lookup?, Schema.string, versionAgain, Checked.within]

theorem rereads_textDocumentEdit :
    Rereads TextDocumentEdit.read (TextDocumentEdit.toJson .kept) := by
  intro value edit accepted
  simp only [TextDocumentEdit.read, model_eq_accepted, Checked.seq_eq_accepted,
    Checked.map_eq_accepted] at accepted
  obtain ⟨fields, rfl, _, edits, ⟨document, isDocument, rfl⟩, areEdits, rfl⟩ := accepted
  have documentAgain := rereads_versionedDocument.required isDocument
  have editsAgain := rereads_textEdit.array.required areEdits
  simp [TextDocumentEdit.read, TextDocumentEdit.toJson, model, required, Json.lookup?,
    documentAgain, editsAgain, Checked.within]

/-! ## Operations on files -/

namespace ResourceOperation

/-- An operation that names one file is read again, whichever it is. -/
theorem rereads_ofFile
    {kind : String}
    {make : String → Option Json → ResourceOperation}
    (written : ∀ uri options, (make uri options).toJson .kept =
      .obj [("kind", .str kind), ("uri", .str uri), ("options", Json.ofOption id options)]) :
    Rereads (model fun fields =>
      (fun _ uri options => make uri options)
        <$> Schema.optional fields "kind" kind (literal [kind])
        <*> required fields "uri" string
        <*> Schema.optional fields "options" none (nullable anyObject)) (toJson .kept) := by
  intro value operation accepted
  simp only [model_eq_accepted, Checked.seq_eq_accepted, Checked.map_eq_accepted] at accepted
  obtain ⟨fields, rfl, _, options, ⟨_, uri, ⟨_, _, rfl⟩, _, rfl⟩, areOptions, rfl⟩ := accepted
  have optionsAgain := rereads_anyObject.optional (fun _ => nofun) areOptions
  simp [written, model, required, Schema.optional, Json.lookup?, Schema.string, literal,
    optionsAgain, Checked.within]

theorem rereads_create : Rereads readCreate (toJson .kept) :=
  rereads_ofFile fun _ _ => rfl

theorem rereads_delete : Rereads readDelete (toJson .kept) :=
  rereads_ofFile fun _ _ => rfl

theorem rereads_rename : Rereads readRename (toJson .kept) := by
  intro value operation accepted
  simp only [readRename, model_eq_accepted, Checked.seq_eq_accepted,
    Checked.map_eq_accepted] at accepted
  obtain ⟨fields, rfl, _, options, ⟨_, newUri, ⟨_, oldUri, ⟨_, _, rfl⟩, _, rfl⟩, _, rfl⟩,
    areOptions, rfl⟩ := accepted
  have optionsAgain := rereads_anyObject.optional (fun _ => nofun) areOptions
  simp [readRename, toJson, record, model, required, Schema.optional, Json.lookup?,
    Schema.string, literal, optionsAgain, Checked.within]

/-- What an operation is read with. -/
def reader : ResourceOperation → Reader ResourceOperation
  | .create _ _ => readCreate
  | .rename _ _ _ => readRename
  | .delete _ _ => readDelete

theorem reader_of_readCreate
    {value : Json}
    {operation : ResourceOperation}
    (accepted : readCreate value = .accepted operation) :
    operation.reader = readCreate := by
  simp only [readCreate, model_eq_accepted, Checked.seq_eq_accepted,
    Checked.map_eq_accepted] at accepted
  obtain ⟨_, rfl, _, _, ⟨_, _, ⟨_, _, rfl⟩, _, rfl⟩, _, rfl⟩ := accepted
  rfl

theorem reader_of_readRename
    {value : Json}
    {operation : ResourceOperation}
    (accepted : readRename value = .accepted operation) :
    operation.reader = readRename := by
  simp only [readRename, model_eq_accepted, Checked.seq_eq_accepted,
    Checked.map_eq_accepted] at accepted
  obtain ⟨_, rfl, _, _, ⟨_, _, ⟨_, _, ⟨_, _, rfl⟩, _, rfl⟩, _, rfl⟩, _, rfl⟩ := accepted
  rfl

theorem reader_of_readDelete
    {value : Json}
    {operation : ResourceOperation}
    (accepted : readDelete value = .accepted operation) :
    operation.reader = readDelete := by
  simp only [readDelete, model_eq_accepted, Checked.seq_eq_accepted,
    Checked.map_eq_accepted] at accepted
  obtain ⟨_, rfl, _, _, ⟨_, _, ⟨_, _, rfl⟩, _, rfl⟩, _, rfl⟩ := accepted
  rfl

theorem reader_toJson
    {value : Json}
    {operation : ResourceOperation}
    (accepted : operation.reader value = .accepted operation) :
    operation.reader (operation.toJson .kept) = .accepted operation := by
  cases operation with
  | create uri options => exact rereads_create value _ accepted
  | rename oldUri newUri options => exact rereads_rename value _ accepted
  | delete uri options => exact rereads_delete value _ accepted

end ResourceOperation

/-! ## Kinds of changes -/

namespace DocumentChange

/-- What an entry is read as by some kind of change. -/
inductive IsReadAs (value : Json) : DocumentChange → Prop where
  | edits {edit : TextDocumentEdit}
      (isRead : TextDocumentEdit.read value = .accepted edit) :
      IsReadAs value (.edits edit)
  | operation {operation : ResourceOperation}
      (isRead : operation.reader value = .accepted operation) :
      IsReadAs value (.resource operation)

theorem isReadAs_iff
    {value : Json}
    {change : DocumentChange} :
    IsReadAs value change ↔ ∃ kind ∈ kinds, kind.read value = .accepted change := by
  simp only [kinds, List.mem_cons, List.not_mem_nil, or_false, or_and_right, exists_or,
    exists_eq_left]
  constructor
  · intro isRead
    cases isRead with
    | edits isRead =>
        exact .inl (by rw [isRead]; rfl)
    | @operation operation isRead =>
        cases operation with
        | create uri options => exact .inr (.inl (Checked.map_eq_accepted.mpr ⟨_, isRead, rfl⟩))
        | rename oldUri newUri options =>
            exact .inr (.inr (.inl (Checked.map_eq_accepted.mpr ⟨_, isRead, rfl⟩)))
        | delete uri options =>
            exact .inr (.inr (.inr (Checked.map_eq_accepted.mpr ⟨_, isRead, rfl⟩)))
  · rintro (accepted | accepted | accepted | accepted)
    all_goals obtain ⟨result, isRead, rfl⟩ := Checked.map_eq_accepted.mp accepted
    · exact .edits isRead
    · exact .operation (ResourceOperation.reader_of_readCreate isRead ▸ isRead)
    · exact .operation (ResourceOperation.reader_of_readRename isRead ▸ isRead)
    · exact .operation (ResourceOperation.reader_of_readDelete isRead ▸ isRead)

/-- What an entry is as one kind of change, if it is one. -/
def Kind.candidate? (kind : Kind) (value : Json) : Option Candidate :=
  (kind.read value).value?.map fun change =>
    ⟨kind.fieldCount value, kind.fidelity value, change⟩

theorem value?_within
    {α : Type}
    (step : Step)
    (checked : Checked α) :
    (checked.within step).value? = checked.value? := by
  cases checked <;> rfl

/-- An entry is read as the best of its candidates. -/
theorem read_eq_accepted_iff
    {value : Json}
    {change : DocumentChange} :
    read value = .accepted change ↔
      ∃ best, (kinds.filterMap fun kind => kind.candidate? value).foldl better none = some best ∧
        best.change = change := by
  have candidates : ((kinds.map fun kind =>
        (kind, (kind.read value).within (.field kind.name))).filterMap fun reading =>
      reading.2.value?.map fun change =>
        (⟨reading.1.fieldCount value, reading.1.fidelity value, change⟩ : Candidate)) =
      kinds.filterMap fun kind => kind.candidate? value := by
    simp only [List.filterMap_map, Function.comp_def, value?_within]
    rfl
  unfold read
  simp only [candidates]
  cases (kinds.filterMap fun kind => kind.candidate? value).foldl better none <;> simp

/-- The best candidate is one of the candidates. -/
theorem mem_of_foldl_better
    {candidates : List Candidate}
    {start : Option Candidate}
    {best : Candidate}
    (isBest : candidates.foldl better start = some best) :
    best ∈ candidates ∨ start = some best := by
  induction candidates generalizing start with
  | nil =>
      exact .inr isBest
  | cons next rest inductionHypothesis =>
      rcases inductionHypothesis isBest with inRest | isBetter
      · exact .inl (List.mem_cons_of_mem next inRest)
      · unfold better at isBetter
        split at isBetter
        · simp_all
        · split at isBetter <;> simp_all

/-- An entry is read as what some kind of change reads it as. -/
theorem isReadAs_of_read
    {value : Json}
    {change : DocumentChange}
    (accepted : read value = .accepted change) :
    IsReadAs value change := by
  obtain ⟨best, isBest, rfl⟩ := read_eq_accepted_iff.mp accepted
  rcases mem_of_foldl_better isBest with member | nothing
  · obtain ⟨kind, isKind, isCandidate⟩ := List.mem_filterMap.mp member
    refine isReadAs_iff.mpr ⟨kind, isKind, ?_⟩
    unfold Kind.candidate? at isCandidate
    cases isRead : kind.read value with
    | accepted change =>
        rw [isRead] at isCandidate
        cases isCandidate
        rfl
    | rejected issues =>
        rw [isRead] at isCandidate
        cases isCandidate
  · cases nothing

/-- One of several candidates is the best. -/
theorem exists_foldl_better
    (first : Candidate)
    (rest : List Candidate) :
    ∃ best, (first :: rest).foldl better none = some best := by
  show ∃ best, rest.foldl better (some first) = some best
  induction rest generalizing first with
  | nil =>
      exact ⟨first, rfl⟩
  | cons next rest inductionHypothesis =>
      rw [List.foldl_cons, better]
      split
      · exact inductionHypothesis next
      · exact inductionHypothesis first

/-- An entry that all kinds of changes that read it read alike is read as that. -/
theorem read_of_agreement
    {value : Json}
    {change : DocumentChange}
    (isRead : IsReadAs value change)
    (agree : ∀ other, IsReadAs value other → other = change) :
    read value = .accepted change := by
  obtain ⟨kind, isKind, accepted⟩ := isReadAs_iff.mp isRead
  have isCandidate : (⟨kind.fieldCount value, kind.fidelity value, change⟩ : Candidate) ∈
      kinds.filterMap fun kind => kind.candidate? value :=
    List.mem_filterMap.mpr ⟨kind, isKind, by rw [Kind.candidate?, accepted]; rfl⟩
  have hasBest : ∃ best,
      (kinds.filterMap fun kind => kind.candidate? value).foldl better none = some best := by
    cases candidates : kinds.filterMap fun kind => kind.candidate? value with
    | nil =>
        rw [candidates] at isCandidate
        cases isCandidate
    | cons first rest =>
        exact exists_foldl_better first rest
  obtain ⟨best, isBest⟩ := hasBest
  have isSomething : read value = .accepted best.change :=
    read_eq_accepted_iff.mpr ⟨best, isBest, rfl⟩
  rw [isSomething, agree best.change (isReadAs_of_read isSomething)]

/-- An entry with a document and edits that names no file otherwise is the edits of the document. -/
theorem read_of_document
    {fields : List (String × Json)}
    {document : VersionedDocument}
    {edits : List TextEdit}
    (isDocument : required fields "textDocument" VersionedDocument.read = .accepted document)
    (areEdits : required fields "edits" (array TextEdit.read) = .accepted edits)
    (noUri : Json.lookup? "uri" fields = none)
    (noRename : Json.lookup? "oldUri" fields = none ∨ Json.lookup? "newUri" fields = none) :
    read (.obj fields) = .accepted (.edits ⟨document, edits⟩) := by
  have isEdits : TextDocumentEdit.read (.obj fields) = .accepted ⟨document, edits⟩ := by
    simp only [TextDocumentEdit.read, model, isDocument, areEdits]
    rfl
  apply read_of_agreement (.edits isEdits)
  intro other isOther
  cases isOther with
  | edits isRead =>
      rw [isEdits] at isRead
      cases isRead
      rfl
  | @operation operation isRead =>
      cases operation with
      | create uri options =>
          simp [ResourceOperation.reader, ResourceOperation.readCreate, noUri] at isRead
      | rename oldUri newUri options =>
          rcases noRename with noOld | noNew
          · simp [ResourceOperation.reader, ResourceOperation.readRename, noOld] at isRead
          · simp [ResourceOperation.reader, ResourceOperation.readRename, noNew] at isRead
      | delete uri options =>
          simp [ResourceOperation.reader, ResourceOperation.readDelete, noUri] at isRead

/-- An operation is no edits of a document as it is written, since it names no document. -/
theorem textDocumentEdit_read_operation
    (operation : ResourceOperation)
    (edit : TextDocumentEdit) :
    TextDocumentEdit.read (operation.toJson .kept) ≠ .accepted edit := by
  intro accepted
  cases operation <;>
    simp [TextDocumentEdit.read, ResourceOperation.toJson, record, Json.lookup?] at accepted

/-- An operation is no other operation as it is written, since the kind is written. -/
theorem reader_of_toJson
    {operation other : ResourceOperation}
    (accepted : other.reader (operation.toJson .kept) = .accepted other) :
    other.reader = operation.reader := by
  cases operation <;> cases other <;> try rfl
  all_goals
    simp [ResourceOperation.reader, ResourceOperation.readCreate, ResourceOperation.readRename,
      ResourceOperation.readDelete, ResourceOperation.toJson, record, Json.lookup?,
      Schema.optional, literal, Checked.refuse, Checked.within] at accepted

/-- A change is read again as the same kind of change. -/
theorem rereads : Rereads read (toJson .kept) := by
  intro value change accepted
  cases isReadAs_of_read accepted with
  | @edits edit isRead =>
      have again := rereads_textDocumentEdit value edit isRead
      simp only [TextDocumentEdit.read, TextDocumentEdit.toJson, model_eq_accepted,
        Checked.seq_eq_accepted, Checked.map_eq_accepted] at again
      obtain ⟨_, same, _, edits, ⟨document, isDocument, rfl⟩, areEdits, rfl⟩ := again
      cases same
      exact read_of_document isDocument areEdits rfl (.inl rfl)
  | @operation operation isRead =>
      have again := ResourceOperation.reader_toJson isRead
      apply read_of_agreement (.operation again)
      intro other isOther
      cases isOther with
      | edits isEdits =>
          exact (textDocumentEdit_read_operation operation _ isEdits).elim
      | operation isOperation =>
          rw [reader_of_toJson isOperation, again] at isOperation
          cases isOperation
          rfl

end DocumentChange

/-! ## Workspace edits -/

/-- The parts of a workspace edit were read, each from some value. -/
theorem WorkspaceEdit.parts_of_read
    {value : Json}
    {edit : WorkspaceEdit}
    (accepted : read value = .accepted edit) :
    (∀ changes, edit.changes = some changes → ∀ batch ∈ changes,
      ∃ value, array TextEdit.read value = .accepted batch.2) ∧
    ∀ changes, edit.documentChanges = some changes → ∀ change ∈ changes,
      ∃ value, DocumentChange.read value = .accepted change := by
  simp only [read, model_eq_accepted, Checked.seq_eq_accepted,
    Checked.map_eq_accepted] at accepted
  obtain ⟨fields, rfl, _, documentChanges, ⟨changes, areChanges, rfl⟩, areDocumentChanges, rfl⟩ :=
    accepted
  constructor
  · rintro changes rfl batch member
    obtain ⟨value, isRead⟩ := exists_read_of_optional areChanges
    exact exists_read_of_dictionary isRead member
  · rintro changes rfl change member
    obtain ⟨value, isRead⟩ := exists_read_of_optional areDocumentChanges
    exact exists_read_of_array isRead member

theorem rereads_workspaceEdit : Rereads WorkspaceEdit.read (WorkspaceEdit.toJson .kept) := by
  intro value edit accepted
  simp only [WorkspaceEdit.read, model_eq_accepted, Checked.seq_eq_accepted,
    Checked.map_eq_accepted] at accepted
  obtain ⟨fields, rfl, _, documentChanges, ⟨changes, areChanges, rfl⟩, areDocumentChanges, rfl⟩ :=
    accepted
  have changesAgain := rereads_textEdit.array.dictionary.optional (fun _ => nofun) areChanges
  have documentChangesAgain :=
    DocumentChange.rereads.array.optional (fun _ => nofun) areDocumentChanges
  have writtenChanges : (fun results : List (String × List TextEdit) => Json.obj
      (results.map fun field => (field.1, .arr (field.2.map (TextEdit.toJson .kept))))) =
      fun changes => .obj (changes.map (WorkspaceEdit.changeToJson .kept)) :=
    rfl
  rw [writtenChanges] at changesAgain
  simp [WorkspaceEdit.read, WorkspaceEdit.toJson, record, model, Schema.optional, Json.lookup?,
    changesAgain, documentChangesAgain, Checked.within]

/-! ## Handing written edits over -/

/-- Edits that were received are read again as a batch. -/
theorem readEdits_toJson
    {edits : List TextEdit}
    (received : ∀ edit ∈ edits, ∃ value, TextEdit.read value = .accepted edit) :
    readEdits (edits.map (TextEdit.toJson .kept)) = .ok edits := by
  induction edits with
  | nil =>
      rfl
  | cons edit rest inductionHypothesis =>
      obtain ⟨value, isRead⟩ := received edit List.mem_cons_self
      have again := rereads_textEdit value edit isRead
      have others := inductionHypothesis fun other member =>
        received other (List.mem_cons_of_mem edit member)
      rw [List.map_cons, readEdits, check, again]
      simp only [others]
      rfl

theorem onlyEdits_eq_ok
    {changes : List DocumentChange}
    {edits : List TextDocumentEdit}
    (only : onlyEdits changes = .ok edits) :
    changes = edits.map .edits := by
  induction changes generalizing edits with
  | nil =>
      cases only
      rfl
  | cons change rest inductionHypothesis =>
      cases change with
      | edits edit =>
          rw [onlyEdits] at only
          cases others : onlyEdits rest with
          | error reason =>
              rw [others] at only
              cases only
          | ok more =>
              rw [others] at only
              cases only
              rw [inductionHypothesis others, List.map_cons]
      | resource operation =>
          cases only

/-- The edits of every batch of a workspace edit were received. -/
theorem WorkspaceEdit.received_of_batches
    {value : Json}
    {edit : WorkspaceEdit}
    {batches : List (String × List TextEdit)}
    (accepted : read value = .accepted edit)
    (lists : edit.batches = .ok batches) :
    ∀ batch ∈ batches, ∀ edit ∈ batch.2, ∃ value, TextEdit.read value = .accepted edit := by
  obtain ⟨changesRead, documentChangesRead⟩ := parts_of_read accepted
  intro batch member
  unfold WorkspaceEdit.batches at lists
  split at lists
  · rename_i first rest isList
    cases only : onlyEdits (first :: rest) with
    | error reason =>
        rw [only] at lists
        cases lists
    | ok edits =>
        rw [only] at lists
        cases lists
        obtain ⟨change, isChange, rfl⟩ := List.mem_map.mp member
        have isEntry : DocumentChange.edits change ∈ first :: rest := by
          rw [onlyEdits_eq_ok only]
          exact List.mem_map_of_mem isChange
        obtain ⟨value, isRead⟩ := documentChangesRead _ isList _ isEntry
        cases DocumentChange.isReadAs_of_read isRead with
        | edits isRead =>
            simp only [TextDocumentEdit.read, model_eq_accepted, Checked.seq_eq_accepted,
              Checked.map_eq_accepted, required_eq_accepted] at isRead
            obtain ⟨_, rfl, _, edits, ⟨_, _, rfl⟩, ⟨_, _, areEdits⟩, rfl⟩ := isRead
            exact fun edit => exists_read_of_array areEdits
  · cases lists
    cases isChanges : edit.changes with
    | none =>
        rw [isChanges] at member
        cases member
    | some changes =>
        rw [isChanges] at member
        obtain ⟨value, isRead⟩ := changesRead changes isChanges batch member
        exact fun edit => exists_read_of_array isRead

/-- Hand over the batches of a workspace edit as it is written. -/
def Act.passWrittenWorkspaceEdit
    (lookup : String → Act Int)
    (hand : List TextEdit → Int → Text.Encoding → Act Unit)
    (value : Json)
    (encoding : Text.Encoding) : Act Unit := do
  passWorkspaceEdit lookup hand
    (← ofExcept .rejected (check "WorkspaceEdit" WorkspaceEdit.read value)) encoding

theorem Act.passWrittenWorkspaceEdit_of_read
    {lookup : String → Act Int}
    {hand : List TextEdit → Int → Text.Encoding → Act Unit}
    {value : Json}
    {edit : WorkspaceEdit}
    (isRead : WorkspaceEdit.read value = .accepted edit)
    (encoding : Text.Encoding) :
    passWrittenWorkspaceEdit lookup hand value encoding =
      passWorkspaceEdit lookup hand edit encoding := by
  unfold passWrittenWorkspaceEdit
  rw [check, isRead]
  rfl

theorem Act.passWritten_of_read
    {α : Type}
    {hand : List TextEdit → Int → Text.Encoding → Act α}
    {values : List Json}
    {edits : List TextEdit}
    (reads : readEdits values = .ok edits)
    (number : Int)
    (encoding : Text.Encoding) :
    passWritten hand values number encoding = passOn hand edits number encoding := by
  unfold passWritten
  rw [reads]
  rfl

/-- A workspace edit that was received is the same one in its written form, entry by entry, and has
the same effect, whether it is given as it is or as it is written; and an entry with a document and
edits that names no file otherwise is the edits of the document. -/
theorem WorkspaceEdit.survives_writing
    (value : Json)
    (edit : WorkspaceEdit)
    (isRead : read value = .accepted edit) :
    read (edit.toJson .kept) = .accepted edit ∧
    (∀ changes, edit.documentChanges = some changes → ∀ change ∈ changes,
      DocumentChange.read (change.toJson .kept) = .accepted change) ∧
    (∀ lookup hand encoding,
      Act.passWrittenWorkspaceEdit lookup hand (edit.toJson .kept) encoding =
        Act.passWorkspaceEdit lookup hand edit encoding) ∧
    (∀ batches, edit.batches = .ok batches → ∀ batch ∈ batches,
      ∀ (hand : List TextEdit → Int → Text.Encoding → Act Unit) number encoding,
        Act.passWritten hand (batch.2.map (TextEdit.toJson .kept)) number encoding =
          Act.passOn hand batch.2 number encoding) ∧
    ∀ fields document edits,
      required fields "textDocument" VersionedDocument.read = .accepted document →
      required fields "edits" (array TextEdit.read) = .accepted edits →
      Json.lookup? "uri" fields = none → Json.lookup? "oldUri" fields = none →
      Json.lookup? "newUri" fields = none →
        DocumentChange.read (.obj fields) = .accepted (.edits ⟨document, edits⟩) := by
  have again := rereads_workspaceEdit value edit isRead
  refine ⟨again, fun changes isList change member => ?_,
    fun lookup hand encoding => Act.passWrittenWorkspaceEdit_of_read again encoding,
    fun batches lists batch member hand number encoding => ?_,
    fun fields document edits isDocument areEdits noUri noOldUri _ =>
      DocumentChange.read_of_document isDocument areEdits noUri (.inl noOldUri)⟩
  · obtain ⟨value, isChange⟩ := (parts_of_read isRead).2 changes isList change member
    exact DocumentChange.rereads value change isChange
  · have received := received_of_batches isRead lists batch member
    exact Act.passWritten_of_read (readEdits_toJson received) number encoding

/-- A list of changes as a server may send it: a version is spelled as a text, a key is unknown, and
no operation says of what kind it is. -/
def WorkspaceEdit.looselyWritten : Json :=
  .obj [("documentChanges", .arr [
    .obj [("textDocument", .obj [("uri", .str "file:///a.rs"), ("version", .str "3")]),
      ("edits", .arr []), ("label", .str "rename")],
    .obj [("uri", .str "file:///b.rs")],
    .obj [("oldUri", .str "file:///a.rs"), ("newUri", .str "file:///c.rs")]])]

/-- The edit that the loosely written one stands for. -/
def WorkspaceEdit.looselyRead : WorkspaceEdit :=
  ⟨none, some [.edits ⟨⟨"file:///a.rs", some 3⟩, []⟩,
    .resource (.create "file:///b.rs" none),
    .resource (.rename "file:///a.rs" "file:///c.rs" none)]⟩

theorem WorkspaceEdit.looselyWritten_survives :
    read looselyWritten = .accepted looselyRead ∧
      read (looselyRead.toJson .kept) = .accepted looselyRead :=
  ⟨by decide +kernel, (survives_writing looselyWritten looselyRead (by decide +kernel)).1⟩

end AnalyzerSessions
