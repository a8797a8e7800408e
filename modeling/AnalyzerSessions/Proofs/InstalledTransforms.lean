import AnalyzerSessions.Proofs.EditPipelines
import AnalyzerSessions.Proofs.StartWays
import AnalyzerSessions.Proofs.UncalledListeners
import AnalyzerSessions.Proofs.WorkspaceEdits
import Mathlib.Data.List.Forall2
import Mathlib.Data.List.Induction

namespace AnalyzerSessions

/-!
# Installed transforms

A pipeline holds the transforms that were asked for, each once, in the order in which their
names were first asked for.  Only an installation changes it: whatever else a manager does
with its sessions, its documents and the reports of its transport leaves the transforms as
they are.
-/

/-!
## Translated batches

The translation of snippets goes through a batch edit by edit.  A snippet becomes the plain
text that it stands for and is marked as a snippet no longer, so that a second translation
finds nothing to do, whatever the text looks like that the first one left.
-/

theorem Snippet.plainText?_eq_some_iff
    {written plain : String} :
    plainText? written = some plain ↔
      deepestFrom 0 written.toList ≤ maxNesting ∧ plainText written = plain := by
  unfold plainText?
  split
  · rename_i tooMany
    exact ⟨nofun, fun both => (Nat.not_lt.mpr both.1 tooMany).elim⟩
  · rename_i shallow
    simp [Nat.not_lt.mp shallow]

namespace TextEdit

/-- What the translation makes of an edit. -/
inductive Translates : TextEdit → TextEdit → Prop where
  /-- A snippet gets its plain text and loses its format; its range and its annotation stay. -/
  | snippet {range : Range} {written plain : String} {label : Option String}
      (reads : Snippet.plainText? written = some plain) :
      Translates ⟨range, written, some ⟨some .snippet, label⟩⟩
        ⟨range, plain, some ⟨none, label⟩⟩
  /-- Any other edit stays as it is, whatever its text looks like. -/
  | other {edit : TextEdit}
      (ordinary : edit.isSnippet = false) :
      Translates edit edit

/-- The annotation that an edit names. -/
def annotation? (edit : TextEdit) : Option String :=
  edit.extension.bind EditExtension.annotation

section

variable {edit translated : TextEdit}

theorem eq_of_isSnippet (isSnippet : edit.isSnippet = true) :
    ∃ label, edit = ⟨edit.range, edit.newText, some ⟨some .snippet, label⟩⟩ := by
  obtain ⟨range, newText, extension⟩ := edit
  simp only [TextEdit.isSnippet, beq_iff_eq, Option.bind_eq_some_iff] at isSnippet
  obtain ⟨⟨format, label⟩, isExtension, isFormat⟩ := isSnippet
  obtain rfl : format = some .snippet := isFormat
  exact ⟨label, by rw [isExtension]⟩

theorem isTooDeep_eq_false_iff :
    edit.isTooDeep = false ↔ (edit.isSnippet = true →
      Snippet.deepestFrom 0 edit.newText.toList ≤ Snippet.maxNesting) := by
  cases isSnippet : edit.isSnippet <;> simp [isTooDeep, isSnippet, Snippet.plainText?]

/-- An edit is translated unless it is a snippet that is nested too deeply. -/
theorem translates_iff :
    edit.Translates translated ↔ edit.isTooDeep = false ∧ translated = edit.withoutSnippet := by
  constructor
  · intro translates
    cases translates with
    | snippet reads =>
        have isPlain := (Snippet.plainText?_eq_some_iff.mp reads).2
        simp [isTooDeep, withoutSnippet, isSnippet, reads, isPlain]
    | other ordinary =>
        simp [isTooDeep, withoutSnippet, ordinary]
  · rintro ⟨shallow, rfl⟩
    cases isSnippet : edit.isSnippet with
    | false =>
        simpa [withoutSnippet, isSnippet] using Translates.other isSnippet
    | true =>
        obtain ⟨label, isEdit⟩ := eq_of_isSnippet isSnippet
        have reads : Snippet.plainText? edit.newText = some (Snippet.plainText edit.newText) :=
          Snippet.plainText?_eq_some_iff.mpr ⟨isTooDeep_eq_false_iff.mp shallow isSnippet, rfl⟩
        have isTranslated : edit.withoutSnippet =
            ⟨edit.range, Snippet.plainText edit.newText, some ⟨none, label⟩⟩ := by
          rw [withoutSnippet, if_pos isSnippet, isEdit]
          rfl
        rw [isTranslated, isEdit]
        exact .snippet reads

theorem Translates.range_eq (translates : edit.Translates translated) :
    translated.range = edit.range := by
  cases translates <;> rfl

theorem Translates.annotation?_eq (translates : edit.Translates translated) :
    translated.annotation? = edit.annotation? := by
  cases translates <;> rfl

/-- What was translated is no snippet any more. -/
theorem Translates.isSnippet_eq_false (translates : edit.Translates translated) :
    translated.isSnippet = false := by
  cases translates with
  | snippet reads => rfl
  | other ordinary => exact ordinary

end

end TextEdit

/-- A batch and what the translation of snippets makes of it. -/
structure IsTranslation (edits translated : List TextEdit) : Prop where
  /-- The edits are translated one by one, in order. -/
  entries : List.Forall₂ TextEdit.Translates edits translated
  length : translated.length = edits.length
  ranges : translated.map TextEdit.range = edits.map TextEdit.range
  annotations : translated.map TextEdit.annotation? = edits.map TextEdit.annotation?
  /-- No edit is a snippet any more. -/
  ordinary : ∀ edit ∈ translated, edit.isSnippet = false
  /-- A second translation changes nothing. -/
  settled : stripSnippets? translated = some translated

section

variable {edits translated : List TextEdit}

/-- A batch is translated edit by edit, unless one of its snippets is nested too deeply. -/
theorem forall₂_translates_iff :
    List.Forall₂ TextEdit.Translates edits translated ↔
      (∀ edit ∈ edits, edit.isTooDeep = false) ∧ translated = stripSnippets edits := by
  induction edits generalizing translated with
  | nil =>
      simp [stripSnippets]
  | cons edit rest inductionHypothesis =>
      simp only [List.forall₂_cons_left_iff, TextEdit.translates_iff, inductionHypothesis,
        stripSnippets, List.map_cons, List.forall_mem_cons]
      constructor
      · rintro ⟨_, _, ⟨shallow, rfl⟩, ⟨restShallow, rfl⟩, rfl⟩
        exact ⟨⟨shallow, restShallow⟩, rfl⟩
      · rintro ⟨⟨shallow, restShallow⟩, rfl⟩
        exact ⟨_, _, ⟨shallow, rfl⟩, ⟨restShallow, rfl⟩, rfl⟩

theorem stripSnippets?_eq_some_iff :
    stripSnippets? edits = some translated ↔
      List.Forall₂ TextEdit.Translates edits translated := by
  rw [forall₂_translates_iff]
  unfold stripSnippets?
  split
  · rename_i someDeep
    obtain ⟨edit, member, isDeep⟩ := List.any_eq_true.mp someDeep
    refine ⟨nofun, fun translates => ?_⟩
    rw [translates.1 edit member] at isDeep
    cases isDeep
  · rename_i noneDeep
    have shallow : ∀ edit ∈ edits, edit.isTooDeep = false := by
      simpa using noneDeep
    exact ⟨fun isTranslated => ⟨shallow, (Option.some.inj isTranslated).symm⟩,
      fun translates => congrArg some translates.2.symm⟩

/-- A batch without snippets is left as it is. -/
theorem stripSnippets?_of_ordinary (ordinary : ∀ edit ∈ edits, edit.isSnippet = false) :
    stripSnippets? edits = some edits :=
  stripSnippets?_eq_some_iff.mpr
    (List.forall₂_same.mpr fun edit member => .other (ordinary edit member))

theorem ordinary_of_forall₂ (translates : List.Forall₂ TextEdit.Translates edits translated) :
    ∀ edit ∈ translated, edit.isSnippet = false := by
  induction translates with
  | nil => exact nofun
  | cons head _ inductionHypothesis =>
      exact List.forall_mem_cons.mpr ⟨head.isSnippet_eq_false, inductionHypothesis⟩

theorem map_eq_of_forall₂
    {α : Type}
    {part : TextEdit → α}
    (same : ∀ {edit after : TextEdit}, edit.Translates after → part after = part edit)
    (translates : List.Forall₂ TextEdit.Translates edits translated) :
    translated.map part = edits.map part := by
  induction translates with
  | nil => rfl
  | cons head _ inductionHypothesis =>
      rw [List.map_cons, List.map_cons, same head, inductionHypothesis]

theorem isTranslation_iff :
    IsTranslation edits translated ↔ stripSnippets? edits = some translated := by
  rw [stripSnippets?_eq_some_iff]
  refine ⟨IsTranslation.entries, fun translates => ?_⟩
  have ordinary := ordinary_of_forall₂ translates
  exact ⟨translates, translates.length_eq.symm,
    map_eq_of_forall₂ TextEdit.Translates.range_eq translates,
    map_eq_of_forall₂ TextEdit.Translates.annotation?_eq translates, ordinary,
    stripSnippets?_of_ordinary ordinary⟩

end

/-- The plain text of a snippet may be read as a snippet again: an escaped dollar sign is one no
longer. -/
theorem plainText?_escaped_stop :
    Snippet.plainText? "\\$1" = some "$1" ∧ Snippet.plainText? "$1" = some "" := by
  constructor <;> decide +kernel

/-- A batch is translated when no snippet in it has more placeholders open at once than may be.
The translation takes the edits one by one and leaves no snippet, so that doing it again changes
nothing, although the plain text of a snippet may look like a snippet. -/
theorem stripSnippets?_translates (edits : List TextEdit) :
    ((∃ translated, stripSnippets? edits = some translated) ↔
      ∀ edit ∈ edits, edit.isSnippet = true →
        Snippet.deepestFrom 0 edit.newText.toList ≤ Snippet.maxNesting) ∧
    (∀ translated, stripSnippets? edits = some translated ↔ IsTranslation edits translated) ∧
    ∃ written plain, Snippet.plainText? written = some plain ∧
      Snippet.plainText? plain ≠ some plain := by
  refine ⟨?_, fun _ => isTranslation_iff.symm, "\\$1", "$1", plainText?_escaped_stop.1, ?_⟩
  · simp only [stripSnippets?_eq_some_iff, forall₂_translates_iff,
      TextEdit.isTooDeep_eq_false_iff, exists_and_left, exists_eq, and_true]
  · rw [plainText?_escaped_stop.2]
    decide

example : stripSnippets? [Act.insertion "\\$1" (some .snippet), Act.insertion "$1" none] =
    some [Act.insertion "$1" none, Act.insertion "$1" none] := by
  decide +kernel

/-- Not every batch is translated: a snippet may be nested too deeply. -/
theorem deep_batch_is_not_translated :
    ¬∀ edits, ∃ translated, stripSnippets? edits = some translated ∧
      IsTranslation edits translated := by
  intro translates
  obtain ⟨translated, _, isTranslation⟩ := translates Act.deepBatch.2
  have shallow := (forall₂_translates_iff.mp isTranslation.entries).1 _ (List.mem_singleton.mpr rfl)
  have isDeep := Act.isTooDeep_insertion (Snippet.nestedTree_wellNamed 1500)
  rw [Snippet.nestingAll_nestedTree, shallow] at isDeep
  revert isDeep
  decide

/-! ## Transforms that are asked for -/

namespace TransformChain

/-- The transforms that are asked for, each where its name is asked for first. -/
def firsts (asked : List Transform) : TransformChain :=
  asked.eraseDupsBy fun later earlier => later.name == earlier.name

theorem firsts_cons
    (first : Transform)
    (asked : List Transform) :
    firsts (first :: asked) =
      first :: firsts (asked.filter fun later => later.name != first.name) := by
  unfold firsts
  rw [List.eraseDupsBy_cons]
  congr 3
  funext later
  cases same : later.name == first.name <;> simp [bne, same]

/-- One more transform comes last, unless one of its name was asked for before. -/
theorem firsts_append_singleton
    (asked : List Transform)
    (transform : Transform) :
    firsts (asked ++ [transform]) =
      if asked.any fun earlier => earlier.name == transform.name then firsts asked
      else firsts asked ++ [transform] := by
  match asked with
  | [] =>
      rfl
  | first :: rest =>
      rw [List.cons_append, firsts_cons, firsts_cons, List.filter_append, List.any_cons]
      by_cases same : first.name = transform.name
      · simp [same]
      · have different : transform.name ≠ first.name := Ne.symm same
        have stays : [transform].filter (fun later => later.name != first.name) = [transform] := by
          simp [different]
        have sameAny :
            (rest.filter fun later => later.name != first.name).any
              (fun earlier => earlier.name == transform.name) =
            rest.any fun earlier => earlier.name == transform.name := by
          rw [List.any_filter]
          congr 1
          funext earlier
          by_cases isIt : earlier.name = transform.name <;> simp [isIt, different]
        -- What is left of the rest is no longer than the rest, and as often has the last name.
        rw [stays, firsts_append_singleton, sameAny]
        simp only [beq_eq_false_iff_ne.mpr same, Bool.false_or]
        split <;> rfl
termination_by asked.length
decreasing_by
  exact Nat.lt_succ_of_le (List.length_filter_le _ _)

/-- A transform is installed when one of its name was asked for. -/
theorem contains_firsts
    (asked : List Transform)
    (transform : Transform) :
    (firsts asked).contains transform =
      asked.any fun earlier => earlier.name == transform.name := by
  induction asked using List.reverseRecOn with
  | nil =>
      rfl
  | append_singleton asked last inductionHypothesis =>
      unfold contains at inductionHypothesis ⊢
      rw [firsts_append_singleton, List.any_append]
      split
      · rename_i already
        rw [inductionHypothesis]
        by_cases same : last.name = transform.name
        · rw [← same, already, Bool.true_or]
        · simp [same]
      · rw [List.any_append, inductionHypothesis]

theorem install_firsts
    (asked : List Transform)
    (transform : Transform) :
    install (firsts asked) transform =
      (!asked.any fun earlier => earlier.name == transform.name, firsts (asked ++ [transform])) := by
  rw [install, contains_firsts, firsts_append_singleton]
  cases asked.any fun earlier => earlier.name == transform.name <;> rfl

theorem mem_of_mem_firsts
    {asked : List Transform}
    {transform : Transform}
    (member : transform ∈ firsts asked) :
    transform ∈ asked := by
  induction asked using List.reverseRecOn with
  | nil =>
      exact member
  | append_singleton asked last inductionHypothesis =>
      rw [firsts_append_singleton] at member
      split at member
      · exact List.mem_append_left _ (inductionHypothesis member)
      · rcases List.mem_append.mp member with old | new
        · exact List.mem_append_left _ (inductionHypothesis old)
        · exact List.mem_append_right _ new

/-- No two transforms that are installed have the same name. -/
theorem nodup_firsts (asked : List Transform) : ((firsts asked).map Transform.name).Nodup := by
  induction asked using List.reverseRecOn with
  | nil =>
      exact List.nodup_nil
  | append_singleton asked last inductionHypothesis =>
      rw [firsts_append_singleton]
      split
      · exact inductionHypothesis
      · rename_i isNew
        rw [← contains_firsts] at isNew
        rw [List.map_append, List.map_singleton, List.nodup_append]
        refine ⟨inductionHypothesis, List.nodup_singleton _, ?_⟩
        intro name isInstalled other isLast same
        obtain ⟨earlier, member, rfl⟩ := List.mem_map.mp isInstalled
        rw [List.mem_singleton.mp isLast] at same
        exact isNew (List.any_eq_true.mpr ⟨earlier, member, beq_iff_eq.mpr same⟩)

/-- A chain translates snippets once: the translation is one of its transforms and no other one goes
by its name, and every batch that goes through the chain is translated as it comes to it. -/
def TranslatesOnce (chain : TransformChain) : Prop :=
  ∃ early late : TransformChain, chain = early ++ plainSnippets :: late ∧
    (∀ other ∈ early ++ late, other.name ≠ plainSnippets.name) ∧
    ∀ edits given final, chain.Passes edits given final →
      ∃ before translated, early.Passes edits (given.take early.length) before ∧
        IsTranslation before translated ∧
        late.Passes translated (given.drop (early.length + 1)) final

theorem translatesOnce_of_mem
    {chain : TransformChain}
    (distinct : (chain.map Transform.name).Nodup)
    (member : plainSnippets ∈ chain) :
    chain.TranslatesOnce := by
  obtain ⟨early, late, rfl⟩ := List.append_of_mem member
  refine ⟨early, late, rfl, ?_, ?_⟩
  · rw [List.map_append, List.map_cons, List.nodup_middle, List.nodup_cons, ← List.map_append]
      at distinct
    intro other isOther same
    exact distinct.1 (List.mem_map.mpr ⟨other, isOther, same⟩)
  · intro edits given final passes
    obtain ⟨before, first, rest⟩ := passes_append passes
    generalize remains : given.drop early.length = later at rest
    cases rest with
    | @next _ _ _ translated _ behind runs more =>
        refine ⟨before, translated, first, isTranslation_iff.mpr runs, ?_⟩
        rw [← List.drop_drop, remains]
        exact more

end TransformChain

/-! ## Acts and transforms -/

theorem Desk.allowsStarts_sameTransforms : Desk.AllowsStarts Desk.SameTransforms where
  toIsWay := isWay_sameTransforms
  spares same := same.transforms
  attach _ _ _ := rfl
  enter _ _ _ _ := rfl
  add _ _ _ _ := rfl

namespace Act

open Desk (isWay_sameTransforms)

variable {α : Type}

/-- An act that neither installs a transform nor takes one away. -/
abbrev LeavesTransforms (act : Act α) : Prop :=
  KeepsTo Desk.SameTransforms act

theorem LeavesTransforms.bind
    {β : Type}
    {act : Act α}
    {next : α → Act β}
    (first : LeavesTransforms act)
    (second : ∀ value, LeavesTransforms (next value)) :
    LeavesTransforms (act >>= next) :=
  KeepsTo.bind isWay_sameTransforms first second

theorem leavesTransforms_pure (value : α) : LeavesTransforms (pure value) :=
  keepsTo_pure isWay_sameTransforms value

theorem leavesTransforms_ofExcept
    {ε : Type}
    (cause : ε → Failure)
    (result : Except ε α) :
    LeavesTransforms (ofExcept cause result) :=
  keepsTo_ofExcept isWay_sameTransforms cause result

theorem leavesTransforms_modify
    {change : Desk → Desk}
    (same : ∀ desk, (change desk).transforms = desk.transforms) :
    LeavesTransforms (modify change : Act Unit) :=
  keepsTo_modify same

theorem leavesTransforms_say
    (level : Level)
    (text : String) :
    LeavesTransforms (say level text) :=
  leavesTransforms_modify fun _ => rfl

theorem leavesTransforms_modifySession
    (id : Nat)
    (change : Session → Session) :
    LeavesTransforms (modifySession id change) :=
  leavesTransforms_modify fun _ => rfl

theorem leavesTransforms_transition
    (id : Nat)
    (state : SessionState) :
    LeavesTransforms (transition id state) := by
  refine keepsTo_look fun desk => ?_
  split
  · exact leavesTransforms_pure ()
  · exact LeavesTransforms.bind (leavesTransforms_modify fun _ => rfl) fun _ =>
      leavesTransforms_modifySession id _

theorem leavesTransforms_tellAll
    (id : Nat)
    (more : List Json)
    (listeners : List Listener) :
    LeavesTransforms (tellAll id more listeners) := by
  intro desk
  have same := (perform_tellAll id more listeners desk).2.1
  rw [Desk.SameButRecords] at same
  rw [same]
  rfl

/-! Documents are opened and edited. -/

theorem leavesTransforms_bufferForUri (uri : String) : LeavesTransforms (bufferForUri uri) := by
  refine (leavesTransforms_ofExcept _ _).bind fun path => keepsTo_look fun desk => ?_
  exact (leavesTransforms_ofExcept _ _).bind fun _ =>
    LeavesTransforms.bind (leavesTransforms_modify fun _ => rfl) fun _ => leavesTransforms_pure _

theorem leavesTransforms_applyToBuffer
    (edits : List TextEdit)
    (number : Int)
    (encoding : Text.Encoding) :
    LeavesTransforms (applyToBuffer edits number encoding) := by
  refine keepsTo_look fun desk => ?_
  split
  · exact keepsTo_throw isWay_sameTransforms _
  · exact LeavesTransforms.bind (leavesTransforms_modify fun _ => rfl) fun _ =>
      leavesTransforms_modify fun _ => rfl

/-! The transport reports that a server is initialized. -/

theorem leavesTransforms_equip (id : Nat) : LeavesTransforms (equip id) :=
  keepsTo_look fun _ => LeavesTransforms.bind (leavesTransforms_modify fun _ => rfl) fun _ =>
    leavesTransforms_modifySession id _

theorem leavesTransforms_offerReload (id : Nat) : LeavesTransforms (offerReload id) := by
  have created : LeavesTransforms (createReload id) :=
    keepsTo_look fun _ => LeavesTransforms.bind (leavesTransforms_modify fun _ => rfl) fun _ =>
      (leavesTransforms_ofExcept _ _).bind fun _ =>
        LeavesTransforms.bind (leavesTransforms_modify fun _ => rfl) fun _ =>
          leavesTransforms_modifySession id _
  refine keepsTo_look fun desk => (leavesTransforms_ofExcept _ _).bind fun reloads => ?_
  split
  · exact created
  · exact leavesTransforms_pure ()

theorem leavesTransforms_beginRunning (session : Session) :
    LeavesTransforms (beginRunning session) :=
  (leavesTransforms_transition _ _).bind fun _ => (leavesTransforms_transition _ _).bind fun _ =>
    keepsTo_look fun _ => (leavesTransforms_say _ _).bind fun _ => leavesTransforms_tellAll _ _ _

/-! The transport reports that a server has exited. -/

theorem leavesTransforms_removeCommands (session : Session) :
    LeavesTransforms (removeCommands session) := by
  have withdrawn : LeavesTransforms (withdrawCommands session) := by
    refine keepsTo_look fun desk => ?_
    dsimp only
    split
    · exact leavesTransforms_modify fun _ => rfl
    · exact leavesTransforms_say _ _
  unfold removeCommands
  split
  · exact withdrawn.bind fun _ => leavesTransforms_modifySession _ _
  · exact leavesTransforms_pure ()

theorem leavesTransforms_removeGroup (session : Session) :
    LeavesTransforms (removeGroup session) := by
  unfold removeGroup
  split
  · exact leavesTransforms_pure ()
  · refine keepsTo_look fun desk => ?_
    split
    · exact LeavesTransforms.bind (leavesTransforms_modify fun _ => rfl) fun _ =>
        leavesTransforms_modifySession _ _
    · exact (leavesTransforms_say _ _).bind fun _ => leavesTransforms_modifySession _ _

theorem leavesTransforms_conclude
    (session : Session)
    (code : Json) :
    LeavesTransforms (conclude session code) := by
  have begun : LeavesTransforms (beginStopping session) := by
    unfold beginStopping
    split
    · exact leavesTransforms_transition _ _
    · exact leavesTransforms_pure ()
  have unlisted : LeavesTransforms (unregister session) := by
    refine keepsTo_look fun desk => LeavesTransforms.bind (leavesTransforms_modify fun _ => rfl)
      fun _ => ?_
    split
    · exact leavesTransforms_modify fun _ => rfl
    · exact leavesTransforms_pure ()
  exact (leavesTransforms_modifySession _ _).bind fun _ => begun.bind fun _ =>
    (leavesTransforms_transition _ _).bind fun _ => unlisted.bind fun _ =>
      leavesTransforms_modifySession _ _

/-! ## Installing -/

/-- An installation says whether it is the first one of a transform, and leaves the sessions as they
are. -/
theorem perform_installTransform
    (transform : Transform)
    (desk : Desk) :
    (perform (installTransform transform) desk).1 = .ok (desk.transforms.install transform).1 ∧
      (after (installTransform transform) desk).transforms =
        (desk.transforms.install transform).2 ∧
      (after (installTransform transform) desk).registry = desk.registry := by
  unfold installTransform after
  rw [perform_get_bind]
  rcases desk.transforms.install transform with ⟨added, transforms⟩
  cases added <;> exact ⟨rfl, rfl, rfl⟩

/-- What comes behind an installation leaves the transform installed. -/
theorem transforms_install_bind
    {next : Bool → Act α}
    (transform : Transform)
    (leaves : ∀ added, LeavesTransforms (next added))
    (desk : Desk) :
    (after (installTransform transform >>= next) desk).transforms =
      (desk.transforms.install transform).2 := by
  obtain ⟨added, installed, _⟩ := perform_installTransform transform desk
  rw [after_bind_of_ok added, leaves _ _, installed]

end Act

end AnalyzerSessions
