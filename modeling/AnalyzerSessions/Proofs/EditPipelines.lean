import AnalyzerSessions.Proofs.LedgerActs
import AnalyzerSessions.Proofs.DocumentEdits
import Mathlib.Data.List.Forall2

namespace AnalyzerSessions

/-!
# Edit pipelines

A batch goes through the installed transforms in order, each taking what the one before it
gave, and what the last one gives is handed over to be applied.  A transform that gives
nothing ends the way of a batch: it comes to none of those behind, and nothing is applied.
-/

namespace TransformChain

/-- A batch goes through a chain: what each transform is given, in order, and what the last one
makes of it. -/
inductive Passes :
    TransformChain → List TextEdit → List (List TextEdit) → List TextEdit → Prop where
  | through {edits : List TextEdit} :
      Passes [] edits [] edits
  | next {transform : Transform} {rest : TransformChain} {edits changed final : List TextEdit}
      {given : List (List TextEdit)}
      (runs : transform.run edits = some changed)
      (later : Passes rest changed given final) :
      Passes (transform :: rest) edits (edits :: given) final

variable {chain early late : TransformChain} {edits final : List TextEdit}
  {given : List (List TextEdit)}

theorem run?_cons
    (transform : Transform)
    (rest : TransformChain)
    (edits : List TextEdit) :
    run? (transform :: rest) edits = (transform.run edits).bind rest.run? :=
  List.foldlM_cons

/-- A chain makes of a batch what it goes through it to. -/
theorem run?_eq_some_iff :
    chain.run? edits = some final ↔ ∃ given, chain.Passes edits given final := by
  constructor
  · intro runs
    induction chain generalizing edits with
    | nil =>
        cases runs
        exact ⟨[], .through⟩
    | cons transform rest inductionHypothesis =>
        rw [run?_cons, Option.bind_eq_some_iff] at runs
        obtain ⟨changed, isChanged, restRuns⟩ := runs
        obtain ⟨given, later⟩ := inductionHypothesis restRuns
        exact ⟨edits :: given, .next isChanged later⟩
  · rintro ⟨given, passes⟩
    induction passes with
    | through => rfl
    | next runs _ inductionHypothesis => rw [run?_cons, runs, Option.bind_some, inductionHypothesis]

/-- A batch does not get through a chain: a transform gives nothing for what comes to it. -/
def Blocks (chain : TransformChain) (edits : List TextEdit) : Prop :=
  ∃ (early : TransformChain) (stuck : Transform) (late : TransformChain)
    (given : List (List TextEdit)) (mid : List TextEdit),
    chain = early ++ stuck :: late ∧ early.Passes edits given mid ∧ stuck.run mid = none

theorem run?_eq_none_iff :
    chain.run? edits = none ↔ chain.Blocks edits := by
  constructor
  · intro stops
    induction chain generalizing edits with
    | nil =>
        cases stops
    | cons transform rest inductionHypothesis =>
        cases runs : transform.run edits with
        | none =>
            exact ⟨[], transform, rest, [], edits, rfl, .through, runs⟩
        | some changed =>
            rw [run?_cons, runs, Option.bind_some] at stops
            obtain ⟨early, stuck, late, given, mid, rfl, passes, isStuck⟩ :=
              inductionHypothesis stops
            exact ⟨transform :: early, stuck, late, edits :: given, mid, rfl, .next runs passes,
              isStuck⟩
  · rintro ⟨early, stuck, late, given, mid, rfl, passes, isStuck⟩
    induction passes with
    | through => rw [List.nil_append, run?_cons, isStuck, Option.bind_none]
    | next runs _ inductionHypothesis =>
        rw [List.cons_append, run?_cons, runs, Option.bind_some, inductionHypothesis isStuck]

/-- A batch goes through two chains in a row as it goes through one after the other. -/
theorem passes_append
    (passes : (early ++ late).Passes edits given final) :
    ∃ mid, early.Passes edits (given.take early.length) mid ∧
      late.Passes mid (given.drop early.length) final := by
  induction early generalizing edits given with
  | nil =>
      exact ⟨edits, .through, passes⟩
  | cons transform rest inductionHypothesis =>
      cases passes with
      | next runs later =>
          obtain ⟨mid, first, second⟩ := inductionHypothesis later
          exact ⟨mid, .next runs first, second⟩

/-- Every batch goes through a chain, or does not get through it. -/
theorem passes_or_blocks
    (chain : TransformChain)
    (edits : List TextEdit) :
    (∃ given final, chain.Passes edits given final) ∨ chain.Blocks edits := by
  cases runs : chain.run? edits with
  | none =>
      exact .inr (run?_eq_none_iff.mp runs)
  | some final =>
      obtain ⟨given, passes⟩ := run?_eq_some_iff.mp runs
      exact .inl ⟨given, final, passes⟩

/-- The batches of several documents go through a chain. -/
def PassesAll (chain : TransformChain) : List Batch → List Batch → Prop :=
  List.Forall₂ fun batch final =>
    final.1 = batch.1 ∧ ∃ given, chain.Passes batch.2 given final.2

/-- All batches go through a chain, or there is a first one that does not get through it. -/
theorem passesAll_or_blocks
    (chain : TransformChain)
    (batches : List Batch) :
    (∃ finals, chain.PassesAll batches finals) ∨
      ∃ done batch rest finals, batches = done ++ batch :: rest ∧
        chain.PassesAll done finals ∧ chain.Blocks batch.2 := by
  induction batches with
  | nil =>
      exact .inl ⟨[], .nil⟩
  | cons batch rest inductionHypothesis =>
      rcases chain.passes_or_blocks batch.2 with ⟨given, final, passes⟩ | blocks
      · have first : (batch.1, final).1 = batch.1 ∧
            ∃ given, chain.Passes batch.2 given (batch.1, final).2 :=
          ⟨rfl, given, passes⟩
        rcases inductionHypothesis with ⟨finals, all⟩ | ⟨done, stuck, more, finals, rfl, all, blocks⟩
        · exact .inl ⟨(batch.1, final) :: finals, .cons first all⟩
        · exact .inr ⟨batch :: done, stuck, more, (batch.1, final) :: finals, rfl,
            .cons first all, blocks⟩
      · exact .inr ⟨[], batch, rest, [], rfl, .nil, blocks⟩

end TransformChain

/-- The installed transforms are as they were. -/
def Desk.SameTransforms (before after : Desk) : Prop :=
  after.transforms = before.transforms

theorem Desk.isWay_sameTransforms : Desk.IsWay Desk.SameTransforms where
  refl _ := rfl
  trans first second := Eq.trans second first

namespace Act

variable {α : Type}

/-! ## Handing batches over -/

/-- Hand over what the installed transforms make of a batch. -/
def passOn
    (hand : List TextEdit → Int → Text.Encoding → Act α)
    (edits : List TextEdit)
    (number : Int)
    (encoding : Text.Encoding) : Act α := do
  match (← get).transforms.run? edits with
  | none => throw .tooDeep
  | some final => hand final number encoding

/-- Hand over what the installed transforms make of a batch as it is written. -/
def passWritten
    (hand : List TextEdit → Int → Text.Encoding → Act α)
    (values : List Json)
    (number : Int)
    (encoding : Text.Encoding) : Act α := do
  passOn hand (← ofExcept .rejected (readEdits values)) number encoding

/-- Hand over the batches of several documents, one after the other, each for the buffer that is
looked up for it. -/
def passAll
    (lookup : String → Act Int)
    (hand : List TextEdit → Int → Text.Encoding → Act Unit)
    (encoding : Text.Encoding) : List Batch → Act Unit
  | [] => pure ()
  | (uri, edits) :: rest => do
    let number ← lookup uri
    passOn hand edits number encoding
    passAll lookup hand encoding rest

/-- Hand over batches as they are, one after the other, each for the buffer that is looked up for
it. -/
def handAll
    (lookup : String → Act Int)
    (hand : List TextEdit → Int → Text.Encoding → Act Unit)
    (encoding : Text.Encoding) : List Batch → Act Unit
  | [] => pure ()
  | (uri, edits) :: rest => do
    let number ← lookup uri
    hand edits number encoding
    handAll lookup hand encoding rest

/-- Hand over the batches of a workspace edit, unless part of it is about files as a whole. -/
def passWorkspaceEdit
    (lookup : String → Act Int)
    (hand : List TextEdit → Int → Text.Encoding → Act Unit)
    (edit : WorkspaceEdit)
    (encoding : Text.Encoding) : Act Unit := do
  passAll lookup hand encoding (← ofExcept .unsupported edit.batches)

/-- Edits are applied to a buffer by handing them over to the host. -/
theorem applyBatch_eq_passOn : applyBatch = passOn applyToBuffer :=
  rfl

theorem applyBatches_eq_passAll
    (encoding : Text.Encoding)
    (batches : List Batch) :
    applyBatches encoding batches = passAll bufferForUri applyToBuffer encoding batches := by
  induction batches with
  | nil =>
      rfl
  | cons batch rest inductionHypothesis =>
      rw [applyBatches, passAll, applyBatch_eq_passOn, inductionHypothesis]

theorem applyWorkspaceEdit_eq_passWorkspaceEdit :
    applyWorkspaceEdit = passWorkspaceEdit bufferForUri applyToBuffer := by
  funext edit encoding
  unfold applyWorkspaceEdit passWorkspaceEdit
  simp only [applyBatches_eq_passAll]

section

variable {desk : Desk} {edits : List TextEdit}
  (hand : List TextEdit → Int → Text.Encoding → Act α) (number : Int) (encoding : Text.Encoding)

/-- What a batch has become behind the last transform is handed over, and nothing else is done. -/
theorem perform_passOn_of_run
    {final : List TextEdit}
    (runs : desk.transforms.run? edits = some final) :
    perform (passOn hand edits number encoding) desk =
      perform (hand final number encoding) desk := by
  unfold passOn
  rw [perform_get_bind, runs]

/-- A batch for which a transform gives nothing is not handed over. -/
theorem perform_passOn_of_none
    (stops : desk.transforms.run? edits = none) :
    perform (passOn hand edits number encoding) desk = (.error .tooDeep, desk) := by
  unfold passOn
  rw [perform_get_bind, stops]
  rfl

/-- A batch goes through all transforms and is handed over once, or it is not handed over. -/
theorem perform_passOn_cases
    (edits : List TextEdit)
    (desk : Desk) :
    (∃ given final, desk.transforms.Passes edits given final ∧
      perform (passOn hand edits number encoding) desk =
        perform (hand final number encoding) desk) ∨
    (desk.transforms.Blocks edits ∧
      perform (passOn hand edits number encoding) desk = (.error .tooDeep, desk)) := by
  rcases desk.transforms.passes_or_blocks edits with ⟨given, final, passes⟩ | blocks
  · have runs := TransformChain.run?_eq_some_iff.mpr ⟨given, passes⟩
    exact .inl ⟨given, final, passes, perform_passOn_of_run hand number encoding runs⟩
  · have stops := TransformChain.run?_eq_none_iff.mpr blocks
    exact .inr ⟨blocks, perform_passOn_of_none hand number encoding stops⟩

theorem perform_passWritten
    {values : List Json}
    (reads : readEdits values = .ok edits) :
    perform (passWritten hand values number encoding) desk =
      perform (passOn hand edits number encoding) desk := by
  unfold passWritten
  rw [reads]
  rfl

end

/-! ## Batches of several documents -/

section

variable {lookup : String → Act Int} {hand : List TextEdit → Int → Text.Encoding → Act Unit}
  {chain : TransformChain} {desk : Desk}

/-- What comes behind an act that installs no transform finds the transforms as they were. -/
theorem perform_bind_congr
    {β γ : Type}
    {act : Act β}
    {first second : β → Act γ}
    (keeps : KeepsTo Desk.SameTransforms act)
    (same : ∀ value mid, mid.transforms = desk.transforms →
      perform (first value) mid = perform (second value) mid) :
    perform (act >>= first) desk = perform (act >>= second) desk := by
  have kept := keeps desk
  unfold Desk.SameTransforms after at kept
  rw [perform_bind, perform_bind]
  revert kept
  rcases perform act desk with ⟨_ | value, mid⟩
  · exact fun _ => rfl
  · exact fun kept => same value mid kept

section

variable (looks : ∀ uri, KeepsTo Desk.SameTransforms (lookup uri))
  (hands : ∀ edits number encoding, KeepsTo Desk.SameTransforms (hand edits number encoding))

include looks hands

theorem keepsTo_handAll
    (encoding : Text.Encoding)
    (batches : List Batch) :
    KeepsTo Desk.SameTransforms (handAll lookup hand encoding batches) := by
  induction batches with
  | nil =>
      exact keepsTo_pure Desk.isWay_sameTransforms ()
  | cons batch rest inductionHypothesis =>
      exact (looks batch.1).bind Desk.isWay_sameTransforms fun _ =>
        (hands _ _ _).bind Desk.isWay_sameTransforms fun _ => inductionHypothesis

/-- Batches that go through the chain are handed over as they are behind it. -/
theorem perform_passAll_append
    {done finals : List Batch}
    (passes : chain.PassesAll done finals)
    (installed : desk.transforms = chain)
    (encoding : Text.Encoding)
    (rest : List Batch) :
    perform (passAll lookup hand encoding (done ++ rest)) desk =
      perform (handAll lookup hand encoding finals >>= fun _ =>
        passAll lookup hand encoding rest) desk := by
  induction passes generalizing desk with
  | nil =>
      rfl
  | @cons batch final _ _ first _ inductionHypothesis =>
      obtain ⟨_, edits⟩ := batch
      obtain ⟨uri, changed⟩ := final
      obtain ⟨rfl, given, passed⟩ := first
      simp only [List.cons_append, passAll, handAll, bind_assoc]
      refine perform_bind_congr (looks uri) fun number mid looked => ?_
      have runs : mid.transforms.run? edits = some changed := by
        rw [looked, installed]
        exact TransformChain.run?_eq_some_iff.mpr ⟨given, passed⟩
      rw [perform_bind, perform_passOn_of_run hand number encoding runs, ← perform_bind]
      refine perform_bind_congr (hands changed number encoding) fun _ left handed => ?_
      exact inductionHypothesis (handed.trans (looked.trans installed))

/-- All batches are handed over as they are behind the chain, or those before the first one that
does not get through it: nothing is handed over for that one. -/
theorem perform_passAll_cases
    (encoding : Text.Encoding)
    (batches : List Batch)
    (desk : Desk) :
    (∃ finals, desk.transforms.PassesAll batches finals ∧
      perform (passAll lookup hand encoding batches) desk =
        perform (handAll lookup hand encoding finals) desk) ∨
    ∃ done batch rest finals, batches = done ++ batch :: rest ∧
      desk.transforms.PassesAll done finals ∧ desk.transforms.Blocks batch.2 ∧
      perform (passAll lookup hand encoding batches) desk =
        perform (handAll lookup hand encoding finals >>= fun _ =>
          lookup batch.1 >>= fun _ => throw .tooDeep) desk := by
  rcases desk.transforms.passesAll_or_blocks batches with
    ⟨finals, passes⟩ | ⟨done, batch, rest, finals, rfl, passes, blocks⟩
  · refine .inl ⟨finals, passes, ?_⟩
    have handed := perform_passAll_append looks hands passes rfl encoding []
    rwa [List.append_nil, passAll, bind_pure_unit] at handed
  · refine .inr ⟨done, batch, rest, finals, rfl, passes, blocks, ?_⟩
    rw [perform_passAll_append looks hands passes rfl]
    refine perform_bind_congr (keepsTo_handAll looks hands encoding finals) fun _ mid handed => ?_
    refine perform_bind_congr (looks batch.1) fun number left looked => ?_
    have stops : left.transforms.run? batch.2 = none := by
      rw [looked, handed]
      exact TransformChain.run?_eq_none_iff.mpr blocks
    rw [perform_bind, perform_passOn_of_none hand number encoding stops]
    rfl

end

end

end Act

end AnalyzerSessions
