import AnalyzerSessions.Proofs.InstalledTransforms
import AnalyzerSessions.Proofs.ManagerRuns

namespace AnalyzerSessions

/-!
# Runs of the edit pipeline

All sessions of a manager share one pipeline.  Anybody may install transforms, and the
reports that servers are initialized and have exited install the translation of snippets each
time.  Nothing else changes the pipeline, and no session runs before the translation has been
installed.
-/

/-! ## Sessions that have run -/

/-- A session runs or has run. -/
def Session.HasRun (session : Session) : Prop :=
  session.state = .running ∨ .running ∈ session.trail

namespace Desk

instance (session : Session) : Decidable session.HasRun :=
  inferInstanceAs (Decidable (_ ∨ _))

/-- No session runs or has run. -/
def NoneHasRun (desk : Desk) : Prop :=
  ∀ session ∈ desk.registry.sessions, ¬session.HasRun

/-- When no session had run before, none has run afterwards. -/
def StartsNone (before after : Desk) : Prop :=
  before.NoneHasRun → after.NoneHasRun

theorem isWay_startsNone : IsWay StartsNone where
  refl _ := id
  trans first second := second ∘ first

/-- Desks of which the ledgers tell of the same sessions differ in none that has run. -/
theorem startsNone_of_entries
    {before after : Desk}
    (same : after.ledger.entries = before.ledger.entries) :
    before.StartsNone after := by
  intro none session member hasRun
  have entered : session.entry ∈ before.ledger.entries := same ▸ List.mem_map_of_mem member
  obtain ⟨old, wasThere, isEntry⟩ := List.mem_map.mp entered
  have sameState : old.state = session.state := congrArg LedgerEntry.state isEntry
  have sameTrail : old.trail = session.trail := congrArg LedgerEntry.trail isEntry
  refine none old wasThere ?_
  rw [Session.HasRun, sameState, sameTrail]
  exact hasRun

theorem startsNone_modify
    {change : Session → Session}
    (lets : ∀ session : Session, (change session).HasRun → session.HasRun)
    (desk : Desk)
    (id : Nat) :
    desk.StartsNone { desk with registry := desk.registry.modify id change } := by
  intro none session member hasRun
  obtain ⟨old, wasThere, rfl⟩ := List.mem_map.mp member
  split at hasRun
  · exact none old wasThere (lets old hasRun)
  · exact none old wasThere hasRun

theorem allowsStarts_startsNone : AllowsStarts StartsNone where
  toIsWay := isWay_startsNone
  spares same := startsNone_of_entries (congrArg (List.map Session.entry) same.sessions)
  attach desk id number := by
    refine startsNone_modify (fun session hasRun => ?_) desk id
    unfold Session.attach at hasRun
    split at hasRun <;> exact hasRun
  enter desk id state early := by
    have notRunning : state ≠ .running := by
      rcases early with rfl | rfl <;> nofun
    refine startsNone_modify (fun session hasRun => ?_) desk id
    rcases hasRun with runs | ran
    · exact (notRunning runs).elim
    · rcases List.mem_append.mp ran with before | last
      · exact .inr before
      · exact (notRunning (List.mem_singleton.mp last).symm).elim
  add desk session unstarted untried none other member hasRun := by
    rcases List.mem_append.mp member with old | new
    · exact none other old hasRun
    · rw [List.mem_singleton.mp new, Session.HasRun, unstarted, untried] at hasRun
      simp at hasRun

end Desk

/-! ## Runs -/

/-- What happens around a manager neither installs a transform nor takes one away. -/
structure Surroundings.SpareTransforms (around : Surroundings) : Prop where
  resolve : ∀ path, Act.LeavesTransforms (around.resolve path)
  outside : ∀ before after, around.outside before after → before.SameTransforms after

/-- The transforms that a call asks for: a report that comes at the right time asks for the
translation of snippets. -/
def Call.installs (desk : Desk) : Call → List Transform
  | .initialized id =>
    if (desk.registry.get? id).any fun session => session.state = .starting
    then [plainSnippets] else []
  | .exited id _ =>
    if (desk.registry.get? id).any fun session => session.state ≠ .stopped
    then [plainSnippets] else []
  | _ => []

/-- The desks that a manager may come to with the transforms that are asked for, by anybody and by
the calls, in this order. -/
inductive PipelineRun (around : Surroundings) : List Transform → Desk → Prop where
  | begin {desk : Desk}
      (new : desk.IsNew)
      (bare : desk.transforms = []) :
      PipelineRun around [] desk
  /-- Anybody installs a transform; one that goes by the name of the translation is it. -/
  | install {asked : List Transform} {desk : Desk}
      (earlier : PipelineRun around asked desk)
      (transform : Transform)
      (genuine : transform.name = plainSnippets.name → transform = plainSnippets) :
      PipelineRun around (asked ++ [transform])
        (Act.after (Act.installTransform transform) desk)
  | call {asked : List Transform} {desk : Desk}
      (earlier : PipelineRun around asked desk)
      (call : Call) :
      PipelineRun around (asked ++ call.installs desk) (call.after around desk)
  | outside {asked : List Transform} {desk other : Desk}
      (earlier : PipelineRun around asked desk)
      (happened : around.outside desk other) :
      PipelineRun around asked other

/-- What a call does to the pipeline, with the transforms that it asks for: it installs the
translation, or it installs nothing and lets no session run. -/
inductive Desk.Pipes (before after : Desk) (installs : List Transform) : Prop where
  | translation
      (asks : installs = [plainSnippets])
      (installed : after.transforms = (before.transforms.install plainSnippets).2)
  | nothing
      (asks : installs = [])
      (same : before.SameTransforms after)
      (startsNone : before.StartsNone after)

theorem Desk.pipes_self (desk : Desk) : desk.Pipes desk [] :=
  .nothing rfl rfl id

namespace Act

theorem transforms_welcome
    (session : Session)
    (desk : Desk) :
    (after (welcome session) desk).transforms = (desk.transforms.install plainSnippets).2 :=
  transforms_install_bind plainSnippets
    (fun _ => (leavesTransforms_equip _).bind fun _ => (leavesTransforms_offerReload _).bind fun _ =>
      leavesTransforms_beginRunning session) desk

theorem transforms_farewell
    (session : Session)
    (code : Json)
    (desk : Desk) :
    (after (farewell session code) desk).transforms = (desk.transforms.install plainSnippets).2 :=
  transforms_install_bind plainSnippets
    (fun _ => (leavesTransforms_removeCommands session).bind fun _ =>
      (leavesTransforms_removeGroup session).bind fun _ =>
        (leavesTransforms_conclude session code).bind fun _ =>
          (leavesTransforms_say _ _).bind fun _ => leavesTransforms_tellAll _ _ _) desk

theorem pipes_onInit
    (id : Nat)
    (desk : Desk) :
    desk.Pipes (after (onInit id) desk) ((Call.initialized id).installs desk) := by
  unfold onInit
  rw [after_get_bind, Call.installs]
  cases desk.registry.get? id with
  | none =>
      exact desk.pipes_self
  | some session =>
      by_cases starting : session.state = .starting
      · simp only [starting, Option.any_some, decide_true, ↓reduceIte]
        exact .translation rfl (transforms_welcome session desk)
      · simp only [starting, Option.any_some, decide_false, Bool.false_eq_true, ↓reduceIte]
        exact .nothing rfl rfl (Desk.startsNone_of_entries rfl)

theorem pipes_onExit
    (id : Nat)
    (code : Json)
    (desk : Desk) :
    desk.Pipes (after (onExit id code) desk) ((Call.exited id code).installs desk) := by
  unfold onExit
  rw [after_get_bind, Call.installs]
  cases desk.registry.get? id with
  | none =>
      exact desk.pipes_self
  | some session =>
      by_cases stopped : session.state = .stopped
      · simp only [stopped, Option.any_some, ne_eq, not_true_eq_false, decide_false,
          Bool.false_eq_true, ↓reduceIte]
        exact desk.pipes_self
      · simp only [stopped, Option.any_some, ne_eq, not_false_eq_true, decide_true, ↓reduceIte]
        exact .translation rfl (transforms_farewell session code desk)

end Act

variable {around : Surroundings}

/-- What each call does to the pipeline. -/
theorem Call.pipes
    (spare : around.SpareTransforms)
    (call : Call)
    (desk : Desk) :
    desk.Pipes (call.after around desk) (call.installs desk) := by
  cases call with
  | start overrides buffer =>
      have quiet : ∀ path, Act.KeepsTo Desk.StartsNone (around.resolve path) := fun path desk =>
        Desk.startsNone_of_entries (congrArg Ledger.entries (around.quiet path desk))
      exact .nothing rfl
        (Act.keepsTo_startWith Desk.allowsStarts_sameTransforms spare.resolve overrides buffer desk)
        (Act.keepsTo_startWith Desk.allowsStarts_startsNone quiet overrides buffer desk)
  | stop buffer =>
      exact .nothing rfl (Act.keepsTo_stop Desk.allowsStarts_sameTransforms buffer desk)
        (Act.keepsTo_stop Desk.allowsStarts_startsNone buffer desk)
  | initialized id =>
      exact Act.pipes_onInit id desk
  | exited id code =>
      exact Act.pipes_onExit id code desk

namespace PipelineRun

variable {asked : List Transform} {desk : Desk}

theorem transforms_eq
    (spare : around.SpareTransforms)
    (run : PipelineRun around asked desk) :
    desk.transforms = TransformChain.firsts asked := by
  induction run with
  | begin _ bare =>
      exact bare
  | @install asked desk _ transform _ inductionHypothesis =>
      obtain ⟨_, installed, _⟩ := Act.perform_installTransform transform desk
      rw [installed, inductionHypothesis, TransformChain.install_firsts]
  | @call asked desk _ call inductionHypothesis =>
      cases call.pipes spare desk with
      | translation asks installed =>
          rw [installed, inductionHypothesis, TransformChain.install_firsts, asks]
      | nothing asks same _ =>
          rw [asks, List.append_nil]
          exact same.trans inductionHypothesis
  | outside _ happened inductionHypothesis =>
      exact (spare.outside _ _ happened).trans inductionHypothesis

/-- Whatever goes by the name of the translation is it. -/
theorem genuine
    (spare : around.SpareTransforms)
    (run : PipelineRun around asked desk) :
    ∀ transform ∈ asked, transform.name = plainSnippets.name → transform = plainSnippets := by
  induction run with
  | begin _ _ =>
      exact nofun
  | install _ last isGenuine inductionHypothesis =>
      intro transform member
      rcases List.mem_append.mp member with old | new
      · exact inductionHypothesis transform old
      · rw [List.mem_singleton.mp new]
        exact isGenuine
  | @call asked desk _ call inductionHypothesis =>
      intro transform member named
      rcases List.mem_append.mp member with old | new
      · exact inductionHypothesis transform old named
      · cases call.pipes spare desk with
        | translation asks _ =>
            rw [asks] at new
            exact List.mem_singleton.mp new
        | nothing asks _ _ =>
            rw [asks] at new
            cases new
  | outside _ _ inductionHypothesis =>
      exact inductionHypothesis

/-- The translation has been asked for before a session runs. -/
theorem noneHasRun_or_asked
    (spare : around.SpareTransforms)
    (run : PipelineRun around asked desk) :
    desk.NoneHasRun ∨ plainSnippets ∈ asked := by
  induction run with
  | begin new _ =>
      refine .inl fun session member => ?_
      rw [new.vacant] at member
      cases member
  | @install asked desk _ transform _ inductionHypothesis =>
      obtain ⟨_, _, sameRegistry⟩ := Act.perform_installTransform transform desk
      refine inductionHypothesis.imp (fun none => ?_) fun isAsked => List.mem_append_left _ isAsked
      unfold Desk.NoneHasRun
      rw [sameRegistry]
      exact none
  | @call asked desk _ call inductionHypothesis =>
      -- Only a report that a server is initialized lets a session run, and it asks first.
      cases call.pipes spare desk with
      | translation asks _ =>
          rw [asks]
          exact .inr (List.mem_append_right _ (List.mem_singleton.mpr rfl))
      | nothing _ _ startsNone =>
          exact inductionHypothesis.imp startsNone fun isAsked => List.mem_append_left _ isAsked
  | @outside _ desk other _ happened inductionHypothesis =>
      have sameEntries : other.ledger.entries = desk.ledger.entries := by
        rw [(around.apart _ _ happened).same]
      exact inductionHypothesis.imp_left (Desk.startsNone_of_entries sameEntries)

/-- A session that runs or has run finds the translation installed. -/
theorem translation_installed
    (spare : around.SpareTransforms)
    (run : PipelineRun around asked desk)
    {session : Session}
    (known : session ∈ desk.registry.sessions)
    (hasRun : session.HasRun) :
    plainSnippets ∈ TransformChain.firsts asked := by
  have isAsked : plainSnippets ∈ asked :=
    (run.noneHasRun_or_asked spare).resolve_left fun none => none session known hasRun
  have contains : (TransformChain.firsts asked).contains plainSnippets = true := by
    rw [TransformChain.contains_firsts]
    exact List.any_eq_true.mpr ⟨plainSnippets, isAsked, beq_iff_eq.mpr rfl⟩
  obtain ⟨transform, member, named⟩ := List.any_eq_true.mp contains
  have isTranslation := run.genuine spare transform (TransformChain.mem_of_mem_firsts member)
    (beq_iff_eq.mp named)
  rwa [isTranslation] at member

end PipelineRun

/-- What the pipeline of a desk does after transforms were asked for. -/
structure Desk.RunsPipeline (asked : List Transform) (desk : Desk) : Prop where
  /-- The transforms are those that were asked for, in the order of their first installation. -/
  transforms : desk.transforms = TransformChain.firsts asked
  distinct : (desk.transforms.map Transform.name).Nodup
  /-- An installation gives whether it is the first one. -/
  installs : ∀ transform, (Act.perform (Act.installTransform transform) desk).1 =
    .ok (!asked.any fun earlier => earlier.name == transform.name)
  /-- A batch is read before it is handed over. -/
  reads : ∀ {α : Type} (hand : List TextEdit → Int → Text.Encoding → Act α) values edits number
    encoding, readEdits values = .ok edits →
      Act.perform (Act.passWritten hand values number encoding) desk =
        Act.perform (Act.passOn hand edits number encoding) desk
  /-- A batch goes through all transforms and is then handed over once, whatever takes it, or a
  transform gives nothing for it and it is not handed over. -/
  applies : ∀ {α : Type} (hand : List TextEdit → Int → Text.Encoding → Act α) edits number encoding,
    (∃ given final, desk.transforms.Passes edits given final ∧
      Act.perform (Act.passOn hand edits number encoding) desk =
        Act.perform (hand final number encoding) desk) ∨
    (desk.transforms.Blocks edits ∧
      Act.perform (Act.passOn hand edits number encoding) desk = (.error .tooDeep, desk))
  /-- So do the batches of a server's request, up to the first one that does not get through. -/
  answers : ∀ (session : Session) (params : Json) request batches,
    Schema.check "ApplyWorkspaceEditParams" ApplyRequest.read (Act.presentParams params) =
      .ok request →
    request.edit.batches = .ok batches →
    (∃ finals, desk.transforms.PassesAll batches finals ∧
      Act.perform (Act.applyRequest session params) desk =
        Act.perform (Act.handAll Act.bufferForUri Act.applyToBuffer session.encoding finals) desk) ∨
    ∃ done batch rest finals, batches = done ++ batch :: rest ∧
      desk.transforms.PassesAll done finals ∧ desk.transforms.Blocks batch.2 ∧
      Act.perform (Act.applyRequest session params) desk =
        Act.perform (Act.handAll Act.bufferForUri Act.applyToBuffer session.encoding finals >>=
          fun _ => Act.bufferForUri batch.1 >>= fun _ => throw .tooDeep) desk
  /-- Snippets are translated once as soon as a session runs. -/
  translates : (∃ session ∈ desk.registry.sessions, session.HasRun) →
    desk.transforms.TranslatesOnce

section

variable {asked : List Transform} {desk : Desk}

/-- In every run the pipeline holds the transforms that were asked for, each once and in the order
in which they were first asked for, every batch goes through all of them before it is handed over,
and snippets are translated once as soon as a session runs. -/
theorem PipelineRun.runsPipeline
    (spare : around.SpareTransforms)
    (run : PipelineRun around asked desk) :
    desk.RunsPipeline asked where
  transforms := run.transforms_eq spare
  distinct := by
    rw [run.transforms_eq spare]
    exact TransformChain.nodup_firsts asked
  installs transform := by
    rw [(Act.perform_installTransform transform desk).1, run.transforms_eq spare,
      TransformChain.install_firsts]
  reads hand values edits number encoding isRead :=
    Act.perform_passWritten hand number encoding isRead
  applies hand edits number encoding := Act.perform_passOn_cases hand number encoding edits desk
  answers session params request batches valid lists := by
    rw [Act.perform_applyRequest_batches valid lists, Act.applyBatches_eq_passAll]
    exact Act.perform_passAll_cases Act.leavesTransforms_bufferForUri
      Act.leavesTransforms_applyToBuffer session.encoding batches desk
  translates := by
    rintro ⟨session, known, hasRun⟩
    have installed := run.translation_installed spare known hasRun
    rw [run.transforms_eq spare]
    exact TransformChain.translatesOnce_of_mem (TransformChain.nodup_firsts asked) installed

/-! ## A run -/

/-- Finding roots by itself, a manager leaves the transforms alone. -/
theorem Surroundings.spareTransforms_alone : Surroundings.alone.SpareTransforms where
  resolve := Act.keepsTo_resolveRoot Desk.allowsStarts_sameTransforms
  outside := by
    rintro before after rfl
    exact Desk.isWay_sameTransforms.refl _

/-- A transform that turns a batch around. -/
def backwards : Transform :=
  ⟨"backwards", fun edits => some edits.reverse⟩

/-- A session runs and leaves after another transform was installed, and then the translation is
installed once more. -/
theorem PipelineRun.reversing :
    let calls : List Call := [.start [] none, .initialized 1, .exited 1 (.int 0)]
    let begun := Act.after (Act.installTransform backwards) .bare
    let desk := Act.after (Act.installTransform plainSnippets) (Call.afterAll .alone begun calls)
    let asked := [backwards, plainSnippets, plainSnippets, plainSnippets]
    Surroundings.alone.SpareTransforms ∧ PipelineRun .alone asked desk ∧
      (∃ session ∈ desk.registry.sessions, session.HasRun) ∧
      desk.transforms.map Transform.name = [backwards.name, plainSnippets.name] ∧
      desk.RunsPipeline asked := by
  intro calls begun desk asked
  have first : PipelineRun .alone [backwards] begun :=
    .install (.begin ⟨rfl, rfl⟩ rfl) backwards (fun same => absurd same (by decide))
  have started := first.call (.start [] none)
  have isStarting : (((Call.start [] none).after .alone begun).registry.get? 1).any
      (fun session => session.state = .starting) = true := by
    decide +kernel
  have initialized := started.call (.initialized 1)
  rw [Call.installs, if_pos isStarting] at initialized
  have isThere : (((Call.initialized 1).after .alone
      ((Call.start [] none).after .alone begun)).registry.get? 1).any
        (fun session => session.state ≠ .stopped) = true := by
    decide +kernel
  have exited := initialized.call (.exited 1 (.int 0))
  rw [Call.installs, if_pos isThere] at exited
  have run : PipelineRun .alone asked desk := exited.install plainSnippets fun _ => rfl
  have spare := Surroundings.spareTransforms_alone
  exact ⟨spare, run, by decide +kernel, by decide +kernel, run.runsPipeline spare⟩

/-- Not every batch is handed over: the translation may be given a snippet that is nested too
deeply. -/
theorem deep_batch_is_not_handed_over :
    ¬∀ asked desk, PipelineRun .alone asked desk →
      ∀ (hand : List TextEdit → Int → Text.Encoding → Act Unit) edits number encoding,
        ∃ final, Act.perform (Act.passOn hand edits number encoding) desk =
          Act.perform (hand final number encoding) desk := by
  intro hands
  have run : PipelineRun .alone [plainSnippets]
      (Act.after (Act.installTransform plainSnippets) .bare) :=
    .install (.begin ⟨rfl, rfl⟩ rfl) plainSnippets fun _ => rfl
  have installed : (Act.after (Act.installTransform plainSnippets) .bare).transforms =
      [plainSnippets] := rfl
  have isDeep := Act.isTooDeep_insertion (Snippet.nestedTree_wellNamed 1500)
  rw [Snippet.nestingAll_nestedTree] at isDeep
  have stops : TransformChain.run? [plainSnippets] Act.deepBatch.2 = none := by
    simp [TransformChain.run?, plainSnippets, stripSnippets?, Act.deepBatch, isDeep,
      Snippet.maxNesting]
  obtain ⟨final, handed⟩ := hands _ _ run (fun _ _ _ => pure ()) Act.deepBatch.2 1 .utf16
  rw [← installed] at stops
  rw [Act.perform_passOn_of_none _ _ _ stops] at handed
  cases handed

end

end AnalyzerSessions
