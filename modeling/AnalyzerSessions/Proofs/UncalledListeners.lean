import AnalyzerSessions.Proofs.LedgerActs

namespace AnalyzerSessions

/-!
# Acts that call no one

Starting and stopping sessions calls no supplied code, nor does anything that a
report of the transport does before it comes to the listeners.
-/

/-!
## Rounds of listeners

The listeners of a session are called one after the other.  A call leaves nothing
at the desk but an event in the history, and a listener that raises nothing but a
line in the log.  So every listener of a round finds the sessions and the host as
the round began, whichever of the others raise.
-/

/-- The calls of supplied code with their arguments, oldest first. -/
def Desk.calls (desk : Desk) : List (String × List Json) :=
  desk.history.filterMap fun
    | .called name arguments => some (name, arguments)
    | _ => none

/-- What the listeners of a session are told at a desk: the number and the state of the session,
and whether commands are there. -/
def Desk.view (desk : Desk) (id : Nat) : List Json :=
  [.nat id, .str (((desk.registry.get? id).map fun session => session.state.name).getD ""),
    .bool (desk.host.hasCommand "RustRunnables")]

/-- Desks that differ at most in what was observed and logged. -/
def Desk.SameButRecords (desk later : Desk) : Prop :=
  later = { desk with history := later.history, log := later.log }

theorem Desk.SameButRecords.trans
    {first second third : Desk}
    (early : first.SameButRecords second)
    (late : second.SameButRecords third) :
    first.SameButRecords third := by
  unfold SameButRecords at early late ⊢
  rw [late, early]

/-- What listeners are told does not depend on records. -/
theorem Desk.SameButRecords.view_eq
    {desk later : Desk}
    (same : desk.SameButRecords later)
    (id : Nat) :
    later.view id = desk.view id := by
  rw [same]
  rfl

/-- The name of a listener that can be called. -/
def Listener.name? : Listener → Option String
  | .supplied name _ => some name
  | .value _ => none

/-- The calls of listeners in order, whether they raise or not. -/
def callsOf (listeners : List Listener) (arguments : List Json) : List (String × List Json) :=
  (listeners.filterMap Listener.name?).map fun name => (name, arguments)

/-- The calls of the first listeners come before those of the others. -/
theorem callsOf_cons
    (listener : Listener)
    (rest : List Listener)
    (arguments : List Json) :
    callsOf (listener :: rest) arguments = callsOf [listener] arguments ++ callsOf rest arguments := by
  rw [callsOf, callsOf, callsOf, ← List.map_append, ← List.filterMap_append, List.singleton_append]

namespace Act

/-- One listener is called. -/
theorem perform_tell
    (listener : Listener)
    (arguments : List Json)
    (desk : Desk) :
    (perform (tell listener arguments) desk).1 = .ok () ∧
      desk.SameButRecords (after (tell listener arguments) desk) ∧
      (after (tell listener arguments) desk).calls =
        desk.calls ++ callsOf [listener] arguments := by
  cases listener with
  | value value =>
      exact ⟨rfl, rfl, (List.append_nil _).symm⟩
  | supplied name failure =>
      cases failure with
      | none =>
          exact ⟨rfl, rfl, List.filterMap_append⟩
      | some text =>
          exact ⟨rfl, rfl, List.filterMap_append⟩

/-- A round of listeners begins with the first one. -/
theorem perform_tellAll_cons
    (id : Nat)
    (more : List Json)
    (listener : Listener)
    (rest : List Listener)
    (desk : Desk) :
    perform (tellAll id more (listener :: rest)) desk =
      perform (tell listener (desk.view id ++ more) >>= fun _ => tellAll id more rest) desk :=
  rfl

variable (id : Nat) (more : List Json)

/-- A round calls its listeners in order and changes nothing but records. -/
theorem perform_tellAll
    (listeners : List Listener)
    (desk : Desk) :
    (perform (tellAll id more listeners) desk).1 = .ok () ∧
      desk.SameButRecords (after (tellAll id more listeners) desk) ∧
      (after (tellAll id more listeners) desk).calls =
        desk.calls ++ callsOf listeners (desk.view id ++ more) := by
  induction listeners generalizing desk with
  | nil =>
      exact ⟨rfl, rfl, (List.append_nil _).symm⟩
  | cons listener rest inductionHypothesis =>
      obtain ⟨told, same, called⟩ := perform_tell listener (desk.view id ++ more) desk
      obtain ⟨restTold, restSame, restCalled⟩ :=
        inductionHypothesis (after (tell listener (desk.view id ++ more)) desk)
      have round := perform_tellAll_cons id more listener rest desk
      rw [perform_bind_of_ok told] at round
      unfold after at round restSame restCalled ⊢
      rw [round]
      refine ⟨restTold, same.trans restSame, ?_⟩
      rw [restCalled, callsOf_cons, ← List.append_assoc]
      have sameView : (perform (tell listener (desk.view id ++ more)) desk).2.view id =
          desk.view id :=
        same.view_eq id
      rw [sameView]
      exact congrArg (· ++ _) called

/-- A round goes on with the others when the first ones have been called. -/
theorem perform_tellAll_append
    (done rest : List Listener)
    (desk : Desk) :
    perform (tellAll id more (done ++ rest)) desk =
      perform (tellAll id more rest) (after (tellAll id more done) desk) := by
  induction done generalizing desk with
  | nil =>
      rfl
  | cons listener others inductionHypothesis =>
      obtain ⟨told, _, _⟩ := perform_tell listener (desk.view id ++ more) desk
      have round := perform_tellAll_cons id more listener others desk
      rw [perform_bind_of_ok told] at round
      unfold after at round inductionHypothesis ⊢
      rw [List.cons_append, perform_tellAll_cons, perform_bind_of_ok told, round]
      exact inductionHypothesis _

/-- From a moment on, an act calls the listeners of a session one after the other, and does nothing
else. -/
structure CallsAll
    (act : Act Unit)
    (desk : Desk)
    (listeners : List Listener)
    (moment : Desk) : Prop where
  /-- The act comes to the moment without a call. -/
  unheard : moment.calls = desk.calls
  /-- Every listener is called after those before it and before those behind it, at an instant when
  all but the records is as it was at the moment. -/
  each : ∀ done listener rest, listeners = done ++ listener :: rest →
    ∃ instant, moment.SameButRecords instant ∧
      instant.calls = moment.calls ++ callsOf done (moment.view id ++ more) ∧
      perform act desk =
        perform (tell listener (moment.view id ++ more) >>= fun _ => tellAll id more rest) instant
  /-- The act does not fail. -/
  succeeds : (perform act desk).1 = .ok ()
  /-- In the end all but the records is as it was at the moment. -/
  same : moment.SameButRecords (after act desk)
  /-- Every listener has been called once, in order. -/
  called : (after act desk).calls = moment.calls ++ callsOf listeners (moment.view id ++ more)
  /-- If others of the listeners had raised, the same calls would have been made, and the sessions
  would be the same. -/
  regardless : ∀ others : List Listener, others.map Listener.name? = listeners.map Listener.name? →
    (after (tellAll id more others) moment).calls = (after act desk).calls ∧
      (after (tellAll id more others) moment).registry = (after act desk).registry

/-- An act that ends with a round of listeners calls them. -/
theorem callsAll_of_perform_eq
    {act : Act Unit}
    {desk moment : Desk}
    {listeners : List Listener}
    (unheard : moment.calls = desk.calls)
    (ends : perform act desk = perform (tellAll id more listeners) moment) :
    CallsAll id more act desk listeners moment := by
  obtain ⟨told, same, called⟩ := perform_tellAll id more listeners moment
  have sameAfter : after act desk = after (tellAll id more listeners) moment :=
    congrArg Prod.snd ends
  refine ⟨unheard, ?_, ends ▸ told, sameAfter ▸ same, sameAfter ▸ called, ?_⟩
  · rintro done listener rest rfl
    obtain ⟨_, sameDone, calledDone⟩ := perform_tellAll id more done moment
    refine ⟨_, sameDone, calledDone, ?_⟩
    rw [ends, perform_tellAll_append, perform_tellAll_cons, sameDone.view_eq]
  · intro others sameNames
    obtain ⟨_, othersSame, othersCalled⟩ := perform_tellAll id more others moment
    have sameCalls : callsOf others (moment.view id ++ more) =
        callsOf listeners (moment.view id ++ more) := by
      have sameFiltered := congrArg (List.filterMap fun name => name) sameNames
      simp only [List.filterMap_map, Function.comp_def] at sameFiltered
      rw [callsOf, callsOf, sameFiltered]
    rw [sameAfter, othersCalled, called, sameCalls]
    exact ⟨rfl, (congrArg Desk.registry othersSame).trans (congrArg Desk.registry same).symm⟩

/-- An act that ends with a line of the log and a round of listeners calls them. -/
theorem callsAll_of_say
    {act : Act Unit}
    {desk ready : Desk}
    {listeners : List Listener}
    {level : Level}
    {text : String}
    (unheard : ready.calls = desk.calls)
    (ends : perform act desk =
      perform (say level text >>= fun _ => tellAll id more listeners) ready) :
    CallsAll id more act desk listeners (after (say level text) ready) :=
  callsAll_of_perform_eq id more unheard ends

end Act

/-! ## Acts that call no one -/

namespace Act

variable {α β : Type}

/-- An act calls no supplied code. -/
def CallsNone (act : Act α) : Prop :=
  ∀ desk, (after act desk).calls = desk.calls

theorem isWay_sameCalls :
    Desk.IsWay fun before after => after.calls = before.calls where
  refl _ := rfl
  trans first second := second.trans first

theorem Reads.callsNone
    {act : Act α}
    (reads : Reads act) :
    CallsNone act :=
  fun desk => congrArg Desk.calls (reads desk)

theorem callsNone_pure (value : α) : CallsNone (pure value) :=
  fun _ => rfl

theorem callsNone_get : CallsNone get :=
  fun _ => rfl

theorem callsNone_throw (failure : Failure) : CallsNone (throw failure : Act α) :=
  fun _ => rfl

theorem callsNone_modify
    {change : Desk → Desk}
    (same : ∀ desk, (change desk).calls = desk.calls) :
    CallsNone (modify change) :=
  same

theorem CallsNone.bind
    {act : Act α}
    {next : α → Act β}
    (first : CallsNone act)
    (second : ∀ value, CallsNone (next value)) :
    CallsNone (act >>= next) := by
  intro desk
  apply after_bind_of fun left => left.calls = desk.calls
  · intro _ _
    exact first desk
  · intro value _
    exact (second value _).trans (first desk)

theorem callsNone_ofExcept
    {ε : Type}
    (cause : ε → Failure)
    (result : Except ε α) :
    CallsNone (ofExcept cause result) := by
  cases result with
  | error error =>
      exact callsNone_throw (cause error)
  | ok value =>
      exact callsNone_pure value

theorem callsNone_say (level : Level) (text : String) : CallsNone (say level text) :=
  callsNone_modify fun _ => rfl

theorem callsNone_order (given : Order) : CallsNone (order given) :=
  callsNone_modify fun _ => rfl

theorem callsNone_modifySession
    (id : Nat)
    (change : Session → Session) :
    CallsNone (modifySession id change) :=
  callsNone_modify fun _ => rfl

theorem callsNone_transition
    (id : Nat)
    (state : SessionState) :
    CallsNone (transition id state) := by
  refine callsNone_get.bind fun desk => ?_
  split
  · exact callsNone_pure ()
  · exact CallsNone.bind (callsNone_modify fun _ => rfl) fun _ => callsNone_modifySession _ _

theorem callsNone_chosenBuffer (chosen : Option Int) : CallsNone (chosenBuffer chosen) := by
  cases chosen with
  | none =>
      exact callsNone_get.bind fun _ =>
        CallsNone.bind (callsNone_modify fun _ => rfl) fun _ => callsNone_pure _
  | some number =>
      exact callsNone_pure number

/-- The installation of a transform changes transforms and the log only. -/
theorem after_installTransform
    (transform : Transform)
    (desk : Desk) :
    ∃ transforms log, after (installTransform transform) desk =
      { desk with transforms := transforms, log := log } := by
  unfold installTransform
  rw [after_get_bind]
  rcases desk.transforms.install transform with ⟨added, transforms⟩
  cases added with
  | false =>
      exact ⟨transforms, desk.log, rfl⟩
  | true =>
      exact ⟨transforms, _, rfl⟩

theorem callsNone_installTransform (transform : Transform) :
    CallsNone (installTransform transform) := by
  intro desk
  obtain ⟨transforms, log, installed⟩ := after_installTransform transform desk
  rw [installed]
  rfl

/-! ## Starts and stops -/

theorem callsNone_newSession
    (server : Config.Entries Setting)
    (root : Option Path) :
    CallsNone (newSession server root) := by
  unfold newSession
  repeat refine (callsNone_ofExcept _ _).bind fun _ => ?_
  exact callsNone_get.bind fun _ =>
    CallsNone.bind (callsNone_modify fun _ => rfl) fun _ => callsNone_pure _

theorem callsNone_enlist (session : Session) : CallsNone (enlist session) := by
  have registered : CallsNone (register session) := by
    refine callsNone_get.bind fun _ => CallsNone.bind (callsNone_modify fun _ => rfl) fun _ => ?_
    split
    · exact callsNone_modify fun _ => rfl
    · exact callsNone_pure ()
  exact CallsNone.bind (callsNone_modify fun _ => rfl) fun _ =>
    registered.bind fun _ => callsNone_transition _ _

theorem callsNone_startAt
    (server : Config.Entries Setting)
    (root : Option Path)
    (number : Int) :
    CallsNone (startAt server root number) := by
  refine callsNone_get.bind fun desk => ?_
  split
  · exact (callsNone_modifySession _ _).bind fun _ =>
      (callsNone_say _ _).bind fun _ => callsNone_pure _
  · exact (callsNone_newSession _ _).bind fun session => (callsNone_enlist _).bind fun _ =>
      (reads_joinWords _).callsNone.bind fun _ => (callsNone_say _ _).bind fun _ =>
        (callsNone_order _).bind fun _ => callsNone_pure _

theorem callsNone_startWith
    {resolve : Path → Act (Option Path)}
    (quiet : ∀ path, CallsNone (resolve path))
    (overrides : Config.Entries Setting)
    (buffer : Option Int) :
    CallsNone (startWith resolve overrides buffer) :=
  keepsTo_startWith_of isWay_sameCalls callsNone_say callsNone_chosenBuffer quiet
    callsNone_startAt overrides buffer

theorem callsNone_resolveRoot (path : Path) : CallsNone (resolveRoot path) := by
  intro desk
  obtain ⟨questions, log, same⟩ := onlyAsks_resolveRoot path desk
  rw [same]
  rfl

theorem callsNone_stop (buffer : Option Int) : CallsNone (stop buffer) :=
  keepsTo_stop_of isWay_sameCalls callsNone_say callsNone_chosenBuffer
    (fun id => callsNone_transition id .stopping) callsNone_order buffer

/-! ## Parts of a report -/

theorem callsNone_equip (id : Nat) : CallsNone (equip id) :=
  callsNone_get.bind fun _ => CallsNone.bind (callsNone_modify fun _ => rfl) fun _ =>
    callsNone_modifySession _ _

theorem callsNone_offerReload (id : Nat) : CallsNone (offerReload id) := by
  refine callsNone_get.bind fun desk => (callsNone_ofExcept _ _).bind fun reloads => ?_
  split
  · exact callsNone_get.bind fun _ => CallsNone.bind (callsNone_modify fun _ => rfl) fun _ =>
      (callsNone_ofExcept _ _).bind fun _ => CallsNone.bind (callsNone_modify fun _ => rfl)
        fun _ => callsNone_modifySession _ _
  · exact callsNone_pure ()

theorem callsNone_removeCommands (session : Session) : CallsNone (removeCommands session) := by
  have withdrawn : CallsNone (withdrawCommands session) := by
    refine callsNone_get.bind fun desk => ?_
    dsimp only
    split
    · exact callsNone_modify fun _ => rfl
    · exact callsNone_say _ _
  unfold removeCommands
  split
  · exact withdrawn.bind fun _ => callsNone_modifySession _ _
  · exact callsNone_pure ()

theorem callsNone_removeGroup (session : Session) : CallsNone (removeGroup session) := by
  unfold removeGroup
  split
  · exact callsNone_pure ()
  · refine callsNone_get.bind fun desk => ?_
    split
    · exact CallsNone.bind (callsNone_modify fun _ => rfl) fun _ => callsNone_modifySession _ _
    · exact (callsNone_say _ _).bind fun _ => callsNone_modifySession _ _

theorem callsNone_conclude
    (session : Session)
    (code : Json) :
    CallsNone (conclude session code) := by
  have begun : CallsNone (beginStopping session) := by
    unfold beginStopping
    split
    · exact callsNone_transition _ _
    · exact callsNone_pure ()
  have left : CallsNone (unregister session) := by
    refine callsNone_get.bind fun _ => CallsNone.bind (callsNone_modify fun _ => rfl) fun _ => ?_
    split
    · exact callsNone_modify fun _ => rfl
    · exact callsNone_pure ()
  exact (callsNone_modifySession _ _).bind fun _ => begun.bind fun _ =>
    (callsNone_transition _ _).bind fun _ => left.bind fun _ => callsNone_modifySession _ _

end Act

end AnalyzerSessions
