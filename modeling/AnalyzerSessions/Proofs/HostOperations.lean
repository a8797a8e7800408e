import AnalyzerSessions.Proofs.LedgerActs
import AnalyzerSessions.Proofs.HandlingMoves
import AnalyzerSessions.Proofs.SoundHosts
import AnalyzerSessions.Proofs.SteadyPaths
import AnalyzerSessions.Session.Setup

namespace AnalyzerSessions

/-!
# Operations on a host

An editor asks its host for one operation after the other, and some of them fail.  What a
command or an auto-command does when it is run is asked of the host in turn, so that a
run of operations covers it.  Meanwhile files may change elsewhere, but no link and no
directory.
-/

namespace Act

/-- The action that a command line runs. -/
def lookUpCommand (name : String) (arguments : Nat) : Act Action := do
  ofExcept .command ((← get).host.lookUp name arguments)

/-- The auto-commands that an event on a file concerns. -/
def concernedCommands (event file : String) : Act (List (AutoCommand Action)) := do
  return (← get).host.matching event file

/-- Write the file of a buffer, and tell its name. -/
def writeFile (chosen : Option Int) : Act String := do
  let number ← chosenBuffer chosen
  let buffer ← buffer number
  if buffer.name.isEmpty then throw (.command .noFileName)
  match (← get).disk.writeText (Path.ofText buffer.name) buffer.text with
  | .error error => throw (.file error)
  | .ok disk =>
    modify fun desk => { desk with disk }
    return buffer.name

/-- A buffer is looked up by its number. -/
theorem perform_buffer
    (number : Int)
    (desk : Desk) :
    perform (buffer number) desk =
      (match desk.host.buffer? number with
        | some buffer => .ok buffer
        | none => .error (.noKey (.int number)), desk) := by
  unfold buffer
  rw [perform_get_bind]
  cases desk.host.buffer? number <;> rfl

/-- A file that is opened becomes a buffer of the host. -/
theorem perform_openBuffer
    (path : Path)
    (text : Option String)
    (focus : Bool)
    (desk : Desk) :
    perform (openBuffer path text focus) desk =
      match desk.host.openBuffer desk.disk path text focus with
      | .ok (number, host) => (.ok number, { desk with host })
      | .error error => (.error (.file error), desk) := by
  unfold openBuffer
  rw [perform_get_bind]
  cases desk.host.openBuffer desk.disk path text focus <;> rfl

end Act

/-- Something that a host is asked for. -/
inductive HostOperation where
  | createCommand (command : UserCommand Action)
  | deleteCommand (name : String)
  | runCommand (name : String) (arguments : List Json)
  | createGroup (name : String) (clear : Bool)
  | createAutoCommand (event pattern : String) (action : Action) (group : Int)
  | deleteGroup (group : Int)
  | fire (event file : String)
  | openBuffer (path : Path) (text : Option String) (focus : Bool)
  | bufferForUri (uri : String)
  | currentBuffer
  | setCurrent (number : Int)
  | applyEdits (edits : List TextEdit) (number : Int) (encoding : Text.Encoding)
  | write (chosen : Option Int)

/-- The desk that an operation leaves behind, whether it succeeds or fails. -/
def HostOperation.after (desk : Desk) : HostOperation → Desk
  | createCommand command => Act.after (Act.createCommand command) desk
  | deleteCommand name => Act.after (Act.deleteCommand name) desk
  | runCommand name arguments => Act.after (Act.lookUpCommand name arguments.length) desk
  | createGroup name clear => Act.after (Act.createGroup name clear) desk
  | createAutoCommand event pattern action group =>
    Act.after (Act.createAutoCommand event pattern action group) desk
  | deleteGroup group => Act.after (Act.deleteGroup group) desk
  | fire event file => Act.after (Act.concernedCommands event file) desk
  | openBuffer path text focus => Act.after (Act.openBuffer path text focus) desk
  | bufferForUri uri => Act.after (Act.bufferForUri uri) desk
  | currentBuffer => Act.after Act.currentBuffer desk
  | setCurrent number => Act.after (Act.setCurrent number) desk
  | applyEdits edits number encoding => Act.after (Act.applyToBuffer edits number encoding) desk
  | write chosen => Act.after (Act.writeFile chosen) desk

/-! ## What operations are made of -/

namespace Move

/-- The file of a buffer is written, and then the actions that this concerns are run. -/
theorem perform_writeBuffer
    {station : Station}
    (noOrders : station.desk.orders = [])
    (chosen : Option Int) :
    perform (writeBuffer chosen) station =
      match Act.perform (Act.writeFile chosen) station.desk with
      | (.ok name, desk) =>
        perform (into (fire writeEvent name) .discarding) { station with desk }
      | (.error failure, desk) => (.error failure, { station with desk }) := by
  have sameDesk : ({ station.desk with orders := [] } : Desk) = station.desk := by
    rw [← noOrders]
  have stillNone : (Act.after (Act.chosenBuffer chosen) station.desk).orders = [] := by
    cases chosen <;> exact noOrders
  unfold writeBuffer Act.writeFile
  rw [perform_bind, perform_atDesk_of_silent (by rwa [sameDesk]), sameDesk, Act.perform_bind]
  unfold Act.after at stillNone ⊢
  generalize Act.perform (Act.chosenBuffer chosen) station.desk = chose at stillNone ⊢
  rcases chose with ⟨failure | number, mid⟩
  · rfl
  · dsimp only at stillNone ⊢
    have sameMid : ({ mid with orders := [] } : Desk) = mid := by
      rw [← stillNone]
    rw [perform_bind, perform_atDesk_of_silent (by rw [Act.after, Act.perform_buffer]), Act.after,
      Act.perform_buffer, sameMid, Act.perform_bind, Act.perform_buffer]
    cases mid.host.buffer? number with
    | none =>
        rfl
    | some buffer =>
        dsimp only
        by_cases unnamed : buffer.name.isEmpty = true
        · simp only [if_pos unnamed]
          rfl
        · simp only [if_neg unnamed]
          rw [perform_get_bind, Act.perform_get_bind]
          cases mid.disk.writeText (Path.ofText buffer.name) buffer.text <;> rfl

end Move

/-! ## What operations do -/

/-- What happens to a host is a number of things that may be done to one, and no link and no
directory changes. -/
structure Desk.UsesHost (before after : Desk) : Prop where
  turns : Relation.ReflTransGen Host.Turn before.host after.host
  sameWays : before.disk.SameWays after.disk

theorem Desk.isWay_usesHost : Desk.IsWay Desk.UsesHost where
  refl desk := ⟨.refl, .refl desk.disk⟩
  trans first second :=
    ⟨first.turns.trans second.turns, first.sameWays.trans second.sameWays⟩

namespace Act

open Desk (isWay_usesHost)

variable {desk : Desk}

/-- One thing is done to the host. -/
theorem usesHost_setHost
    {host : Host Action}
    (turn : desk.host.Turn host) :
    desk.UsesHost { desk with host } :=
  ⟨.single turn, .refl desk.disk⟩

theorem usesHost_currentBuffer : KeepsTo Desk.UsesHost currentBuffer :=
  fun _ => usesHost_setHost .currentBuffer

theorem usesHost_chosenBuffer (chosen : Option Int) :
    KeepsTo Desk.UsesHost (chosenBuffer chosen) := by
  cases chosen with
  | none => exact usesHost_currentBuffer
  | some number => exact keepsTo_pure isWay_usesHost number

theorem usesHost_buffer (number : Int) : KeepsTo Desk.UsesHost (buffer number) := by
  refine keepsTo_get fun desk => ?_
  cases desk.host.buffer? number with
  | none => exact isWay_usesHost.refl desk
  | some buffer => exact isWay_usesHost.refl desk

theorem usesHost_openBuffer
    (path : Path)
    (text : Option String)
    (focus : Bool) :
    KeepsTo Desk.UsesHost (openBuffer path text focus) := by
  refine keepsTo_get fun desk => ?_
  cases opened : desk.host.openBuffer desk.disk path text focus with
  | error error => exact isWay_usesHost.refl desk
  | ok result => exact usesHost_setHost (.openBuffer opened)

theorem usesHost_bufferForUri (uri : String) : KeepsTo Desk.UsesHost (bufferForUri uri) :=
  (keepsTo_ofExcept isWay_usesHost _ _).bind isWay_usesHost fun _ => usesHost_openBuffer _ _ _

theorem usesHost_applyToBuffer
    (edits : List TextEdit)
    (number : Int)
    (encoding : Text.Encoding) :
    KeepsTo Desk.UsesHost (applyToBuffer edits number encoding) := by
  refine keepsTo_get fun desk => ?_
  cases applied : desk.host.applyEdits? edits number encoding with
  | none => exact isWay_usesHost.refl desk
  | some result => exact ⟨.single (.applyEdits applied), .refl desk.disk⟩

theorem usesHost_writeFile (chosen : Option Int) : KeepsTo Desk.UsesHost (writeFile chosen) := by
  refine (usesHost_chosenBuffer chosen).bind isWay_usesHost fun number => ?_
  refine (usesHost_buffer number).bind isWay_usesHost fun buffer => ?_
  split
  · exact keepsTo_throw isWay_usesHost _
  · refine keepsTo_get fun desk => ?_
    cases written : desk.disk.writeText (Path.ofText buffer.name) buffer.text with
    | error error => exact isWay_usesHost.refl desk
    | ok disk => exact ⟨.refl, Disk.sameWays_update written⟩

end Act

/-- An operation does to the host what may be done to one. -/
theorem HostOperation.usesHost
    (operation : HostOperation)
    (desk : Desk) :
    desk.UsesHost (operation.after desk) := by
  have isWay := Desk.isWay_usesHost
  cases operation with
  | createCommand command =>
      exact Act.usesHost_setHost (.createCommand command)
  | deleteCommand name =>
      exact Act.keepsTo_changeHost_alone isWay
        (fun desk _ deleted => Act.usesHost_setHost (.deleteCommand deleted)) desk
  | runCommand name arguments =>
      exact Act.keepsTo_get (fun desk => Act.keepsTo_ofExcept isWay _ _ desk) desk
  | createGroup name clear =>
      exact Act.usesHost_setHost (.createGroup name clear)
  | createAutoCommand event pattern action group =>
      exact Act.keepsTo_changeHost isWay
        (fun desk _ _ created => Act.usesHost_setHost (.createAutoCommand created)) desk
  | deleteGroup group =>
      exact Act.keepsTo_changeHost_alone isWay
        (fun desk _ deleted => Act.usesHost_setHost (.deleteGroup deleted)) desk
  | fire event file =>
      exact isWay.refl desk
  | openBuffer path text focus =>
      exact Act.usesHost_openBuffer path text focus desk
  | bufferForUri uri =>
      exact Act.usesHost_bufferForUri uri desk
  | currentBuffer =>
      exact Act.usesHost_currentBuffer desk
  | setCurrent number =>
      exact Act.keepsTo_changeHost_alone isWay
        (fun desk _ focused => Act.usesHost_setHost (.setCurrent focused)) desk
  | applyEdits edits number encoding =>
      exact Act.usesHost_applyToBuffer edits number encoding desk
  | write chosen =>
      exact Act.usesHost_writeFile chosen desk

/-! ## Runs of operations -/

/-- What is new on a host. -/
def Host.created (before after : Host Action) : List Host.Item :=
  after.items.filter fun item => item ∉ before.items

/-- The desks to which operations lead, with everything that was created on the way, in order.
Elsewhere anything may happen that leaves the host, the links and the directories alone. -/
inductive HostRun (initial : Desk) : List Host.Item → Desk → Prop where
  | begin :
      HostRun initial [] initial
  | operation
      {created : List Host.Item}
      {desk : Desk}
      (earlier : HostRun initial created desk)
      (operation : HostOperation) :
      HostRun initial (created ++ desk.host.created (operation.after desk).host)
        (operation.after desk)
  | elsewhere
      {created : List Host.Item}
      {desk other : Desk}
      (earlier : HostRun initial created desk)
      (sameHost : other.host = desk.host)
      (sameWays : desk.disk.SameWays other.disk) :
      HostRun initial created other

namespace HostRun

variable {initial desk : Desk} {created : List Host.Item}

/-- A run uses the host. -/
theorem usesHost
    (run : HostRun initial created desk) :
    initial.UsesHost desk := by
  induction run with
  | begin =>
      exact Desk.isWay_usesHost.refl initial
  | operation earlier operation inductionHypothesis =>
      exact Desk.isWay_usesHost.trans inductionHypothesis (operation.usesHost _)
  | elsewhere earlier sameHost sameWays inductionHypothesis =>
      exact Desk.isWay_usesHost.trans inductionHypothesis ⟨sameHost ▸ .refl, sameWays⟩

/-- Everything that a run creates has an identifier of its own, above those that were there, and
everything that is there then was there or has been created. -/
theorem identified
    (sound : initial.host.IsSound)
    (run : HostRun initial created desk) :
    Host.Identified created desk.host.nextId ∧
      (∀ item ∈ created, initial.host.nextId ≤ item.number) ∧
      ∀ item ∈ desk.host.items, item ∈ initial.host.items ∨ item ∈ created := by
  induction run with
  | begin =>
      exact ⟨⟨.nil, fun _ member => (List.not_mem_nil member).elim⟩,
        fun _ member => (List.not_mem_nil member).elim, fun _ member => .inl member⟩
  | @operation created desk earlier operation inductionHypothesis =>
      obtain ⟨identified, above, known⟩ := inductionHypothesis
      obtain ⟨soundNow, onwardNow⟩ := sound.turns earlier.usesHost.turns
      obtain ⟨soundAfter, onward⟩ := soundNow.turns (operation.usesHost desk).turns
      generalize operation.after desk = after at soundAfter onward
      have isNew : ∀ item ∈ desk.host.created after.host, desk.host.nextId ≤ item.number := by
        intro item member
        obtain ⟨there, missing⟩ := List.mem_filter.mp member
        exact (onward.items item there).resolve_left (of_decide_eq_true missing)
      refine ⟨⟨?_, fun item member => ?_⟩, fun item member => ?_, fun item member => ?_⟩
      · rw [List.map_append]
        refine identified.distinct.append
          (soundAfter.identified.distinct.sublist (List.filter_sublist.map _)) ?_
        intro number old new
        obtain ⟨first, isOld, rfl⟩ := List.mem_map.mp old
        obtain ⟨second, isSecond, sameNumber⟩ := List.mem_map.mp new
        have below := identified.below first isOld
        have notBelow := isNew second isSecond
        omega
      · rcases List.mem_append.mp member with old | new
        · exact Int.lt_of_lt_of_le (identified.below item old) onward.nextId
        · exact soundAfter.identified.below item (List.mem_filter.mp new).1
      · rcases List.mem_append.mp member with old | new
        · exact above item old
        · exact Int.le_trans onwardNow.nextId (isNew item new)
      · by_cases old : item ∈ desk.host.items
        · exact (known item old).imp_right (List.mem_append_left _)
        · exact .inr (List.mem_append_right _ (List.mem_filter.mpr ⟨member, decide_eq_true old⟩))
  | elsewhere earlier sameHost _ inductionHypothesis =>
      rw [sameHost]
      exact inductionHypothesis

end HostRun

/-- A host with a group and a buffer of the file. -/
def Host.reading : Host Action :=
  ⟨[], [⟨1, "Own"⟩], [], [⟨3, "/src/main.rs", "// main"⟩], 4, some 3⟩

end AnalyzerSessions
