import AnalyzerSessions.Proofs.HostBuffers
import Mathlib.Data.List.Perm.Basic

namespace AnalyzerSessions.Host

/-!
# Sound hosts

Groups, auto-commands and buffers are known by their identifiers, and they refer to
each other by them.  A host is sound when every identifier is that of one thing, every
reference leads somewhere, and names are names of one thing.  Whatever is done to a
sound host, it stays sound; its buffers stay where they are, and what is new has an
identifier that was never given away before.
-/

variable {Action : Type}

/-- Something of a host that has an identifier. -/
inductive Item where
  | group (id : Int)
  | autoCommand (id : Int)
  | buffer (number : Int)
  deriving Repr, DecidableEq

/-- The identifier of something. -/
def Item.number : Item → Int
  | group id => id
  | autoCommand id => id
  | buffer number => number

/-- Everything of a host that has an identifier. -/
def items (host : Host Action) : List Item :=
  host.groups.map (fun group => .group group.id) ++
    host.autoCommands.map (fun command => .autoCommand command.id) ++
    host.buffers.map fun buffer => .buffer buffer.number

/-- Identifiers are those of one thing each, and there are more to give away. -/
structure Identified (items : List Item) (nextId : Int) : Prop where
  distinct : (items.map Item.number).Nodup
  below : ∀ item ∈ items, item.number < nextId

theorem Identified.sublist
    {items fewer : List Item}
    {nextId : Int}
    (identified : Identified items nextId)
    (sublist : fewer.Sublist items) :
    Identified fewer nextId :=
  ⟨identified.distinct.sublist (sublist.map _), fun item member =>
    identified.below item (sublist.subset member)⟩

/-- The next identifier is given to one more thing. -/
theorem Identified.insert
    {items more : List Item}
    {item : Item}
    (identified : Identified items item.number)
    (perm : more.Perm (item :: items)) :
    Identified more (item.number + 1) := by
  constructor
  · refine (perm.map Item.number).nodup_iff.mpr (List.nodup_cons.mpr ⟨fun member => ?_,
      identified.distinct⟩)
    obtain ⟨other, known, sameNumber⟩ := List.mem_map.mp member
    have below := identified.below other known
    omega
  · intro other member
    rcases List.mem_cons.mp (perm.subset member) with rfl | known
    · exact Int.lt_succ _
    · have below := identified.below other known
      omega

/-- Every identifier is that of one thing, every reference leads somewhere, and names are those of
one thing; only buffers without a file share the empty name. -/
structure IsSound (host : Host Action) : Prop where
  identified : Identified host.items host.nextId
  grouped : ∀ command ∈ host.autoCommands, command.group ∈ host.groups.map AutoGroup.id
  groupNames : (host.groups.map AutoGroup.name).Nodup
  bufferNames : ((host.buffers.map Buffer.name).filter (· ≠ "")).Nodup
  current : ∀ number, host.current = some number → number ∈ host.buffers.map Buffer.number

variable {host after : Host Action}

theorem isSound_empty : (empty : Host Action).IsSound := by
  constructor
  · exact ⟨.nil, fun _ member => (List.not_mem_nil member).elim⟩
  · exact fun _ member => (List.not_mem_nil member).elim
  · exact .nil
  · exact .nil
  · exact fun _ same => by cases same

/-! ## Parts of a host that change -/

/-- User commands do not matter. -/
theorem IsSound.commands
    (sound : host.IsSound)
    (commands : List (UserCommand Action)) :
    { host with commands }.IsSound :=
  ⟨sound.identified, sound.grouped, sound.groupNames, sound.bufferNames, sound.current⟩

/-- The current buffer may be any that is there. -/
theorem IsSound.focused
    (sound : host.IsSound)
    {number : Int}
    (known : number ∈ host.buffers.map Buffer.number) :
    { host with current := some number }.IsSound := by
  refine ⟨sound.identified, sound.grouped, sound.groupNames, sound.bufferNames, fun other same => ?_⟩
  cases same
  exact known

theorem IsSound.focusOn
    (sound : host.IsSound)
    {number : Int}
    (known : number ∈ host.buffers.map Buffer.number)
    (focus : Bool) :
    (host.focusOn number focus).IsSound := by
  cases focus with
  | true => exact sound.focused known
  | false => exact sound

/-- Auto-commands may go. -/
theorem IsSound.fewerCommands
    (sound : host.IsSound)
    (keep : AutoCommand Action → Bool) :
    { host with autoCommands := host.autoCommands.filter keep }.IsSound := by
  refine ⟨sound.identified.sublist ?_, fun command member => ?_, sound.groupNames,
    sound.bufferNames, sound.current⟩
  · exact ((List.Sublist.refl _).append (List.filter_sublist.map _)).append (List.Sublist.refl _)
  · exact sound.grouped command (List.mem_filter.mp member).1

theorem IsSound.clearGroup
    (sound : host.IsSound)
    (group : Int) :
    (host.clearGroup group).IsSound :=
  sound.fewerCommands _

/-- A group may go when it has no auto-commands. -/
theorem IsSound.withoutGroup
    (sound : host.IsSound)
    {group : Int}
    (unused : ∀ command ∈ host.autoCommands, command.group ≠ group) :
    { host with groups := host.groups.filter fun known => known.id != group }.IsSound := by
  refine ⟨sound.identified.sublist ?_, fun command member => ?_, ?_, sound.bufferNames,
    sound.current⟩
  · exact ((List.filter_sublist.map _).append (List.Sublist.refl _)).append (List.Sublist.refl _)
  · obtain ⟨known, isKnown, isGroup⟩ := List.mem_map.mp (sound.grouped command member)
    refine List.mem_map.mpr ⟨known, List.mem_filter.mpr ⟨isKnown, ?_⟩, isGroup⟩
    have apart := unused command member
    simpa [isGroup] using apart
  · exact sound.groupNames.sublist (List.filter_sublist.map _)

/-- A new group has a name that no group has. -/
theorem IsSound.withGroup
    (sound : host.IsSound)
    {name : String}
    (unnamed : name ∉ host.groups.map AutoGroup.name) :
    ({ host with
      groups := host.groups ++ [⟨host.nextId, name⟩]
      nextId := host.nextId + 1 } : Host Action).IsSound := by
  have identified : Identified host.items (Item.group host.nextId).number := sound.identified
  refine ⟨identified.insert ?_, fun command member => ?_, ?_, sound.bufferNames, sound.current⟩
  · simp only [items, List.map_append, List.map_cons, List.map_nil, List.append_assoc,
      List.cons_append, List.nil_append]
    exact List.perm_middle
  · rw [List.map_append]
    exact List.mem_append_left _ (sound.grouped command member)
  · rw [List.map_append]
    refine sound.groupNames.append (List.nodup_singleton _) fun known member isName => ?_
    obtain rfl := List.mem_singleton.mp isName
    exact unnamed member

/-- A new auto-command belongs to a group that is there. -/
theorem IsSound.withCommand
    (sound : host.IsSound)
    {group : Int}
    (known : group ∈ host.groups.map AutoGroup.id)
    (event pattern : String)
    (action : Action) :
    ({ host with
      autoCommands := host.autoCommands ++ [⟨host.nextId, event, pattern, action, group⟩]
      nextId := host.nextId + 1 } : Host Action).IsSound := by
  have identified : Identified host.items (Item.autoCommand host.nextId).number := sound.identified
  refine ⟨identified.insert ?_, fun command member => ?_, sound.groupNames, sound.bufferNames,
    sound.current⟩
  · simp only [items, List.map_append, List.map_cons, List.map_nil, List.append_assoc,
      List.cons_append, List.nil_append]
    exact (List.perm_middle.append_left _).trans List.perm_middle
  · rcases List.mem_append.mp member with old | isNew
    · exact sound.grouped command old
    · cases List.mem_singleton.mp isNew
      exact known

/-- A new buffer has no name, or one that no buffer has. -/
theorem IsSound.addBuffer
    (sound : host.IsSound)
    {name : String}
    (unnamed : name ≠ "" → name ∉ host.buffers.map Buffer.name)
    (text : String) :
    (host.addBuffer name text).2.IsSound := by
  have identified : Identified host.items (Item.buffer host.nextId).number := sound.identified
  refine ⟨identified.insert ?_, sound.grouped, sound.groupNames, ?_, fun number same => ?_⟩
  · simp only [items, Host.addBuffer, List.map_append, List.map_cons, List.map_nil,
      ← List.append_assoc]
    exact List.perm_append_singleton _ _
  · simp only [Host.addBuffer, List.map_append, List.map_cons, List.map_nil, List.filter_append]
    refine sound.bufferNames.append (List.Nodup.sublist List.filter_sublist
      (List.nodup_singleton name)) fun known member isName => ?_
    obtain ⟨isLast, named⟩ := List.mem_filter.mp isName
    obtain rfl := List.mem_singleton.mp isLast
    exact unnamed (of_decide_eq_true named) (List.mem_filter.mp member).1
  · simp only [Host.addBuffer, List.map_append]
    exact List.mem_append_left _ (sound.current number same)

theorem seats_setText
    (host : Host Action)
    (number : Int)
    (text : String) :
    (host.setText number text).seats = host.seats := by
  simp only [seats, Host.setText, List.map_map]
  refine List.map_congr_left fun buffer _ => ?_
  simp only [Function.comp_apply]
  split <;> rfl

theorem items_setText
    (host : Host Action)
    (number : Int)
    (text : String) :
    (host.setText number text).items = host.items := by
  have ofSeats : ∀ host : Host Action, host.buffers.map (fun buffer => Item.buffer buffer.number) =
      host.seats.map fun seat => Item.buffer seat.1 := by
    intro host
    rw [seats, List.map_map]
    rfl
  unfold items
  rw [ofSeats, ofSeats, seats_setText]
  rfl

/-- The text of a buffer does not matter. -/
theorem IsSound.setText
    (sound : host.IsSound)
    (number : Int)
    (text : String) :
    (host.setText number text).IsSound := by
  have names : (host.setText number text).buffers.map Buffer.name =
      host.buffers.map Buffer.name := by
    have same := congrArg (List.map Prod.snd) (seats_setText host number text)
    rwa [seats, seats, List.map_map, List.map_map] at same
  refine ⟨(items_setText host number text).symm ▸ sound.identified, sound.grouped,
    sound.groupNames, names ▸ sound.bufferNames, fun other same => ?_⟩
  rw [numbers_setText]
  exact sound.current other same

/-! ## Whatever is done to a host -/

/-- A group that a host has. -/
theorem mem_groups_of_hasGroup
    {group : Int}
    (has : host.hasGroup group = true) :
    group ∈ host.groups.map AutoGroup.id := by
  obtain ⟨known, member, isGroup⟩ := List.any_eq_true.mp has
  exact List.mem_map.mpr ⟨known, member, beq_iff_eq.mp isGroup⟩

theorem not_mem_names_of_bufferNamed?
    {name : String}
    (missing : host.bufferNamed? name = none) :
    name ∉ host.buffers.map Buffer.name := by
  intro member
  obtain ⟨buffer, known, isName⟩ := List.mem_map.mp member
  exact List.find?_eq_none.mp missing buffer known (beq_iff_eq.mpr isName)

theorem mem_numbers_addBuffer
    (host : Host Action)
    (name text : String) :
    host.nextId ∈ (host.addBuffer name text).2.buffers.map Buffer.number := by
  simp [addBuffer]

/-- Whatever is done to a sound host, it stays sound. -/
theorem IsSound.turn
    (sound : host.IsSound)
    (turn : host.Turn after) :
    after.IsSound := by
  cases turn with
  | createCommand command =>
      exact sound.commands _
  | deleteCommand deleted =>
      unfold deleteCommand at deleted
      split at deleted <;> cases deleted
      exact sound.commands _
  | createGroup name clear =>
      unfold createGroup
      split
      · cases clear with
        | true => exact sound.clearGroup _
        | false => exact sound
      · rename_i unnamed
        refine sound.withGroup fun member => ?_
        obtain ⟨group, known, isName⟩ := List.mem_map.mp member
        exact List.find?_eq_none.mp unnamed group known (beq_iff_eq.mpr isName)
  | createAutoCommand created =>
      unfold createAutoCommand at created
      split at created <;> cases created
      rename_i has
      exact sound.withCommand (mem_groups_of_hasGroup has) _ _ _
  | deleteGroup deleted =>
      unfold deleteGroup at deleted
      split at deleted <;> cases deleted
      -- The auto-commands of the group go first, so that none is left without its group.
      refine (sound.clearGroup _).withoutGroup fun command member => ?_
      simpa [clearGroup] using (List.mem_filter.mp member).2
  | openBuffer opened =>
      unfold openBuffer at opened
      split at opened
      · cases opened
      · split at opened
        · rename_i buffer named
          cases opened
          exact sound.focusOn (List.mem_map_of_mem (mem_of_bufferNamed? named).1) _
        · rename_i missing
          split at opened <;> cases opened
          exact (sound.addBuffer (fun _ => not_mem_names_of_bufferNamed? missing) _).focusOn
            (mem_numbers_addBuffer host _ _) _
  | currentBuffer =>
      unfold currentBuffer
      split
      · exact sound
      · exact (sound.addBuffer (fun named => (named rfl).elim) "").focusOn
          (mem_numbers_addBuffer host "" "") true
  | setCurrent focused =>
      unfold setCurrent at focused
      split at focused <;> cases focused
      rename_i isThere
      obtain ⟨buffer, found⟩ := Option.isSome_iff_exists.mp isThere
      refine sound.focused (List.mem_map.mpr ⟨buffer, List.mem_of_find?_eq_some found, ?_⟩)
      simpa using List.find?_some found
  | applyEdits applied =>
      obtain ⟨_, _, same⟩ := Option.map_eq_some_iff.mp applied
      cases same
      exact sound.setText _ _

/-- A host that another one came from: its buffers are still where they were, under their names, and
what is new has an identifier that was not given away. -/
structure Onward (before after : Host Action) : Prop where
  seats : before.seats <+: after.seats
  nextId : before.nextId ≤ after.nextId
  items : ∀ item ∈ after.items, item ∈ before.items ∨ before.nextId ≤ item.number

theorem Onward.refl (host : Host Action) : host.Onward host :=
  ⟨List.prefix_refl _, Int.le_refl _, fun _ => .inl⟩

theorem Onward.trans
    {last : Host Action}
    (first : host.Onward after)
    (second : after.Onward last) :
    host.Onward last := by
  refine ⟨first.seats.trans second.seats, Int.le_trans first.nextId second.nextId,
    fun item member => ?_⟩
  rcases second.items item member with old | new
  · exact first.items item old
  · exact .inr (Int.le_trans first.nextId new)

/-- Nothing new is there. -/
theorem Onward.of_fewer
    (seats : after.seats = host.seats)
    (nextId : after.nextId = host.nextId)
    (fewer : after.items ⊆ host.items) :
    host.Onward after :=
  ⟨seats ▸ List.prefix_refl _, Int.le_of_eq nextId.symm, fun _ member => .inl (fewer member)⟩

/-- One thing more is there. -/
theorem Onward.of_insert
    (item : Item)
    (seats : host.seats <+: after.seats)
    (nextId : after.nextId = host.nextId + 1)
    (isNext : item.number = host.nextId)
    (more : ∀ known ∈ after.items, known ∈ host.items ∨ known = item) :
    host.Onward after := by
  refine ⟨seats, by omega, fun known member => (more known member).imp_right ?_⟩
  rintro rfl
  exact Int.le_of_eq isNext.symm

theorem onward_focusOn
    (host : Host Action)
    (number : Int)
    (focus : Bool) :
    host.Onward (host.focusOn number focus) := by
  cases focus with
  | true => exact .of_fewer rfl rfl (List.Subset.refl _)
  | false => exact .refl host

theorem onward_addBuffer
    (host : Host Action)
    (name text : String) :
    host.Onward (host.addBuffer name text).2 := by
  refine .of_insert (.buffer host.nextId) ?_ rfl rfl fun known member => ?_
  · simp only [seats, addBuffer, List.map_append]
    exact List.prefix_append _ _
  · simp only [items, addBuffer, List.map_append, List.map_cons, List.map_nil, List.mem_append,
      List.mem_singleton] at member ⊢
    tauto

theorem onward_clearGroup
    (host : Host Action)
    (group : Int) :
    host.Onward (host.clearGroup group) := by
  refine .of_fewer rfl rfl (List.Sublist.subset ?_)
  exact ((List.Sublist.refl _).append (List.filter_sublist.map _)).append (List.Sublist.refl _)

theorem onward_setText
    (host : Host Action)
    (number : Int)
    (text : String) :
    host.Onward (host.setText number text) :=
  .of_fewer (seats_setText host number text) rfl (by rw [items_setText]; exact List.Subset.refl _)

/-- Whatever is done to a host leads onward. -/
theorem Turn.onward
    (turn : host.Turn after) :
    host.Onward after := by
  cases turn with
  | createCommand command =>
      exact .of_fewer rfl rfl (List.Subset.refl _)
  | deleteCommand deleted =>
      unfold Host.deleteCommand at deleted
      split at deleted <;> cases deleted
      exact .of_fewer rfl rfl (List.Subset.refl _)
  | createGroup name clear =>
      unfold Host.createGroup
      split
      · cases clear with
        | true => exact onward_clearGroup host _
        | false => exact .refl host
      · refine .of_insert (.group host.nextId) (List.prefix_refl _) rfl rfl
          fun known member => ?_
        simp only [items, List.map_append, List.map_cons, List.map_nil, List.mem_append,
          List.mem_singleton] at member ⊢
        tauto
  | createAutoCommand created =>
      unfold Host.createAutoCommand at created
      split at created <;> cases created
      refine .of_insert (.autoCommand host.nextId) (List.prefix_refl _) rfl rfl
        fun known member => ?_
      simp only [items, List.map_append, List.map_cons, List.map_nil, List.mem_append,
        List.mem_singleton] at member ⊢
      tauto
  | deleteGroup deleted =>
      unfold Host.deleteGroup at deleted
      split at deleted <;> cases deleted
      rename_i group _
      refine (onward_clearGroup host group).trans (.of_fewer rfl rfl (List.Sublist.subset ?_))
      exact ((List.filter_sublist.map _).append (List.Sublist.refl _)).append (List.Sublist.refl _)
  | openBuffer opened =>
      unfold Host.openBuffer at opened
      split at opened
      · cases opened
      · split at opened
        · cases opened
          exact onward_focusOn host _ _
        · split at opened <;> cases opened
          exact (onward_addBuffer host _ _).trans (onward_focusOn _ _ _)
  | currentBuffer =>
      unfold Host.currentBuffer
      split
      · exact .refl host
      · exact (onward_addBuffer host "" "").trans (onward_focusOn _ host.nextId true)
  | setCurrent focused =>
      unfold Host.setCurrent at focused
      split at focused <;> cases focused
      exact .of_fewer rfl rfl (List.Subset.refl _)
  | applyEdits applied =>
      obtain ⟨_, _, same⟩ := Option.map_eq_some_iff.mp applied
      cases same
      exact onward_setText host _ _

/-- Any number of things that are done to a sound host leave a sound host, to which it leads on. -/
theorem IsSound.turns
    (sound : host.IsSound)
    (turns : Relation.ReflTransGen Turn host after) :
    after.IsSound ∧ host.Onward after := by
  induction turns with
  | refl =>
      exact ⟨sound, .refl host⟩
  | tail _ turn inductionHypothesis =>
      exact ⟨inductionHypothesis.1.turn turn, inductionHypothesis.2.trans turn.onward⟩

/-! ## Finding buffers -/

theorem IsSound.isNumbered
    (sound : host.IsSound) :
    host.IsNumbered := by
  have sublist : (host.buffers.map fun buffer => Item.buffer buffer.number).Sublist host.items :=
    List.sublist_append_right _ _
  refine ⟨?_, fun buffer member => ?_⟩
  · have distinct := sound.identified.distinct.sublist (sublist.map Item.number)
    rwa [List.map_map] at distinct
  · exact sound.identified.below (.buffer buffer.number)
      (sublist.subset (List.mem_map_of_mem member))

/-- A buffer is found where it was, under its name. -/
theorem Onward.buffer?
    {buffer : Buffer}
    (onward : host.Onward after)
    (sound : after.IsSound)
    (member : buffer ∈ host.buffers) :
    ∃ now, after.buffer? buffer.number = some now ∧ now.name = buffer.name := by
  have seat : (buffer.number, buffer.name) ∈ after.seats :=
    onward.seats.subset (List.mem_map.mpr ⟨buffer, member, rfl⟩)
  obtain ⟨now, isThere, same⟩ := List.mem_map.mp seat
  obtain ⟨sameNumber, sameName⟩ := Prod.mk.inj same
  exact ⟨now, sameNumber ▸ sound.isNumbered.buffer?_number isThere, sameName⟩

theorem bufferNamed?_map_number
    (host : Host Action)
    (name : String) :
    (host.bufferNamed? name).map Buffer.number =
      (host.seats.find? fun seat => seat.2 == name).map Prod.fst := by
  rw [seats, List.find?_map, Option.map_map]
  rfl

/-- The first buffer of a name stays the first one. -/
theorem Onward.bufferNamed?
    {name : String}
    {number : Int}
    (onward : host.Onward after)
    (named : (host.bufferNamed? name).map Buffer.number = some number) :
    (after.bufferNamed? name).map Buffer.number = some number := by
  obtain ⟨more, isAfter⟩ := onward.seats
  rw [bufferNamed?_map_number] at named ⊢
  obtain ⟨seat, found, isNumber⟩ := Option.map_eq_some_iff.mp named
  rw [← isAfter, List.find?_append, found]
  exact congrArg some isNumber

/-- A file that is open is not opened again. -/
theorem openBuffer_of_named
    {disk : Disk}
    {path place : Path}
    {number : Int}
    (leads : disk.resolve path = .ok place)
    (named : (host.bufferNamed? place.text).map Buffer.number = some number)
    (text : Option String)
    (focus : Bool) :
    host.openBuffer disk path text focus = .ok (number, host.focusOn number focus) := by
  obtain ⟨buffer, found, rfl⟩ := Option.map_eq_some_iff.mp named
  simp only [openBuffer, leads, found]

/-- A file that has been opened is found by the name of the place to which its path leads. -/
theorem named_of_openBuffer
    {disk : Disk}
    {path place : Path}
    {text : Option String}
    {focus : Bool}
    {number : Int}
    (leads : disk.resolve path = .ok place)
    (opened : host.openBuffer disk path text focus = .ok (number, after)) :
    (after.bufferNamed? place.text).map Buffer.number = some number := by
  have focused : ∀ (host : Host Action) number,
      (host.focusOn number focus).bufferNamed? place.text = host.bufferNamed? place.text := by
    intro host number
    cases focus <;> rfl
  simp only [openBuffer, leads] at opened
  split at opened
  · rename_i buffer found
    cases opened
    rw [focused, found]
    rfl
  · rename_i missing
    split at opened <;> cases opened
    rw [focused, Host.bufferNamed?, addBuffer, List.find?_append]
    unfold Host.bufferNamed? at missing
    simp [missing]

end AnalyzerSessions.Host
