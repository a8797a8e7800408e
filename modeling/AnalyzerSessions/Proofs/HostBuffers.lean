import AnalyzerSessions.Host.Basic
import Mathlib.Data.List.Nodup
import Mathlib.Logic.Relation

namespace AnalyzerSessions.Host

/-!
# Buffers of a host

Buffers are known by their numbers, and a document by the first buffer of its name.
Whatever is done to a host, no two buffers share a number, and none has one that is
still to be given away.
-/

variable {Action : Type}

/-- Every buffer has a number of its own, which is not given away again. -/
structure IsNumbered (host : Host Action) : Prop where
  distinct : (host.buffers.map Buffer.number).Nodup
  below : ∀ buffer ∈ host.buffers, buffer.number < host.nextId

/-- Something that is done to a host. -/
inductive Turn (host : Host Action) : Host Action → Prop where
  | createCommand (command : UserCommand Action) :
      Turn host (host.createCommand command)
  | deleteCommand {after : Host Action} {name : String}
      (deleted : host.deleteCommand name = .ok after) :
      Turn host after
  | createGroup (name : String) (clear : Bool) :
      Turn host (host.createGroup name clear).2
  | createAutoCommand {after : Host Action} {event pattern : String} {action : Action}
      {group number : Int}
      (created : host.createAutoCommand event pattern action group = .ok (number, after)) :
      Turn host after
  | deleteGroup {after : Host Action} {group : Int}
      (deleted : host.deleteGroup group = .ok after) :
      Turn host after
  | openBuffer {after : Host Action} {disk : Disk} {path : Path} {text : Option String}
      {focus : Bool} {number : Int}
      (opened : host.openBuffer disk path text focus = .ok (number, after)) :
      Turn host after
  | currentBuffer :
      Turn host host.currentBuffer.2
  | setCurrent {after : Host Action} {number : Int}
      (focused : host.setCurrent number = .ok after) :
      Turn host after
  | applyEdits {after : Host Action} {edits : List TextEdit} {number : Int}
      {encoding : Text.Encoding} {record : Record}
      (applied : host.applyEdits? edits number encoding = some (after, record)) :
      Turn host after

variable {host after : Host Action}

/-! ## Numbers -/

theorem isNumbered_empty : (empty : Host Action).IsNumbered :=
  ⟨.nil, fun _ member => (List.not_mem_nil member).elim⟩

/-- A host that gives away more numbers and has the same buffers is numbered. -/
theorem IsNumbered.of_buffers
    (numbered : host.IsNumbered)
    (same : after.buffers.map Buffer.number = host.buffers.map Buffer.number)
    (grows : host.nextId ≤ after.nextId) :
    after.IsNumbered := by
  refine ⟨same ▸ numbered.distinct, fun buffer member => ?_⟩
  have known : buffer.number ∈ host.buffers.map Buffer.number :=
    same ▸ List.mem_map_of_mem member
  obtain ⟨old, isOld, sameNumber⟩ := List.mem_map.mp known
  have below := numbered.below old isOld
  omega

theorem IsNumbered.addBuffer
    (numbered : host.IsNumbered)
    (name text : String) :
    (host.addBuffer name text).2.IsNumbered := by
  constructor
  · simp only [Host.addBuffer, List.map_append, List.map_cons, List.map_nil]
    refine numbered.distinct.append (List.nodup_singleton _) ?_
    intro number known isNext
    obtain ⟨buffer, member, rfl⟩ := List.mem_map.mp known
    have below := numbered.below buffer member
    rw [List.mem_singleton] at isNext
    omega
  · intro buffer member
    simp only [Host.addBuffer, List.mem_append, List.mem_singleton] at member ⊢
    rcases member with old | rfl
    · have below := numbered.below buffer old
      omega
    · exact Int.lt_succ _

theorem IsNumbered.focusOn
    (numbered : host.IsNumbered)
    (number : Int)
    (focus : Bool) :
    (host.focusOn number focus).IsNumbered := by
  cases focus with
  | true => exact ⟨numbered.distinct, numbered.below⟩
  | false => exact numbered

theorem numbers_setText
    (number : Int)
    (text : String) :
    (host.setText number text).buffers.map Buffer.number = host.buffers.map Buffer.number := by
  simp only [Host.setText, List.map_map]
  refine List.map_congr_left fun buffer _ => ?_
  simp only [Function.comp_apply]
  split <;> rfl

theorem IsNumbered.setText
    (numbered : host.IsNumbered)
    (number : Int)
    (text : String) :
    (host.setText number text).IsNumbered :=
  numbered.of_buffers (numbers_setText number text) (Int.le_refl _)

/-! ## Names -/

/-- The buffers of a name, in order. -/
def buffersNamed (host : Host Action) (name : String) : List Buffer :=
  host.buffers.filter fun buffer => buffer.name == name

theorem bufferNamed?_eq_head?
    (host : Host Action)
    (name : String) :
    host.bufferNamed? name = (host.buffersNamed name).head? := by
  rw [bufferNamed?, buffersNamed, List.head?_filter]

theorem mem_of_bufferNamed?
    {name : String}
    {buffer : Buffer}
    (found : host.bufferNamed? name = some buffer) :
    buffer ∈ host.buffers ∧ buffer.name = name :=
  ⟨List.mem_of_find?_eq_some found, by simpa using List.find?_some found⟩

/-- A buffer is found by its number. -/
theorem IsNumbered.buffer?_number
    {buffer : Buffer}
    (numbered : host.IsNumbered)
    (member : buffer ∈ host.buffers) :
    host.buffer? buffer.number = some buffer := by
  cases found : host.buffer? buffer.number with
  | none =>
      have missing := List.find?_eq_none.mp found buffer member
      simp at missing
  | some other =>
      have sameNumber : other.number = buffer.number := by
        simpa using List.find?_some found
      have same := List.inj_on_of_nodup_map numbered.distinct (List.mem_of_find?_eq_some found)
        member sameNumber
      rw [same]

/-! ## Rewriting a document -/

/-- The number of the buffer of a name, and the host with such a buffer; one that is not there yet
is opened with a text. -/
def opened (host : Host Action) (name text : String) : Int × Host Action :=
  match host.bufferNamed? name with
  | some buffer => (buffer.number, host)
  | none => host.addBuffer name text

/-- The buffer of a name when it has been opened with a text. -/
def seat (host : Host Action) (name text : String) : Buffer :=
  (host.bufferNamed? name).getD ⟨host.nextId, name, text⟩

theorem opened_number
    (host : Host Action)
    (name text : String) :
    (host.opened name text).1 = (host.seat name text).number := by
  unfold opened seat
  cases host.bufferNamed? name <;> rfl

theorem opened_buffers
    (host : Host Action)
    (name text : String) :
    (host.opened name text).2.buffers = host.buffers ++
      if (host.bufferNamed? name).isSome then [] else [host.seat name text] := by
  unfold opened seat
  cases host.bufferNamed? name with
  | none => rfl
  | some buffer => simp

theorem IsNumbered.opened
    (numbered : host.IsNumbered)
    (name text : String) :
    (host.opened name text).2.IsNumbered := by
  unfold Host.opened
  split
  · exact numbered
  · exact numbered.addBuffer name text

theorem seat_name
    (host : Host Action)
    (name text : String) :
    (host.seat name text).name = name := by
  unfold seat
  cases found : host.bufferNamed? name with
  | none => rfl
  | some buffer => exact (mem_of_bufferNamed? found).2

theorem bufferNamed?_opened
    (host : Host Action)
    (name text : String) :
    (host.opened name text).2.bufferNamed? name = some (host.seat name text) := by
  have named := host.seat_name name text
  unfold bufferNamed?
  rw [opened_buffers, List.find?_append]
  cases found : host.bufferNamed? name with
  | none =>
      unfold bufferNamed? at found
      simp [found, named]
  | some buffer =>
      have isSeat : host.seat name text = buffer := by simp [seat, found]
      unfold bufferNamed? at found
      simp [found, isSeat]

/-- The host where the document of a name has been opened, if it was not, and has another text. -/
def rewritten (host : Host Action) (name text newText : String) : Host Action :=
  (host.opened name text).2.setText (host.opened name text).1 newText

theorem IsNumbered.rewritten
    (numbered : host.IsNumbered)
    (name text newText : String) :
    (host.rewritten name text newText).IsNumbered :=
  (numbered.opened name text).setText _ newText

theorem bufferNamed?_setText
    (number : Int)
    (text name : String) :
    (host.setText number text).bufferNamed? name = (host.bufferNamed? name).map fun buffer =>
      if buffer.number = number then { buffer with text } else buffer := by
  simp only [bufferNamed?, setText, List.find?_map]
  congr 2
  funext buffer
  simp only [Function.comp_apply]
  split <;> rfl

/-- The rewritten document has its new text. -/
theorem bufferNamed?_rewritten
    (host : Host Action)
    (name text newText : String) :
    (host.rewritten name text newText).bufferNamed? name =
      some { host.seat name text with text := newText } := by
  rw [rewritten, bufferNamed?_setText, bufferNamed?_opened, opened_number]
  simp

/-- Documents of other names stay as they are. -/
theorem IsNumbered.buffersNamed_rewritten
    {name other : String}
    (numbered : host.IsNumbered)
    (text newText : String)
    (apart : other ≠ name) :
    (host.rewritten name text newText).buffersNamed other = host.buffersNamed other := by
  have openedSame : (host.opened name text).2.buffersNamed other = host.buffersNamed other := by
    unfold buffersNamed
    rw [opened_buffers, List.filter_append]
    split
    · simp
    · simp [seat_name, apart.symm]
  have seated := mem_of_bufferNamed? (bufferNamed?_opened host name text)
  have kept : ∀ buffer ∈ (host.opened name text).2.buffersNamed other,
      buffer.number ≠ (host.opened name text).1 := by
    intro buffer member sameNumber
    obtain ⟨known, isOther⟩ := List.mem_filter.mp member
    rw [opened_number] at sameNumber
    have same := List.inj_on_of_nodup_map (numbered.opened name text).distinct known seated.1
      sameNumber
    rw [same, seat_name] at isOther
    exact apart (beq_iff_eq.mp isOther).symm
  rw [← openedSame]
  unfold buffersNamed at kept ⊢
  rw [Host.rewritten, Host.setText, List.filter_map]
  have sameNames : ((fun buffer : Buffer => buffer.name == other) ∘ fun buffer : Buffer =>
      if buffer.number = (host.opened name text).1 then { buffer with text := newText }
      else buffer) = fun buffer => buffer.name == other := by
    funext buffer
    simp only [Function.comp_apply]
    split <;> rfl
  rw [sameNames]
  refine (List.map_congr_left fun buffer member => ?_).trans (List.map_id _)
  exact if_neg (kept buffer member)

/-- The numbers and the names of the buffers, in the order in which they were opened. -/
def seats (host : Host Action) : List (Int × String) :=
  host.buffers.map fun buffer => (buffer.number, buffer.name)

theorem seats_rewritten
    (host : Host Action)
    (name text newText : String) :
    (host.rewritten name text newText).seats = host.seats ++
      if (host.bufferNamed? name).isSome then [] else [(host.nextId, name)] := by
  have sameSeats : (host.rewritten name text newText).seats = (host.opened name text).2.seats := by
    simp only [rewritten, seats, setText, List.map_map]
    refine List.map_congr_left fun buffer _ => ?_
    simp only [Function.comp_apply]
    split <;> rfl
  rw [sameSeats, seats, opened_buffers, List.map_append]
  cases found : host.bufferNamed? name with
  | none => simp [seats, seat, found]
  | some buffer => simp [seats]

/-- Nothing but the buffers changes when a document is rewritten. -/
theorem rewritten_eq
    (host : Host Action)
    (name text newText : String) :
    host.rewritten name text newText = { host with
      buffers := (host.rewritten name text newText).buffers
      nextId := (host.rewritten name text newText).nextId } := by
  unfold rewritten opened
  cases host.bufferNamed? name <;> rfl

end AnalyzerSessions.Host
