import AnalyzerSessions.Session.Lifecycle
import Mathlib.Data.List.Nodup
import Mathlib.Logic.Relation

namespace AnalyzerSessions

/-!
# Ledgers of sessions

A ledger keeps of a desk what the lives of its sessions are about: the sessions
by number, state and commands, which of them are registered, what the transport
was told, and the user commands of the host.  Files, buffers, logs and everything
else at the desk may change without the ledger noticing.

A manager changes its ledger by a few kinds of turns only.  Every invariant of
sessions is a fact about ledgers that each kind of turn keeps.
-/

/-- What the life of one session is about. -/
structure LedgerEntry where
  id : Nat
  name : String
  root : Option Path
  state : SessionState
  trail : List SessionState
  buffers : List Int
  commands : List String
  exitCode : Json

/-- The entry of a session. -/
def Session.entry (session : Session) : LedgerEntry where
  id := session.id
  name := session.name
  root := session.root
  state := session.state
  trail := session.trail
  buffers := session.buffers
  commands := session.commands
  exitCode := session.exitCode

@[simp] theorem Session.entry_id (session : Session) : session.entry.id = session.id :=
  rfl

@[simp] theorem Session.entry_name (session : Session) : session.entry.name = session.name :=
  rfl

@[simp] theorem Session.entry_root (session : Session) : session.entry.root = session.root :=
  rfl

@[simp] theorem Session.entry_state (session : Session) : session.entry.state = session.state :=
  rfl

@[simp] theorem Session.entry_buffers (session : Session) :
    session.entry.buffers = session.buffers :=
  rfl

@[simp] theorem Session.entry_commands (session : Session) :
    session.entry.commands = session.commands :=
  rfl

namespace LedgerEntry

/-- An entry whose session has gone on to another state. -/
def enter (entry : LedgerEntry) (state : SessionState) : LedgerEntry :=
  { entry with state, trail := entry.trail ++ [state] }

/-- An entry whose session has a buffer. -/
def attached (entry : LedgerEntry) (buffer : Int) : LedgerEntry :=
  { entry with buffers :=
      if entry.buffers.contains buffer then entry.buffers else entry.buffers ++ [buffer] }

/-- An entry whose session offers commands. -/
def equipped (entry : LedgerEntry) (names : List String) : LedgerEntry :=
  { entry with commands := names }

/-- An entry whose session serves a server that is initialized. -/
def welcomed (entry : LedgerEntry) : LedgerEntry :=
  (entry.enter .initialized).enter .running

/-- An entry whose session is stopping, whether it was or not. -/
def stopping (entry : LedgerEntry) : LedgerEntry :=
  if entry.state = .stopping then entry else entry.enter .stopping

/-- An entry whose session ended with an exit code. -/
def concluded (entry : LedgerEntry) (code : Json) : LedgerEntry :=
  ({ entry with exitCode := code } : LedgerEntry).stopping.enter .stopped

/-- An entry whose session has left. -/
def departed (entry : LedgerEntry) (code : Json) : LedgerEntry :=
  (entry.equipped []).concluded code

/-- The entry of a session that was just started for a buffer. -/
def starting (id : Nat) (root : Option Path) (buffer : Int) : LedgerEntry where
  id
  name := serverName
  root
  state := .starting
  trail := [.unstarted, .starting]
  buffers := [buffer]
  commands := []
  exitCode := .null

/-- A buffer that was attached is there. -/
theorem mem_attached_buffers
    (entry : LedgerEntry)
    (buffer : Int) :
    buffer ∈ (entry.attached buffer).buffers := by
  unfold attached
  by_cases isAttached : buffer ∈ entry.buffers
  · simp [isAttached]
  · simp [isAttached]

@[simp] theorem stopping_id (entry : LedgerEntry) : entry.stopping.id = entry.id := by
  unfold stopping
  split <;> rfl

@[simp] theorem stopping_name (entry : LedgerEntry) : entry.stopping.name = entry.name := by
  unfold stopping
  split <;> rfl

@[simp] theorem stopping_root (entry : LedgerEntry) : entry.stopping.root = entry.root := by
  unfold stopping
  split <;> rfl

@[simp] theorem stopping_commands (entry : LedgerEntry) :
    entry.stopping.commands = entry.commands := by
  unfold stopping
  split <;> rfl

@[simp] theorem stopping_exitCode (entry : LedgerEntry) :
    entry.stopping.exitCode = entry.exitCode := by
  unfold stopping
  split <;> rfl

@[simp] theorem departed_id (entry : LedgerEntry) (code : Json) :
    (entry.departed code).id = entry.id :=
  stopping_id _

@[simp] theorem departed_name (entry : LedgerEntry) (code : Json) :
    (entry.departed code).name = entry.name :=
  stopping_name _

@[simp] theorem departed_root (entry : LedgerEntry) (code : Json) :
    (entry.departed code).root = entry.root :=
  stopping_root _

@[simp] theorem departed_state (entry : LedgerEntry) (code : Json) :
    (entry.departed code).state = .stopped :=
  rfl

@[simp] theorem departed_commands (entry : LedgerEntry) (code : Json) :
    (entry.departed code).commands = [] :=
  stopping_commands _

@[simp] theorem departed_exitCode (entry : LedgerEntry) (code : Json) :
    (entry.departed code).exitCode = code :=
  stopping_exitCode _

end LedgerEntry

/-- What the lives of the sessions of a desk are about. -/
structure Ledger where
  entries : List LedgerEntry
  /-- The numbers of the registered sessions. -/
  listed : List Nat
  nextId : Nat
  orders : List Order
  hostCommands : List (UserCommand Action)
  bindings : List CommandBinding

/-- The ledger of a desk. -/
def Desk.ledger (desk : Desk) : Ledger where
  entries := desk.registry.sessions.map Session.entry
  listed := desk.registry.listed
  nextId := desk.nextSession
  orders := desk.orders
  hostCommands := desk.host.commands
  bindings := desk.setup.bindings

namespace Ledger

/-- The names of the commands that belong to the sessions. -/
def names (ledger : Ledger) : List String :=
  ledger.bindings.map CommandBinding.name

/-- The user commands of the host that are not named like those of the sessions. -/
def foreign (ledger : Ledger) : List (UserCommand Action) :=
  ledger.hostCommands.filter fun command => !ledger.names.contains command.name

/-- The user commands of the host that are named like those of the sessions. -/
def own (ledger : Ledger) : List (UserCommand Action) :=
  ledger.hostCommands.filter fun command => ledger.names.contains command.name

/-- Change the entries with a number. -/
def change (ledger : Ledger) (id : Nat) (revise : LedgerEntry → LedgerEntry) : Ledger :=
  { ledger with entries := ledger.entries.map fun entry =>
      if entry.id = id then revise entry else entry }

/-- Enter a session for a root and a buffer. -/
def enroll (ledger : Ledger) (root : Option Path) (buffer : Int) : Ledger :=
  { ledger with
    entries := ledger.entries ++ [.starting ledger.nextId root buffer]
    listed := ledger.listed ++ [ledger.nextId]
    nextId := ledger.nextId + 1 }

/-- Tell the transport what to do. -/
def tell (ledger : Ledger) (order : Order) : Ledger :=
  { ledger with orders := ledger.orders ++ [order] }

/-- User commands after those of the sessions were created. -/
def offered (bindings : List CommandBinding) (commands : List (UserCommand Action)) :
    List (UserCommand Action) :=
  bindings.foldl (fun done binding =>
    Host.putCommand ⟨binding.name, .leaf binding, binding.arity, binding.complete⟩ done) commands

/-- Let a session offer the commands. -/
def equip (ledger : Ledger) (id : Nat) : Ledger :=
  { ledger.change id (·.equipped ledger.names) with
    hostCommands := offered ledger.bindings ledger.hostCommands }

/-- The other registered sessions that offer commands. -/
def others (ledger : Ledger) (id : Nat) : List LedgerEntry :=
  ledger.entries.filter fun other =>
    ledger.listed.contains other.id && other.state.isActive && other.name == serverName &&
      other.id != id && !other.commands.isEmpty

/-- The user commands that stay when a session leaves. -/
def remaining (ledger : Ledger) (entry : LedgerEntry) : List (UserCommand Action) :=
  if ledger.others entry.id = [] then
    ledger.hostCommands.filter fun command => !entry.commands.contains command.name
  else ledger.hostCommands

/-- Take a session out of the registry. -/
def unlist (ledger : Ledger) (id : Nat) : Ledger :=
  { ledger with listed := ledger.listed.filter (· != id) }

/-- Let a session leave. -/
def leave (ledger : Ledger) (entry : LedgerEntry) (code : Json) : Ledger :=
  { (ledger.change entry.id (·.departed code)).unlist entry.id with
    hostCommands := ledger.remaining entry }

/-- Whether a start finds the session of an entry. -/
def IsServing (ledger : Ledger) (entry : LedgerEntry) : Prop :=
  entry.id ∈ ledger.listed ∧ entry.name = serverName ∧ entry.state.isServing

/-- The numbers of the sessions. -/
def ids (ledger : Ledger) : List Nat :=
  ledger.entries.map LedgerEntry.id

/-- Every session has a number of its own that was given out and is listed at most once, and only
servers of sessions are launched. -/
structure Numbered (ledger : Ledger) : Prop where
  distinct : ledger.ids.Nodup
  below : ∀ id ∈ ledger.ids, id < ledger.nextId
  listedDistinct : ledger.listed.Nodup
  listedKnown : ∀ id ∈ ledger.listed, id ∈ ledger.ids
  launchedKnown : ∀ id, .launch id ∈ ledger.orders → id ∈ ledger.ids

/-- What a manager does with its ledger, apart from letting a session leave. -/
inductive Turn (ledger : Ledger) : Ledger → Prop where
  /-- A session is entered for a root that no session serves. -/
  | enroll
      (root : Option Path)
      (buffer : Int)
      (vacant : ∀ entry ∈ ledger.entries, ledger.IsServing entry → entry.root ≠ root) :
      Turn ledger (ledger.enroll root buffer)
  /-- A session takes on a buffer. -/
  | attach
      (entry : LedgerEntry)
      (known : entry ∈ ledger.entries)
      (buffer : Int) :
      Turn ledger (ledger.change entry.id (·.attached buffer))
  /-- The server of a session is launched. -/
  | launch
      (entry : LedgerEntry)
      (known : entry ∈ ledger.entries) :
      Turn ledger (ledger.tell (.launch entry.id))
  /-- A session that is not being stopped is to stop. -/
  | halt
      (entry : LedgerEntry)
      (known : entry ∈ ledger.entries)
      (active : entry.state.isActive)
      (moving : entry.state ≠ .stopping) :
      Turn ledger ((ledger.change entry.id (·.enter .stopping)).tell (.terminate entry.id))
  /-- A starting session offers the commands. -/
  | equip
      (entry : LedgerEntry)
      (known : entry ∈ ledger.entries)
      (starting : entry.state = .starting) :
      Turn ledger (ledger.equip entry.id)
  /-- A starting session that offers the commands is welcomed. -/
  | welcome
      (entry : LedgerEntry)
      (known : entry ∈ ledger.entries)
      (starting : entry.state = .starting)
      (equipped : entry.commands = ledger.names) :
      Turn ledger (ledger.change entry.id LedgerEntry.welcomed)

/-- Any number of turns, one after the other. -/
abbrev Turns : Ledger → Ledger → Prop :=
  Relation.ReflTransGen Turn

/-- Ledgers that differ at most in user commands other than those of the sessions. -/
structure Undisturbed (before after : Ledger) : Prop where
  same : after = { before with hostCommands := after.hostCommands }
  own : after.own = before.own

/-- The number of an entry is one of the numbers of the sessions. -/
theorem id_mem_ids
    {ledger : Ledger}
    {entry : LedgerEntry}
    (member : entry ∈ ledger.entries) :
    entry.id ∈ ledger.ids :=
  List.mem_map_of_mem member

/-- The entry with a number is the only one of that number. -/
theorem Numbered.eq_of_id_eq
    {ledger : Ledger}
    (numbered : ledger.Numbered)
    {first second : LedgerEntry}
    (firstMember : first ∈ ledger.entries)
    (secondMember : second ∈ ledger.entries)
    (sameId : first.id = second.id) :
    first = second :=
  List.inj_on_of_nodup_map numbered.distinct firstMember secondMember sameId

/-- The next number is not that of an entry. -/
theorem Numbered.id_ne_nextId
    {ledger : Ledger}
    (numbered : ledger.Numbered)
    {entry : LedgerEntry}
    (member : entry ∈ ledger.entries) :
    entry.id ≠ ledger.nextId :=
  Nat.ne_of_lt (numbered.below entry.id (id_mem_ids member))

/-- The next number is not listed. -/
theorem Numbered.nextId_not_listed
    {ledger : Ledger}
    (numbered : ledger.Numbered) :
    ledger.nextId ∉ ledger.listed :=
  fun listed => Nat.lt_irrefl _ (numbered.below _ (numbered.listedKnown _ listed))

/-- Two changes of the same entries are one. -/
theorem change_change
    {ledger : Ledger}
    {id : Nat}
    {first second : LedgerEntry → LedgerEntry}
    (sameId : ∀ entry, (first entry).id = entry.id) :
    (ledger.change id first).change id second =
      ledger.change id fun entry => second (first entry) := by
  simp only [change, List.map_map, mk.injEq, and_true]
  apply List.map_congr_left
  intro entry _
  by_cases changed : entry.id = id
  · simp [changed, sameId]
  · simp [changed]

/-- Changes that agree on the entries with a number are the same. -/
theorem change_congr
    {ledger : Ledger}
    {id : Nat}
    {first second : LedgerEntry → LedgerEntry}
    (agree : ∀ entry ∈ ledger.entries, entry.id = id → first entry = second entry) :
    ledger.change id first = ledger.change id second := by
  simp only [change, mk.injEq, and_true]
  apply List.map_congr_left
  intro entry member
  by_cases changed : entry.id = id
  · simp [changed, agree entry member changed]
  · simp [changed]

/-- A change that leaves the entries with a number alone is none. -/
theorem change_eq_self
    {ledger : Ledger}
    {id : Nat}
    {revise : LedgerEntry → LedgerEntry}
    (same : ∀ entry ∈ ledger.entries, entry.id = id → revise entry = entry) :
    ledger.change id revise = ledger := by
  have entriesSame :
      (ledger.entries.map fun entry => if entry.id = id then revise entry else entry) =
        ledger.entries.map fun entry => entry := by
    apply List.map_congr_left
    intro entry member
    by_cases changed : entry.id = id
    · simp [changed, same entry member changed]
    · simp [changed]
  rw [List.map_id'] at entriesSame
  unfold change
  rw [entriesSame]

end Ledger

end AnalyzerSessions
