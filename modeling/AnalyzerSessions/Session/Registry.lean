import AnalyzerSessions.Session.Basic

namespace AnalyzerSessions

/-!
# Session registry

All sessions by their number, and the list of those that are registered, in the
order of registration.  The registry is an index: it does not keep two sessions
from sharing a root.
-/

/-- The sessions that exist and the numbers of those that are registered. -/
structure Registry where
  sessions : List Session
  listed : List Nat

namespace Registry

/-- No sessions. -/
def empty : Registry := ⟨[], []⟩

/-- The session with a number. -/
def get? (registry : Registry) (id : Nat) : Option Session :=
  registry.sessions.find? fun session => session.id == id

/-- Add a session without registering it. -/
def add (registry : Registry) (session : Session) : Registry :=
  { registry with sessions := registry.sessions ++ [session] }

/-- Change the session with a number. -/
def modify (registry : Registry) (id : Nat) (change : Session → Session) : Registry :=
  { registry with sessions := registry.sessions.map fun session =>
      if session.id = id then change session else session }

/-- Whether a session is registered. -/
def contains (registry : Registry) (id : Nat) : Bool :=
  registry.listed.contains id

/-- Register a session at the end, unless it is registered. -/
def register (registry : Registry) (id : Nat) : Registry :=
  if registry.contains id then registry else { registry with listed := registry.listed ++ [id] }

/-- Take a session out. -/
def unregister (registry : Registry) (id : Nat) : Registry :=
  { registry with listed := registry.listed.filter (· != id) }

/-- The registered sessions in order of registration. -/
def registered (registry : Registry) : List Session :=
  registry.listed.filterMap registry.get?

/-- Whether a session fits a name and a buffer, where these are given. -/
def fits (name : Option String) (buffer : Option Int) (session : Session) : Bool :=
  (name.all fun wanted => session.name == wanted) &&
    (buffer.all fun wanted => session.buffers.contains wanted)

/-- The active sessions with a name and a buffer, where these are given. -/
def active (registry : Registry) (name : Option String) (buffer : Option Int) : List Session :=
  registry.registered.filter fun session => session.state.isActive && fits name buffer session

/-- The active sessions that are not being stopped. -/
def serving (registry : Registry) (name : Option String) : List Session :=
  (registry.active name none).filter fun session => session.state.isServing

/-- The serving session that was registered last. -/
def latest? (registry : Registry) (name : Option String) : Option Session :=
  (registry.serving name).getLast?

/-- The serving session with a root that was registered last. -/
def find? (registry : Registry) (name : String) (root : Option Path) : Option Session :=
  (registry.serving (some name)).reverse.find? fun session => session.root == root

/-- The record of a registration. -/
def registeredRecord (session : Session) : Record :=
  ⟨.debug, "Registered session " ++ toString session.id ++ " (" ++ session.name ++ ") at " ++
    Session.rootText session.root⟩

/-- The record of a session's leaving. -/
def unregisteredRecord (session : Session) : Record :=
  ⟨.debug, "Unregistered session " ++ toString session.id ++ " (" ++ session.name ++ ")"⟩

end Registry

end AnalyzerSessions
