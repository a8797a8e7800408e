import AnalyzerSessions.Proofs.SessionAspects
import Mathlib.Order.Bounds.Defs

namespace AnalyzerSessions

/-!
# Histories of a registry

A registry lists the sessions that have been registered since their last unregistration,
each once, by the first registration since then: a session that is registered again keeps its
place, and one that comes back is put behind all others.  What is looked up are these
sessions as they are by then, in this order: the active ones of a name and a buffer, and the
last one that serves.

A history holds whatever happens to sessions and to the registry, in any order.
-/

namespace Registry

/-- Something that happens to a session or to the registry. -/
inductive Occurrence where
  | created (session : Session)
  | registered (id : Nat)
  | unregistered (id : Nat)
  | changed (id : Nat) (change : Session → Session)

namespace Occurrence

/-- A session moves to another state. -/
def moved (id : Nat) (state : SessionState) : Occurrence :=
  .changed id fun session => (session.transition state).1

/-- A buffer is attached to a session. -/
def attached (id : Nat) (buffer : Int) : Occurrence :=
  .changed id fun session => session.attach buffer

/-- A new session has a number of its own, which it keeps, and only a session is registered. -/
def IsPossible (registry : Registry) : Occurrence → Prop
  | .created session => registry.get? session.id = none
  | .registered id => (registry.get? id).isSome
  | .unregistered _ => True
  | .changed _ change => ∀ session, (change session).id = session.id

/-- The registry after something has happened. -/
def after (registry : Registry) : Occurrence → Registry
  | .created session => registry.add session
  | .registered id => registry.register id
  | .unregistered id => registry.unregister id
  | .changed id change => registry.modify id change

/-- What becomes of the session with a number. -/
def follow (id : Nat) (found : Option Session) : Occurrence → Option Session
  | .created session => if session.id = id then some session else found
  | .registered _ => found
  | .unregistered _ => found
  | .changed other change => if other = id then found.map change else found

end Occurrence

/-- What a history makes of the session with a number. -/
def sessionAfter (history : List Occurrence) (id : Nat) : Option Session :=
  history.foldl (Occurrence.follow id) none

/-- A session is registered at a place of a history and not unregistered behind it. -/
structure StaysFrom (history : List Occurrence) (id place : Nat) : Prop where
  registers : history[place]? = some (.registered id)
  stays : ∀ later > place, history[later]? ≠ some (.unregistered id)

/-- The registration of a session that counts: the first one since its last unregistration. -/
def JoinsAt (history : List Occurrence) (id place : Nat) : Prop :=
  IsLeast {place | StaysFrom history id place} place

end Registry

open Registry

/-- A registry that a history may leave. -/
inductive RegistryRun : List Occurrence → Registry → Prop where
  | begin :
      RegistryRun [] Registry.empty
  | next
      {history : List Occurrence}
      {registry : Registry}
      (earlier : RegistryRun history registry)
      (occurrence : Occurrence)
      (possible : occurrence.IsPossible registry) :
      RegistryRun (history ++ [occurrence]) (occurrence.after registry)

namespace Registry

/-! ## The list of the registered -/

variable {history : List Occurrence} {occurrence : Occurrence} {id place : Nat}

theorem StaysFrom.lt (stays : StaysFrom history id place) : place < history.length :=
  (List.getElem?_eq_some_iff.mp stays.registers).1

/-- What a history with one more occurrence holds at a place. -/
theorem getElem?_append_singleton_iff
    {other : Occurrence} :
    (history ++ [occurrence])[place]? = some other ↔
      history[place]? = some other ∨ (place = history.length ∧ occurrence = other) := by
  rcases Nat.lt_trichotomy place history.length with isEarlier | isHere | isBehind
  · have notHere : place ≠ history.length := Nat.ne_of_lt isEarlier
    simp [List.getElem?_append_left isEarlier, notHere]
  · simp [isHere]
  · have notHere : place ≠ history.length := Nat.ne_of_gt isBehind
    have noneHere : history.length ≤ place := Nat.le_of_lt isBehind
    have noneThere : (history ++ [occurrence]).length ≤ place := by
      rw [List.length_append]
      exact isBehind
    simp only [List.getElem?_eq_none noneHere, List.getElem?_eq_none noneThere, notHere,
      reduceCtorEq, false_and, or_self]

/-- A session stays registered until it is unregistered, and from its last registration on. -/
theorem staysFrom_append_iff :
    StaysFrom (history ++ [occurrence]) id place ↔
      (StaysFrom history id place ∧ occurrence ≠ .unregistered id) ∨
        (place = history.length ∧ occurrence = .registered id) := by
  constructor
  · rintro ⟨registers, stays⟩
    rcases getElem?_append_singleton_iff.mp registers with registers | isLast
    · have within := (List.getElem?_eq_some_iff.mp registers).1
      refine .inl ⟨⟨registers, fun later isLater leaves => ?_⟩, fun leaves => ?_⟩
      · exact stays later isLater (getElem?_append_singleton_iff.mpr (.inl leaves))
      · exact stays _ within (getElem?_append_singleton_iff.mpr (.inr ⟨rfl, leaves⟩))
    · exact .inr isLast
  · rintro (⟨earlier, remains⟩ | ⟨rfl, rfl⟩)
    · refine ⟨getElem?_append_singleton_iff.mpr (.inl earlier.registers), ?_⟩
      intro later isLater leaves
      rcases getElem?_append_singleton_iff.mp leaves with leaves | ⟨_, leaves⟩
      · exact earlier.stays later isLater leaves
      · exact remains leaves
    · refine ⟨getElem?_append_singleton_iff.mpr (.inr ⟨rfl, rfl⟩), ?_⟩
      intro later isLater leaves
      rcases getElem?_append_singleton_iff.mp leaves with leaves | ⟨isLast, _⟩
      · have within := (List.getElem?_eq_some_iff.mp leaves).1
        exact absurd isLater (Nat.lt_asymm within)
      · exact absurd isLast (Nat.ne_of_gt isLater)

/-- Being registered again does not change which registration counts. -/
theorem JoinsAt.of_append
    {earlier : Nat}
    (joins : JoinsAt (history ++ [occurrence]) id place)
    (known : StaysFrom history id earlier)
    (remains : occurrence ≠ .unregistered id) :
    JoinsAt history id place := by
  have still : ∀ {other}, StaysFrom history id other → StaysFrom (history ++ [occurrence]) id other :=
    fun stays => staysFrom_append_iff.mpr (.inl ⟨stays, remains⟩)
  refine ⟨?_, fun other stays => joins.2 (still stays)⟩
  rcases staysFrom_append_iff.mp joins.1 with ⟨stays, _⟩ | ⟨rfl, _⟩
  · exact stays
  · exact absurd (joins.2 (still known)) (Nat.not_le.mpr known.lt)

/-- The listed sessions are those that have stayed registered, by the registration that counts. -/
structure ListsJoined (history : List Occurrence) (listed : List Nat) : Prop where
  once : listed.Nodup
  members : ∀ id, id ∈ listed ↔ ∃ place, StaysFrom history id place
  ordered : listed.Pairwise fun earlier later =>
    ∀ place other, JoinsAt history earlier place → JoinsAt history later other → place < other

theorem listsJoined_nil : ListsJoined [] [] where
  once := .nil
  members id := by
    refine ⟨fun member => absurd member List.not_mem_nil, ?_⟩
    rintro ⟨place, stays⟩
    exact absurd stays.lt (Nat.not_lt_zero place)
  ordered := .nil

namespace ListsJoined

variable {listed : List Nat}

/-- Those of the listed sessions that stay are in the same order. -/
theorem ordered_of_sublist
    {kept : List Nat}
    (lists : ListsJoined history listed)
    (isKept : kept.Sublist listed)
    (remains : ∀ id ∈ kept, occurrence ≠ .unregistered id) :
    kept.Pairwise fun earlier later => ∀ place other,
      JoinsAt (history ++ [occurrence]) earlier place →
        JoinsAt (history ++ [occurrence]) later other → place < other := by
  have joined : ∀ {id place}, id ∈ kept → JoinsAt (history ++ [occurrence]) id place →
      JoinsAt history id place := by
    intro id place member joins
    obtain ⟨earlier, stays⟩ := (lists.members id).mp (isKept.subset member)
    exact joins.of_append stays (remains id member)
  refine (lists.ordered.sublist isKept).imp_of_mem ?_
  intro first second hasFirst hasSecond inOrder place other joins joinsLater
  exact inOrder place other (joined hasFirst joins) (joined hasSecond joinsLater)

/-- What is neither a registration nor an unregistration leaves the list as it is. -/
theorem other
    (lists : ListsJoined history listed)
    (noEntry : ∀ id, occurrence ≠ .registered id)
    (noLeave : ∀ id, occurrence ≠ .unregistered id) :
    ListsJoined (history ++ [occurrence]) listed where
  once := lists.once
  members id := by
    simp only [lists.members, staysFrom_append_iff, noEntry id, noLeave id, ne_eq,
      not_false_eq_true, and_true, and_false, or_false]
  ordered := lists.ordered_of_sublist (List.Sublist.refl _) fun id _ => noLeave id

theorem unregistered
    (lists : ListsJoined history listed)
    (left : Nat) :
    ListsJoined (history ++ [.unregistered left]) (listed.filter (· != left)) where
  once := lists.once.filter _
  members id := by
    have differs : Occurrence.unregistered left ≠ .unregistered id ↔ id ≠ left := by
      rw [ne_eq, Occurrence.unregistered.injEq, ne_comm]
    simp only [List.mem_filter, lists.members, staysFrom_append_iff, differs, reduceCtorEq,
      and_false, or_false, exists_and_right, bne_iff_ne]
  ordered := by
    refine lists.ordered_of_sublist List.filter_sublist fun id member => ?_
    rintro ⟨⟩
    simp at member

theorem registered_again
    (lists : ListsJoined history listed)
    (member : id ∈ listed) :
    ListsJoined (history ++ [.registered id]) listed where
  once := lists.once
  members other := by
    rw [lists.members]
    constructor
    · rintro ⟨place, stays⟩
      exact ⟨place, staysFrom_append_iff.mpr (.inl ⟨stays, nofun⟩)⟩
    · rintro ⟨place, stays⟩
      rcases staysFrom_append_iff.mp stays with ⟨stays, _⟩ | ⟨_, same⟩
      · exact ⟨place, stays⟩
      · cases same
        exact (lists.members id).mp member
  ordered := lists.ordered_of_sublist (List.Sublist.refl _) fun _ _ => nofun

theorem registered_anew
    (lists : ListsJoined history listed)
    (absent : id ∉ listed) :
    ListsJoined (history ++ [.registered id]) (listed ++ [id]) where
  once := List.nodup_append'.mpr ⟨lists.once, List.nodup_singleton id, by simpa using absent⟩
  members other := by
    rw [List.mem_append, List.mem_singleton, lists.members]
    constructor
    · rintro (⟨place, stays⟩ | rfl)
      · exact ⟨place, staysFrom_append_iff.mpr (.inl ⟨stays, nofun⟩)⟩
      · exact ⟨history.length, staysFrom_append_iff.mpr (.inr ⟨rfl, rfl⟩)⟩
    · rintro ⟨place, stays⟩
      rcases staysFrom_append_iff.mp stays with ⟨stays, _⟩ | ⟨_, same⟩
      · exact .inl ⟨place, stays⟩
      · cases same
        exact .inr rfl
  ordered := by
    refine List.pairwise_append.mpr
      ⟨lists.ordered_of_sublist (List.Sublist.refl _) fun _ _ => nofun,
        List.pairwise_singleton _ _, ?_⟩
    rintro earlier member later isNew place other joins joinsLater
    cases List.mem_singleton.mp isNew
    obtain ⟨known, stays⟩ := (lists.members earlier).mp member
    have before := (joins.of_append stays nofun).1.lt
    rcases staysFrom_append_iff.mp joinsLater.1 with ⟨wasListed, _⟩ | ⟨isLast, _⟩
    · exact absurd ((lists.members id).mpr ⟨other, wasListed⟩) absent
    · rwa [isLast]

end ListsJoined

/-! ## Sessions as they are by now -/

variable {registry : Registry}

theorem get?_unregister
    (registry : Registry)
    (left : Nat) :
    (registry.unregister left).get? id = registry.get? id :=
  rfl

theorem sessionAfter_append :
    sessionAfter (history ++ [occurrence]) id = occurrence.follow id (sessionAfter history id) := by
  rw [sessionAfter, List.foldl_append]
  rfl

/-- Every session is found as it has become. -/
theorem Occurrence.IsPossible.get?_after
    (possible : occurrence.IsPossible registry)
    (id : Nat) :
    (occurrence.after registry).get? id = occurrence.follow id (registry.get? id) := by
  cases occurrence with
  | created session =>
      rw [after, get?_add, follow]
      by_cases isNew : session.id = id
      · have vacant : registry.get? id = none := isNew ▸ possible
        rw [if_pos isNew, if_pos isNew, vacant, Option.none_or]
      · rw [if_neg isNew, if_neg isNew, Option.or_none]
  | registered other =>
      exact get?_register registry other id
  | unregistered other =>
      exact get?_unregister registry other
  | changed other change =>
      rw [after, get?_modify_any registry other id possible, follow]
      cases found : registry.get? id with
      | none =>
          simp
      | some session =>
          have sameId : session.id = id := id_of_get? found
          by_cases isMeant : other = id
          · simp [isMeant, sameId]
          · simp [isMeant, sameId, Ne.symm isMeant]

/-! ## Looking up -/

/-- A session may be looked up for work: it is starting, set up or running, and has the name that is
asked for. -/
structure Serves (name : Option String) (session : Session) : Prop where
  serves : session.state = .starting ∨ session.state = .initialized ∨ session.state = .running
  named : ∀ wanted, name = some wanted → session.name = wanted

/-- A session is active and has the name and the buffer that are asked for. -/
structure IsActive (name : Option String) (buffer : Option Int) (session : Session) : Prop where
  active : session.state ≠ .unstarted ∧ session.state ≠ .stopped
  named : ∀ wanted, name = some wanted → session.name = wanted
  attached : ∀ wanted, buffer = some wanted → wanted ∈ session.buffers

/-- The last one of some sessions that fits. -/
def IsLast (sessions : List Session) (fits : Session → Prop) (session : Session) : Prop :=
  fits session ∧ ∃ earlier later, sessions = earlier ++ session :: later ∧
    ∀ other ∈ later, ¬fits other

theorem IsLast.narrow
    {sessions : List Session}
    {fits narrower : Session → Prop}
    {session : Session}
    (last : IsLast sessions fits session)
    (isNarrower : ∀ other, narrower other → fits other)
    (isFit : narrower session) :
    IsLast sessions narrower session := by
  obtain ⟨_, earlier, later, split, noneLater⟩ := last
  exact ⟨isFit, earlier, later, split, fun other isLater isOther =>
    noneLater other isLater (isNarrower other isOther)⟩

section

variable {sessions : List Session} {test : Session → Bool} {fits : Session → Prop}
  (tests : ∀ session, test session = true ↔ fits session)

include tests

theorem find?_reverse_eq_some_iff
    {session : Session} :
    sessions.reverse.find? test = some session ↔ IsLast sessions fits session := by
  rw [List.find?_eq_some_iff_append, IsLast, tests]
  refine and_congr_right fun _ => ?_
  constructor
  · rintro ⟨later, earlier, split, noneLater⟩
    refine ⟨earlier.reverse, later.reverse, ?_, fun other isLater isFit => ?_⟩
    · rw [← List.reverse_reverse sessions, split]
      simp
    · have unfit := noneLater other (List.mem_reverse.mp isLater)
      rw [(tests other).mpr isFit] at unfit
      cases unfit
  · rintro ⟨earlier, later, rfl, noneLater⟩
    refine ⟨later.reverse, earlier.reverse, by simp, fun other isLater => ?_⟩
    have unfit := mt (tests other).mp (noneLater other (List.mem_reverse.mp isLater))
    simpa using unfit

theorem find?_reverse_eq_none_iff :
    sessions.reverse.find? test = none ↔ ∀ session ∈ sessions, ¬fits session := by
  rw [List.find?_eq_none]
  simp only [List.mem_reverse, tests]

end

/-- The test of serving sessions, which looks at their states twice. -/
def servesTest (name : Option String) (session : Session) : Bool :=
  session.state.isServing && (session.state.isActive && fits name none session)

theorem servesTest_iff
    {name : Option String}
    (session : Session) :
    servesTest name session = true ↔ Serves name session := by
  have isState : (session.state.isServing && session.state.isActive) = true ↔
      session.state = .starting ∨ session.state = .initialized ∨ session.state = .running := by
    cases session.state <;> decide
  have isNamed : fits name none session = true ↔ ∀ wanted, name = some wanted →
      session.name = wanted := by
    cases name <;> simp [fits]
  rw [servesTest, ← Bool.and_assoc, Bool.and_eq_true, isState, isNamed]
  exact ⟨fun serves => ⟨serves.1, serves.2⟩, fun serves => ⟨serves.1, serves.2⟩⟩

theorem serving_eq_filter_servesTest
    (registry : Registry)
    (name : Option String) :
    registry.serving name = registry.registered.filter (servesTest name) := by
  rw [serving, active, List.filter_filter]
  rfl

theorem latest?_eq_find?
    (registry : Registry)
    (name : Option String) :
    registry.latest? name = registry.registered.reverse.find? (servesTest name) := by
  rw [latest?, serving_eq_filter_servesTest, List.getLast?_eq_head?_reverse,
    ← List.filter_reverse, List.head?_filter]

theorem latest?_eq_some_iff
    {name : Option String}
    {session : Session} :
    registry.latest? name = some session ↔ IsLast registry.registered (Serves name) session := by
  rw [latest?_eq_find?, find?_reverse_eq_some_iff servesTest_iff]

/-- The test of serving sessions with a root. -/
def rootedTest (name : String) (root : Option Path) (session : Session) : Bool :=
  servesTest (some name) session && session.root == root

theorem rootedTest_iff
    {name : String}
    {root : Option Path}
    (session : Session) :
    rootedTest name root session = true ↔ Serves (some name) session ∧ session.root = root := by
  rw [rootedTest, Bool.and_eq_true, servesTest_iff, beq_iff_eq]

theorem find?_eq_find?
    (registry : Registry)
    (name : String)
    (root : Option Path) :
    registry.find? name root = registry.registered.reverse.find? (rootedTest name root) := by
  rw [find?, serving_eq_filter_servesTest, ← List.filter_reverse, List.find?_filter]
  congr 1
  funext session
  rw [rootedTest, Bool.decide_and, Bool.decide_eq_true, Bool.decide_eq_true]

theorem find?_eq_some_iff
    {name : String}
    {root : Option Path}
    {session : Session} :
    registry.find? name root = some session ↔
      IsLast registry.registered (fun other => Serves (some name) other ∧ other.root = root)
        session := by
  rw [find?_eq_find?, find?_reverse_eq_some_iff rootedTest_iff]

/-- The root of the latest session leads back to it. -/
theorem find?_of_latest?
    {name : String}
    {session : Session}
    (latest : registry.latest? (some name) = some session) :
    registry.find? name session.root = some session := by
  rw [latest?_eq_some_iff] at latest
  exact find?_eq_some_iff.mpr (latest.narrow (fun _ found => found.1) ⟨latest.1, rfl⟩)

theorem mem_active_iff
    {name : Option String}
    {buffer : Option Int}
    {session : Session} :
    session ∈ registry.active name buffer ↔
      session ∈ registry.registered ∧ IsActive name buffer session := by
  have isState : session.state.isActive = true ↔
      session.state ≠ .unstarted ∧ session.state ≠ .stopped := by
    cases session.state <;> decide
  have isFit : fits name buffer session = true ↔
      (∀ wanted, name = some wanted → session.name = wanted) ∧
        ∀ wanted, buffer = some wanted → wanted ∈ session.buffers := by
    cases name <;> cases buffer <;> simp [fits]
  rw [active, List.mem_filter, Bool.and_eq_true, isState, isFit]
  refine and_congr_right fun _ => ⟨fun fits => ?_, fun active => ?_⟩
  · exact ⟨fits.1, fits.2.1, fits.2.2⟩
  · exact ⟨active.active, active.named, active.attached⟩

/-- A registry holds and finds what its history says. -/
structure MatchesHistory (history : List Occurrence) (registry : Registry) : Prop where
  lists : ListsJoined history registry.listed
  ids : registry.registered.map Session.id = registry.listed
  current : ∀ session ∈ registry.registered, sessionAfter history session.id = some session
  active : ∀ name buffer, (registry.active name buffer).Sublist registry.registered ∧
    ∀ session, session ∈ registry.active name buffer ↔
      session ∈ registry.registered ∧ IsActive name buffer session
  latest : ∀ name session, registry.latest? name = some session ↔
    IsLast registry.registered (Serves name) session
  noLatest : ∀ name, registry.latest? name = none ↔
    ∀ session ∈ registry.registered, ¬Serves name session
  found : ∀ name root session, registry.find? name root = some session ↔
    IsLast registry.registered (fun other => Serves (some name) other ∧ other.root = root) session
  noneFound : ∀ name root, registry.find? name root = none ↔
    ∀ session ∈ registry.registered, ¬(Serves (some name) session ∧ session.root = root)
  /-- The root of the latest session leads back to it. -/
  again : ∀ name session, registry.latest? (some name) = some session →
    registry.find? name session.root = some session

/-! ## Runs of a registry -/

theorem registered_map_id
    (known : ∀ id ∈ registry.listed, (registry.get? id).isSome) :
    registry.registered.map Session.id = registry.listed := by
  unfold registered
  generalize registry.listed = listed at known
  induction listed with
  | nil =>
      rfl
  | cons id rest inductionHypothesis =>
      rw [List.forall_mem_cons] at known
      obtain ⟨session, found⟩ := Option.isSome_iff_exists.mp known.1
      have sameId : session.id = id := id_of_get? found
      rw [List.filterMap_cons_some found, List.map_cons, sameId, inductionHypothesis known.2]

theorem listed_register
    (registry : Registry)
    (id : Nat) :
    (registry.register id).listed =
      if id ∈ registry.listed then registry.listed else registry.listed ++ [id] := by
  unfold register contains
  by_cases listed : id ∈ registry.listed
  · rw [if_pos (List.contains_iff_mem.mpr listed), if_pos listed]
  · rw [if_neg (mt List.contains_iff_mem.mp listed), if_neg listed]

theorem ListsJoined.after
    (lists : ListsJoined history registry.listed)
    (occurrence : Occurrence) :
    ListsJoined (history ++ [occurrence]) (occurrence.after registry).listed := by
  cases occurrence with
  | created session =>
      exact lists.other nofun nofun
  | registered id =>
      show ListsJoined _ (registry.register id).listed
      rw [listed_register]
      split
      · rename_i listed
        exact lists.registered_again listed
      · rename_i absent
        exact lists.registered_anew absent
  | unregistered id =>
      exact lists.unregistered id
  | changed id change =>
      exact lists.other nofun nofun

theorem Occurrence.isSome_follow
    (occurrence : Occurrence)
    {found : Option Session}
    (isThere : found.isSome) :
    (occurrence.follow id found).isSome := by
  cases occurrence with
  | created session =>
      rw [follow]
      split
      · rfl
      · exact isThere
  | registered other => exact isThere
  | unregistered other => exact isThere
  | changed other change =>
      rw [follow]
      split
      · rwa [Option.isSome_map]
      · exact isThere

/-- Every listed number belongs to a session. -/
def IsKnown (registry : Registry) : Prop :=
  ∀ id ∈ registry.listed, (registry.get? id).isSome

theorem IsKnown.after
    (known : registry.IsKnown)
    (possible : occurrence.IsPossible registry) :
    (occurrence.after registry).IsKnown := by
  intro id member
  rw [possible.get?_after]
  refine occurrence.isSome_follow ?_
  cases occurrence with
  | created session => exact known id member
  | registered other =>
      have member : id ∈ (registry.register other).listed := member
      rw [listed_register] at member
      split at member
      · exact known id member
      · rcases List.mem_append.mp member with listed | isNew
        · exact known id listed
        · rw [List.mem_singleton.mp isNew]
          exact possible
  | unregistered other => exact known id (List.mem_of_mem_filter member)
  | changed other change => exact known id member

end Registry

namespace RegistryRun

variable {history : List Occurrence} {registry : Registry}

theorem listsJoined (run : RegistryRun history registry) : ListsJoined history registry.listed := by
  induction run with
  | begin => exact listsJoined_nil
  | next _ occurrence _ inductionHypothesis => exact inductionHypothesis.after occurrence

theorem isKnown (run : RegistryRun history registry) : registry.IsKnown := by
  induction run with
  | begin => exact fun _ member => absurd member List.not_mem_nil
  | next _ _ possible inductionHypothesis => exact inductionHypothesis.after possible

/-- Every session is found as its history has made it. -/
theorem get?_eq
    (run : RegistryRun history registry)
    (id : Nat) :
    registry.get? id = sessionAfter history id := by
  induction run with
  | begin => rfl
  | next _ _ possible inductionHypothesis =>
      rw [possible.get?_after, inductionHypothesis, sessionAfter_append]

/-- What a registry holds and finds is what its history says: the sessions registered since their
last unregistration, in the order of their registration, and of these the active ones and the last
serving one that are asked for. -/
theorem matchesHistory (run : RegistryRun history registry) : MatchesHistory history registry where
  lists := run.listsJoined
  ids := registered_map_id run.isKnown
  current session member := by
    obtain ⟨id, _, found⟩ := List.mem_filterMap.mp member
    have sameId : session.id = id := id_of_get? found
    rw [← run.get?_eq, sameId, found]
  active name buffer := ⟨List.filter_sublist, fun _ => mem_active_iff⟩
  latest _ _ := latest?_eq_some_iff
  noLatest name := by
    rw [latest?_eq_find?, find?_reverse_eq_none_iff servesTest_iff]
  found _ _ _ := find?_eq_some_iff
  noneFound name root := by
    rw [find?_eq_find?, find?_reverse_eq_none_iff rootedTest_iff]
  again _ _ := find?_of_latest?

/-- A session that leaves and comes back, and one that is served meanwhile. -/
def returningHistory : List Occurrence :=
  [.created (.fresh 1 serverName none []), .created (.fresh 2 serverName none []),
    .registered 1, .registered 2, .registered 1, .moved 1 .running, .unregistered 1,
    .unregistered 3, .attached 2 7, .registered 1]

/-- The session that came back is behind the other one, and it is the only one that serves. -/
theorem returning_session_is_latest :
    ∃ registry, RegistryRun returningHistory registry ∧ MatchesHistory returningHistory registry ∧
      registry.listed = [2, 1] ∧
      ∃ session, session.id = 1 ∧ registry.latest? (some serverName) = some session ∧
        registry.find? serverName session.root = some session := by
  have attachedId : ∀ session : Session, (session.attach 7).id = session.id := by
    intro session
    unfold Session.attach
    split <;> rfl
  have run := ((RegistryRun.begin.next (.created (.fresh 1 serverName none [])) rfl).next
    (.created (.fresh 2 serverName none [])) rfl).next (.registered 1) rfl
  have run := ((run.next (.registered 2) rfl).next (.registered 1) rfl).next
    (.moved 1 .running) fun _ => rfl
  have run := ((run.next (.unregistered 1) trivial).next (.unregistered 3) trivial).next
    (.attached 2 7) attachedId
  have run : RegistryRun returningHistory _ := run.next (.registered 1) rfl
  have agrees := run.matchesHistory
  exact ⟨_, run, agrees, rfl, _, rfl, rfl, agrees.again _ _ rfl⟩

end RegistryRun

end AnalyzerSessions
