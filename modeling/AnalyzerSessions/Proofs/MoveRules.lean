import AnalyzerSessions.Proofs.SoundStations

namespace AnalyzerSessions

/-!
# Rules for moves

A move keeps a station sound, with the same tokens in hand, and it is said what it
gives and how it fails.  A move that comes to what is next leads to a
topic: its frames lead from what it waits for to that topic, and they hold the
tokens that it took.  Both are put together from the parts of a move.
-/

namespace Next

/-- The tokens that the frames of what is next hold. -/
def tokens (next : Next) : List Token :=
  next.frames.flatMap Frame.tokens

/-- A frame that comes afterwards holds its tokens last. -/
theorem tokens_into
    (next : Next)
    (frame : Frame) :
    (next.into frame).tokens = next.tokens ++ frame.tokens := by
  simp [tokens, into]

end Next

namespace Station

/-- What a task waits for, or is told, tells something on a topic. -/
def Awaits (station : Station) (start : Topic) : Pause → Prop
  | .give outcome => station.Holds start outcome
  | .await promise => station.Yields promise start
  | .yield => start = .tick

/-- What is next leads to a topic. -/
structure Leads (station : Station) (next : Next) (goal : Topic) : Prop where
  reaches : ∃ start, station.Reaches start next.frames goal ∧ station.Awaits start next.pause
  frames : ∀ frame ∈ next.frames, station.FrameFits frame

/-- Frames lead on from what frames lead to. -/
theorem Reaches.append
    {station : Station}
    {start mid goal : Topic}
    {first second : List Frame}
    (early : station.Reaches start first mid)
    (late : station.Reaches mid second goal) :
    station.Reaches start (first ++ second) goal := by
  induction first generalizing start with
  | nil =>
      cases second with
      | nil =>
          exact early.trans late
      | cons frame rest =>
          obtain ⟨wanted, given, serves, taken, later⟩ := late
          exact ⟨wanted, given, early.trans serves, taken, later⟩
  | cons frame rest inductionHypothesis =>
      obtain ⟨wanted, given, serves, taken, later⟩ := early
      exact ⟨wanted, given, serves, taken, inductionHypothesis later⟩

/-- A frame alone leads to what it gives. -/
theorem Takes.reaches
    {station : Station}
    {frame : Frame}
    {wanted given : Topic}
    (taken : station.Takes frame wanted given) :
    station.Reaches wanted [frame] given :=
  ⟨wanted, given, .refl wanted, taken, .refl given⟩

/-- An outcome leads where it tells what is wanted. -/
theorem leads_give
    {station : Station}
    {goal : Topic}
    {outcome : Outcome}
    (told : station.Holds goal outcome) :
    station.Leads (.give outcome) goal := by
  refine ⟨⟨goal, .refl goal, told⟩, fun frame member => ?_⟩
  cases member

/-- Waiting leads where the promise yields what is wanted. -/
theorem leads_await
    {station : Station}
    {goal : Topic}
    {promise : Nat}
    (yields : station.Yields promise goal) :
    station.Leads (.await promise) goal := by
  refine ⟨⟨goal, .refl goal, yields⟩, fun frame member => ?_⟩
  cases member

/-- What is next leads on through a frame that takes it and fits. -/
theorem Leads.into_fitting
    {station : Station}
    {next : Next}
    {frame : Frame}
    {mid wanted goal : Topic}
    (leads : station.Leads next mid)
    (serves : mid.Serves wanted)
    (taken : station.Takes frame wanted goal)
    (fits : station.FrameFits frame) :
    station.Leads (next.into frame) goal := by
  obtain ⟨⟨start, reaches, awaits⟩, fitting⟩ := leads
  refine ⟨⟨start, reaches.append ⟨wanted, goal, serves, taken, .refl goal⟩, awaits⟩, ?_⟩
  intro known member
  rcases List.mem_append.mp member with old | isLast
  · exact fitting known old
  · cases List.mem_singleton.mp isLast
    exact fits

/-- What is next leads on through a frame that takes it, unless that frame comes before the start of
a server. -/
theorem Leads.into
    {station : Station}
    {next : Next}
    {frame : Frame}
    {mid wanted goal : Topic}
    (leads : station.Leads next mid)
    (serves : mid.Serves wanted)
    (taken : station.Takes frame wanted goal)
    (late : ∀ session, ¬frame.Starts session) :
    station.Leads (next.into frame) goal :=
  leads.into_fitting serves taken (taken.frameFits late)

/-- What is next leads also where something on its topic serves. -/
theorem Leads.serving
    {station : Station}
    {next : Next}
    {mid goal : Topic}
    (leads : station.Leads next mid)
    (serves : mid.Serves goal) :
    station.Leads next goal := by
  obtain ⟨⟨start, reaches, awaits⟩, fits⟩ := leads
  have last : station.Reaches mid [] goal := serves
  refine ⟨⟨start, ?_, awaits⟩, fits⟩
  simpa using reaches.append last

end Station

namespace Move

variable {α β : Type}

/-- What a move gives at a station, and the station it leaves behind. -/
def perform (move : Move α) (station : Station) : Except Failure α × Station :=
  (ExceptT.run move).run station

/-- Two moves in a row; the second one is left out when the first one fails. -/
theorem perform_bind
    (move : Move α)
    (next : α → Move β)
    (station : Station) :
    perform (move >>= next) station =
      match perform move station with
      | (.ok value, mid) => perform (next value) mid
      | (.error failure, mid) => (.error failure, mid) := by
  show (ExceptT.bindCont next (perform move station).1) (perform move station).2 = _
  rcases perform move station with ⟨_ | _, _⟩ <;> rfl

/-- A look at the station before a move. -/
theorem perform_get_bind
    (next : Station → Move β)
    (station : Station) :
    perform (get >>= next) station = perform (next station) station :=
  rfl

/-- A move of which the failure is dealt with. -/
theorem perform_tryCatch
    (move : Move α)
    (recover : Failure → Move α)
    (station : Station) :
    perform (tryCatch move recover) station =
      match perform move station with
      | (.ok value, mid) => (.ok value, mid)
      | (.error failure, mid) => perform (recover failure) mid := by
  unfold perform
  rw [run_tryCatch]
  rcases (ExceptT.run move).run station with ⟨_ | _, _⟩ <;> rfl

/-- What is next after a move, which may have failed, and the station that it leaves behind. -/
theorem make_eq
    (move : Move Next)
    (station : Station) :
    make move station =
      match perform move station with
      | (.ok next, moved) => (next, moved)
      | (.error failure, moved) => (.fail failure, moved) :=
  rfl

/-- What is next after a look at the station and a move. -/
theorem make_get_bind
    (next : Station → Move Next)
    (station : Station) :
    make (get >>= next) station = make (next station) station :=
  rfl

/-- A station that a move has come to: it is sound, and nothing that stays was lost. -/
structure Comes (hand : List Token) (before after : Station) : Prop where
  sound : after.Sound hand
  onward : before.Onward after

theorem Comes.refl
    {hand : List Token}
    {station : Station}
    (sound : station.Sound hand) :
    Comes hand station station :=
  ⟨sound, .refl station⟩

/-- A move keeps a station sound, and what it gives and how it fails is as said. -/
def Keeps
    (hand : List Token)
    (station : Station)
    (move : Move α)
    (gives : α → Station → Prop)
    (fails : Failure → Prop) : Prop :=
  match perform move station with
  | (.ok value, after) => Comes hand station after ∧ gives value after
  | (.error failure, after) => Comes hand station after ∧ fails failure

/-- A move keeps a station sound and leads to a topic. -/
def Leads (hand : List Token) (station : Station) (move : Move Next) (goal : Topic) : Prop :=
  Comes ((make move station).1.tokens ++ hand) station (make move station).2 ∧
    (make move station).2.Leads (make move station).1 goal

section

variable {hand : List Token} {station : Station}

theorem Comes.trans
    {mid after : Station}
    {other : List Token}
    (early : Comes hand station mid)
    (late : Comes other mid after) :
    Comes other station after :=
  ⟨late.sound, early.onward.trans late.onward⟩

theorem keeps_pure
    {value : α}
    {gives : α → Station → Prop}
    {fails : Failure → Prop}
    (sound : station.Sound hand)
    (given : gives value station) :
    Keeps hand station (pure value) gives fails :=
  ⟨.refl sound, given⟩

theorem keeps_throw
    {failure : Failure}
    {gives : α → Station → Prop}
    {fails : Failure → Prop}
    (sound : station.Sound hand)
    (failed : fails failure) :
    Keeps hand station (throw failure) gives fails :=
  ⟨.refl sound, failed⟩

theorem keeps_modify
    {change : Station → Station}
    {gives : Unit → Station → Prop}
    {fails : Failure → Prop}
    (comes : Comes hand station (change station))
    (given : gives () (change station)) :
    Keeps hand station (modify change) gives fails :=
  ⟨comes, given⟩

theorem Keeps.imp
    {move : Move α}
    {gives tells : α → Station → Prop}
    {fails may : Failure → Prop}
    (kept : Keeps hand station move gives fails)
    (given : ∀ value after, Comes hand station after → gives value after → tells value after)
    (failed : ∀ failure, fails failure → may failure) :
    Keeps hand station move tells may := by
  unfold Keeps at kept ⊢
  generalize perform move station = result at kept ⊢
  rcases result with ⟨failure | value, after⟩
  · exact ⟨kept.1, failed failure kept.2⟩
  · exact ⟨kept.1, given value after kept.1 kept.2⟩

theorem Keeps.bind
    {move : Move α}
    {next : α → Move β}
    {gives : α → Station → Prop}
    {tells : β → Station → Prop}
    {fails : Failure → Prop}
    (first : Keeps hand station move gives fails)
    (second : ∀ value mid, Comes hand station mid → gives value mid →
      Keeps hand mid (next value) tells fails) :
    Keeps hand station (move >>= next) tells fails := by
  unfold Keeps at first ⊢
  rw [perform_bind]
  generalize perform move station = result at first ⊢
  rcases result with ⟨failure | value, mid⟩
  · exact first
  · have later := second value mid first.1 first.2
    unfold Keeps at later
    dsimp only
    generalize perform (next value) mid = result at later ⊢
    rcases result with ⟨failure | given, after⟩
    · exact ⟨first.1.trans later.1, later.2⟩
    · exact ⟨first.1.trans later.1, later.2⟩

/-- A move of which the failure is dealt with. -/
theorem Keeps.recover
    {move : Move α}
    {recover : Failure → Move α}
    {gives : α → Station → Prop}
    {fails may : Failure → Prop}
    (tried : Keeps hand station move gives fails)
    (recovered : ∀ failure mid, Comes hand station mid → fails failure →
      Keeps hand mid (recover failure) gives may) :
    Keeps hand station (tryCatch move recover) gives may := by
  unfold Keeps at tried ⊢
  rw [perform_tryCatch]
  generalize perform move station = result at tried ⊢
  rcases result with ⟨failure | value, mid⟩
  · have later := recovered failure mid tried.1 tried.2
    unfold Keeps at later
    dsimp only
    generalize perform (recover failure) mid = result at later ⊢
    rcases result with ⟨cause | given, after⟩
    · exact ⟨tried.1.trans later.1, later.2⟩
    · exact ⟨tried.1.trans later.1, later.2⟩
  · exact tried

/-- What is next may be said at once. -/
theorem leads_pure
    {next : Next}
    {goal : Topic}
    (sound : station.Sound (next.tokens ++ hand))
    (leads : station.Leads next goal) :
    Leads hand station (pure next) goal :=
  ⟨.refl sound, leads⟩

/-- An outcome may be given at once. -/
theorem leads_give
    {outcome : Outcome}
    {goal : Topic}
    (sound : station.Sound hand)
    (told : station.Holds goal outcome) :
    Leads hand station (pure (Next.give outcome)) goal :=
  leads_pure sound (Station.leads_give told)

/-- A move may fail. -/
theorem leads_throw
    {failure : Failure}
    {goal : Topic}
    (sound : station.Sound hand)
    (told : station.Holds goal (.error failure)) :
    Leads hand station (throw failure) goal :=
  ⟨.refl sound, Station.leads_give told⟩

/-- A move that comes to what is next after another one. -/
theorem Keeps.leads
    {move : Move α}
    {next : α → Move Next}
    {gives : α → Station → Prop}
    {fails : Failure → Prop}
    {goal : Topic}
    (first : Keeps hand station move gives fails)
    (second : ∀ value mid, Comes hand station mid → gives value mid →
      Leads hand mid (next value) goal)
    (failed : ∀ failure mid, Comes hand station mid → fails failure →
      mid.Holds goal (.error failure)) :
    Leads hand station (move >>= next) goal := by
  unfold Keeps at first
  unfold Leads
  rw [make_eq, perform_bind]
  generalize perform move station = result at first ⊢
  rcases result with ⟨failure | value, mid⟩
  · exact ⟨first.1, Station.leads_give (failed failure mid first.1 first.2)⟩
  · obtain ⟨comes, leads⟩ := second value mid first.1 first.2
    exact ⟨first.1.trans comes, leads⟩

/-- What is next after a move that goes on in a frame has that frame last. -/
theorem make_into
    (move : Move Next)
    (frame : Frame)
    (station : Station) :
    make (Move.into move frame) station =
      ((make move station).1.into frame, (make move station).2) := by
  rw [make_eq, Move.into, perform_bind, perform_tryCatch, make_eq]
  rcases perform move station with ⟨failure | next, after⟩ <;> rfl

theorem Leads.into
    {move : Move Next}
    {frame : Frame}
    {mid wanted goal : Topic}
    (leads : Leads (frame.tokens ++ hand) station move mid)
    (serves : mid.Serves wanted)
    (taken : ∀ after, station.Onward after → after.Takes frame wanted goal)
    (late : ∀ session, ¬frame.Starts session) :
    Leads hand station (Move.into move frame) goal := by
  obtain ⟨comes, leads⟩ := leads
  unfold Leads
  rw [make_into]
  refine ⟨⟨?_, comes.onward⟩, leads.into serves (taken _ comes.onward) late⟩
  rw [Next.tokens_into, List.append_assoc]
  exact comes.sound

/-- Something that is next goes on in a frame that holds no tokens. -/
theorem Leads.into_free
    {move : Move Next}
    {frame : Frame}
    {mid wanted goal : Topic}
    (leads : Leads hand station move mid)
    (serves : mid.Serves wanted)
    (taken : ∀ after, station.Onward after → after.Takes frame wanted goal)
    (free : frame.tokens = []) :
    Leads hand station (Move.into move frame) goal := by
  refine Leads.into (by rwa [free]) serves taken fun session starts => ?_
  cases starts.tokens.symm.trans free

/-- Something that is next serves also where something on its topic does. -/
theorem Leads.serving
    {move : Move Next}
    {mid goal : Topic}
    (leads : Leads hand station move mid)
    (serves : mid.Serves goal) :
    Leads hand station move goal :=
  ⟨leads.1, leads.2.serving serves⟩

end

end Move

end AnalyzerSessions
