import AnalyzerSessions.Proofs.IncomingRules
import AnalyzerSessions.Client.Reading

namespace AnalyzerSessions.Move

/-!
# Rules for reading from the server

Reading ends quietly, whatever the server sends: a failure is passed on to whoever
waits for an answer, and it is none that a server told.
-/

variable {α β : Type} {hand : List Token} {station : Station}

/-! ## The end of reading -/

theorem keeps_failPending
    {session : Nat}
    {failure : Failure}
    (sound : station.Sound hand)
    (present : station.HasClient session)
    (isOwn : ¬failure.IsResponse) :
    Keeps hand station (failPending session failure)
      (fun _ after => after.runs = station.runs ∧ ∀ number promise,
        station.Pends session number promise → after.loop.isSettled promise = true)
      fun _ => False := by
  refine (keeps_client_of sound present).then_keeps ?_
  rintro client mid _ ⟨rfl, found⟩
  have told : ∀ entry ∈ client.pending,
      mid.loop.topic? entry.2 = some (.answer session entry.1) :=
    fun entry pending => ((sound.clientFits found).pending entry pending).1
  refine keeps_modify (sound.settleAll fun promise member => ?_) ⟨rfl, ?_⟩
  · obtain ⟨entry, pending, rfl⟩ := List.mem_map.mp member
    exact ⟨_, told entry pending, nofun, fun isServers => (isOwn isServers).elim⟩
  · rintro number promise ⟨owner, isOwner, pending⟩
    cases found.symm.trans isOwner
    exact Loop.isSettled_settleAll (told _ pending) (List.mem_map.mpr ⟨_, pending, rfl⟩) _

/-- That nothing more is expected from a server may be put on record when every call that waits is
settled. -/
theorem comes_hangUp
    {session : Nat}
    (sound : station.Sound hand)
    (settled : ∀ number promise, station.Pends session number promise →
      station.loop.isSettled promise = true)
    (cause : Option Failure) :
    Comes hand station
      { station with chronicle := station.chronicle ++ [.hungUp session cause] } := by
  have inHand : station.Sound (Occurrence.spends (.hungUp session cause) ++ hand) := sound
  refine inHand.record rfl fun number issued => ?_
  cases sound.tale.accounted session number issued with
  | resolved isResolved =>
      exact .inl isResolved
  | waits pends =>
      have isSettled := settled _ _ pends
      obtain ⟨client, found, pending⟩ := pends
      exact .inl (.settled ((sound.clientFits found).pending _ pending).1 isSettled)
  | lost isLost =>
      exact .inr isLost

theorem keeps_serverHasExited
    (sound : station.Sound hand)
    (session : Nat) :
    Keeps hand station (serverHasExited session)
      (fun exited after => after = station ∧ (exited = true → ∀ client,
        station.client? session = some client → ∃ code, station.HasExited client.process code))
      fun _ => False := by
  refine keeps_get (keeps_pure sound ⟨rfl, fun exited client found => ?_⟩)
  obtain ⟨process, isThere⟩ := (sound.clientFits found).process
  simp only [Station.clientProcess?, found, Option.bind_some, isThere, Option.map_some,
    Option.getD_some, ServerProcess.hasExited] at exited
  obtain ⟨code, isCode⟩ := Option.isSome_iff_exists.mp exited
  exact ⟨code, process, isThere, isCode⟩

/-- Reading ends quietly. -/
theorem leads_endReading
    {session : Nat}
    {failure : Failure}
    (sound : station.Sound hand)
    (present : station.HasClient session)
    (isOwn : ¬failure.IsResponse) :
    Leads hand station (endReading session failure) .reading := by
  have ended : ∀ {mid : Station}, Comes hand station mid →
      Leads hand mid
        (do
          failPending session failure
          record (.hungUp session (some failure))
          return Next.done) .reading := by
    intro mid comes
    refine (keeps_failPending comes.sound (comes.onward.hasClient present) isOwn).then_leads ?_
    rintro _ after later ⟨sameRuns, settled⟩
    have hungUp := comes_hangUp later.sound
      (fun number promise pends => settled number promise (pends.of_runs_eq sameRuns.symm))
      (some failure)
    exact leads_change hungUp (leads_give hungUp.sound (Station.isQuiet_ok _))
  unfold endReading
  split
  · exact leads_give sound Station.isQuiet_cancelled
  · dsimp only
    split
    · refine (keeps_serverHasExited sound session).then_leads ?_
      rintro exited _ comes ⟨rfl, _⟩
      split
      · exact (keeps_say sound _ _).then_leads fun _ _ later _ => ended later
      · exact ended comes
    · exact (keeps_say sound _ _).then_leads fun _ _ later _ => ended later

/-! ## Reading messages -/

theorem keeps_modifyOutput
    {session : Nat}
    {change : Channel → Channel}
    (sound : station.Sound hand)
    (present : station.HasClient session)
    (told : ∀ channel, (∀ promise, channel.reader = some promise →
        station.loop.topic? promise = some .tick) →
      ∀ promise, (change channel).reader = some promise →
        station.loop.topic? promise = some .tick) :
    Keeps hand station (modifyOutput session change) (fun _ _ => True) fun _ => False := by
  refine (keeps_client_of sound present).then_keeps ?_
  rintro client _ _ ⟨rfl, _⟩
  refine keeps_modify (sound.modifyProcess (fun _ _ _ => id) (fun _ => List.Subset.refl _) ?_) trivial
  exact fun process fits => ⟨told _ fits.output, fits.errors, fits.exit⟩

/-- Reading goes on until a message is there, is handled then, and ends quietly. -/
theorem leads_readOn
    {session : Nat}
    (sound : station.Sound [])
    (present : station.HasClient session)
    (phase : Wire.ReadPhase) :
    Leads [] station (readOn session phase) .reading := by
  refine leads_get ?_
  split
  · exact leads_give sound (Station.isQuiet_ok _)
  · rename_i process _
    split
    · refine (keeps_modifyOutput sound present ?_).then_leads fun _ mid comes _ => ?_
      · exact fun _ => id
      have presentNow := comes.onward.hasClient present
      split
      · exact leads_endReading comes.sound presentNow id
      · refine (keeps_newPromise comes.sound id).then_leads ?_
        rintro promise late later ⟨told, _⟩
        have presentLate := later.onward.hasClient presentNow
        have waits : Keeps [] late (modifyOutput session fun channel =>
            { channel with reader := some promise }) (fun _ _ => True) fun _ => False := by
          refine keeps_modifyOutput later.sound presentLate fun _ _ other reads => ?_
          cases reads
          exact told
        refine waits.then_leads fun _ after last _ => leads_pure last.sound ?_
        refine (Station.leads_await ?_).into (.refl .tick) (.reading ?_) nofun
        · exact .told (last.onward.loop.topics told) trivial
        · exact last.onward.hasClient presentLate
    · refine (keeps_modifyOutput sound present ?_).then_leads fun _ mid comes _ => ?_
      · exact fun _ => id
      exact leads_endReading comes.sound (comes.onward.hasClient present) id
    · refine (keeps_modifyOutput sound present ?_).then_leads fun _ mid comes _ => ?_
      · exact fun _ => id
      have presentNow := comes.onward.hasClient present
      exact (leads_handleMessage comes.sound session _).into (.refl .handling)
        (fun after onward => .handled (onward.hasClient presentNow)) nofun

/-- Reading goes on after waiting for bytes. -/
theorem leads_afterBytes
    {session : Nat}
    {outcome : Outcome}
    (sound : station.Sound [])
    (present : station.HasClient session)
    (quiet : outcome.IsQuiet)
    (phase : Wire.ReadPhase) :
    Leads [] station (afterBytes session phase outcome) .reading := by
  refine (keeps_modifyOutput sound present ?_).then_leads fun _ mid comes _ => ?_
  · intro channel _ promise reads
    cases reads
  have presentNow := comes.onward.hasClient present
  split
  · exact leads_readOn comes.sound presentNow phase
  · rename_i failure
    cases quiet failure rfl
    exact leads_endReading comes.sound presentNow id

/-- Reading goes on after a message. -/
theorem leads_afterMessage
    {session : Nat}
    {outcome : Outcome}
    (sound : station.Sound [])
    (present : station.HasClient session)
    (told : station.Holds .handling outcome) :
    Leads [] station (afterMessage session outcome) .reading := by
  unfold afterMessage
  split
  · exact leads_readOn sound present .initial
  · exact leads_endReading sound present (told _ rfl)

/-! ## Draining a log -/

theorem keeps_modifyErrors
    {session : Nat}
    {change : Channel → Channel}
    (sound : station.Sound hand)
    (present : station.HasClient session)
    (told : ∀ channel, (∀ promise, channel.reader = some promise →
        station.loop.topic? promise = some .tick) →
      ∀ promise, (change channel).reader = some promise →
        station.loop.topic? promise = some .tick) :
    Keeps hand station (modifyErrors session change) (fun _ _ => True) fun _ => False := by
  refine (keeps_client_of sound present).then_keeps ?_
  rintro client _ _ ⟨rfl, _⟩
  refine keeps_modify (sound.modifyProcess (fun _ _ _ => id) (fun _ => List.Subset.refl _) ?_) trivial
  refine fun process fits => ⟨fits.output, fun channel promise logs reads => ?_, fits.exit⟩
  obtain ⟨old, wasThere, rfl⟩ := Option.map_eq_some_iff.mp logs
  exact told old (fun other => fits.errors old other wasThere) promise reads

/-- The log file of a client is closed. -/
theorem comes_closeLog
    (sound : station.Sound hand)
    (session : Nat) :
    Comes hand station
      (station.modifyClient session fun client => { client with logIsOpen := false }) := by
  refine sound.modifyClient (fun _ => rfl) (fun _ => List.Subset.refl _) fun client fits => ?_
  exact ⟨fits.process, fits.pending, fits.reader, fits.drain, fits.quiescent⟩

/-- Draining ends in some way. -/
theorem leads_endDraining
    (sound : station.Sound hand)
    (session : Nat)
    (outcome : Outcome) :
    Leads hand station (endDraining session outcome) .draining :=
  leads_change (comes_closeLog sound session)
    (leads_give (comes_closeLog sound session).sound trivial)

/-- The files may change. -/
theorem comes_changeDisk
    (sound : station.Sound hand)
    (disk : Disk) :
    Comes hand station { station with desk := { station.desk with disk } } := by
  have same : ({ station.desk with disk } : Desk).ledger = station.desk.ledger := rfl
  exact sound.withPapers same sound.desk.silent station.launches

theorem keeps_noteErrors
    (sound : station.Sound hand)
    (session : Nat)
    (bytes : List UInt8) :
    Keeps hand station (noteErrors session bytes) (fun _ _ => True) fun _ => True := by
  have appended : ∀ text, Keeps hand station (appendLog session text) (fun _ _ => True)
      fun _ => True := by
    intro text
    refine ((keeps_client sound session).imp (fun _ _ _ => id) fun _ _ => trivial).bind ?_
    rintro client _ _ ⟨rfl, _⟩
    split
    · refine keeps_get ?_
      dsimp only
      split
      · exact keeps_throw sound trivial
      · exact keeps_modify (comes_changeDisk sound _) trivial
    · exact keeps_pure sound trivial
  refine (appended _).bind fun _ mid comes _ => ?_
  exact (keeps_say comes.sound _ _).imp (fun _ _ _ _ => trivial) fun _ _ => trivial

/-- Draining goes on, or ends in some way. -/
theorem leads_drainOn
    {session : Nat}
    (sound : station.Sound hand)
    (present : station.HasClient session) :
    Leads hand station (drainOn session) .draining := by
  refine leads_get ?_
  split
  · exact leads_endDraining sound session _
  · rename_i channel _
    split
    · split
      · exact leads_endDraining sound session _
      · refine (keeps_newPromise sound id).then_leads ?_
        rintro promise mid comes ⟨told, _⟩
        have presentNow := comes.onward.hasClient present
        have waits : Keeps hand mid (modifyErrors session fun channel =>
            { channel with reader := some promise }) (fun _ _ => True) fun _ => False := by
          refine keeps_modifyErrors comes.sound presentNow fun _ _ other reads => ?_
          cases reads
          exact told
        refine waits.then_leads fun _ after last _ => leads_pure last.sound ?_
        refine (Station.leads_await ?_).into (.refl .tick) (.draining ?_) nofun
        · exact .told (last.onward.loop.topics told) trivial
        · exact last.onward.hasClient presentNow
    · exact leads_endDraining sound session _
    · refine (keeps_modifyErrors sound present ?_).then_leads fun _ mid comes _ => ?_
      · exact fun _ => id
      refine Keeps.leads_recover ?_ fun _ _ later => leads_endDraining later.sound session _
      refine (keeps_noteErrors comes.sound session _).bind fun _ after later _ => ?_
      have presentNow := (comes.onward.trans later.onward).hasClient present
      have leads : after.Leads (Next.perform (.drainErrors session)) .draining :=
        leads_perform presentNow fun isRun => isRun
      exact keeps_pure later.sound ⟨rfl, leads⟩

/-- Draining goes on after waiting for bytes. -/
theorem leads_afterErrors
    {session : Nat}
    (sound : station.Sound hand)
    (present : station.HasClient session)
    (outcome : Outcome) :
    Leads hand station (afterErrors session outcome) .draining := by
  refine (keeps_modifyErrors sound present ?_).then_leads fun _ mid comes _ => ?_
  · intro channel _ promise reads
    cases reads
  split
  · exact leads_drainOn comes.sound (comes.onward.hasClient present)
  · exact leads_endDraining comes.sound session _

end AnalyzerSessions.Move
