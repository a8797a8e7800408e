import AnalyzerSessions.Proofs.StationChanges

namespace AnalyzerSessions

/-!
# Changes of runs and of the record

A run keeps its session and its task, and its client keeps its process.  A run is
begun with its token, its client appears while the token is in hand, and a
request is entered with a token of its own.  What is put on record spends the
token that it needs.
-/

/-- The process and the last request of a client. -/
def Client.standing (client : Client) : Nat × Nat :=
  (client.process, client.lastRequest)

/-- A change of a run that leaves its session, its task, and the standing of its client alone. -/
structure Run.IsGentle (change : Run → Run) : Prop where
  session : ∀ run, (change run).session = run.session
  task : ∀ run, (change run).task = run.task
  standing : ∀ run, (change run).client.map Client.standing = run.client.map Client.standing

theorem Run.IsGentle.tokens
    {change : Run → Run}
    (gentle : Run.IsGentle change)
    (run : Run) :
    (change run).tokens = run.tokens := by
  simp only [Run.tokens, gentle.session, gentle.task]

namespace Station

open Move (Comes)

variable {hand : List Token} {station : Station}

/-- The standing of clients stays when a run is changed gently. -/
theorem standing_modifyRun
    {change : Run → Run}
    (gentle : Run.IsGentle change)
    (station : Station)
    (chosen session : Nat) :
    ((station.modifyRun chosen change).client? session).map Client.standing =
      (station.client? session).map Client.standing := by
  rw [client?_modifyRun station chosen session gentle.session]
  unfold client?
  cases station.run? session with
  | none =>
      rfl
  | some run =>
      by_cases same : session = chosen
      · simpa [same] using gentle.standing run
      · simp [same]

/-- Tokens stay when a run is changed and keeps its own. -/
theorem made_modifyRun
    {change : Run → Run}
    (same : ∀ run, (change run).tokens = run.tokens)
    (station : Station)
    (chosen : Nat) :
    (station.modifyRun chosen change).made = station.made := by
  unfold made modifyRun
  dsimp only
  rw [List.flatMap_map]
  congr 1
  refine List.flatMap_congr fun run _ => ?_
  split
  · exact same run
  · rfl

/-- No client appears or says more when a run is changed gently. -/
theorem lastRequest_modifyRun
    {change : Run → Run}
    (gentle : Run.IsGentle change)
    (station : Station)
    (chosen session : Nat) :
    (station.modifyRun chosen change).lastRequest session = station.lastRequest session := by
  have same := congrArg (Option.map Prod.snd) (standing_modifyRun gentle station chosen session)
  rw [Option.map_map, Option.map_map] at same
  exact congrArg (fun last => last.getD 0) same

/-- No client appears when a run is changed gently. -/
theorem noNewClient_modifyRun
    {change : Run → Run}
    (gentle : Run.IsGentle change)
    (station : Station)
    (chosen : Nat) :
    station.NoNewClient (station.modifyRun chosen change) := by
  intro session missing
  have same := standing_modifyRun gentle station chosen session
  rw [missing] at same
  exact Option.map_eq_none_iff.mp same

/-- Runs last when one of them is changed, and what was settled and to whom its client talks stays
as it is. -/
theorem runs_last_modifyRun
    {chosen : Nat}
    {change : Run → Run}
    (sameSession : ∀ run, (change run).session = run.session)
    (staysSet : ∀ run, station.run? chosen = some run → run.settled.isSet = true →
      (change run).settled.isSet = true)
    (talks : ∀ run client, station.run? chosen = some run → run.client = some client →
      ∃ now, (change run).client = some now ∧ now.process = client.process)
    {session : Nat}
    {run : Run}
    (found : station.run? session = some run) :
    ∃ now, (station.modifyRun chosen change).run? session = some now ∧
      (run.settled.isSet = true → now.settled.isSet = true) ∧
      ∀ client, run.client = some client →
        ∃ clientNow, now.client = some clientNow ∧ clientNow.process = client.process := by
  rw [run?_modifyRun station chosen session sameSession, found]
  by_cases same : session = chosen
  · subst same
    exact ⟨change run, by simp, staysSet run found, fun client => talks run client found⟩
  · exact ⟨run, by simp [same], id, fun client isClient => ⟨client, isClient, rfl⟩⟩

/-- A station goes on when a run is changed gently and what was settled stays so. -/
theorem onward_modifyRun
    {chosen : Nat}
    {change : Run → Run}
    (gentle : Run.IsGentle change)
    (staysSet : ∀ run, station.run? chosen = some run → run.settled.isSet = true →
      (change run).settled.isSet = true) :
    station.Onward (station.modifyRun chosen change) := by
  refine ⟨{ Lasts.refl station with runs := ?_ }, .refl station.loop⟩
  refine runs_last_modifyRun gentle.session staysSet fun run client _ isClient => ?_
  have standing := gentle.standing run
  rw [isClient] at standing
  obtain ⟨now, isNow, sameNow⟩ := Option.map_eq_some_iff.mp standing
  exact ⟨now, isNow, congrArg Prod.fst sameNow⟩

/-- Runs fit when one of them is changed and fits then. -/
theorem Sound.runsFit_modifyRun
    {after : Station}
    {chosen : Nat}
    {change : Run → Run}
    (sound : station.Sound hand)
    (lasts : station.Lasts after)
    (runs : after.runs = (station.modifyRun chosen change).runs)
    (loop : after.loop = station.loop)
    (made : ∀ token ∈ station.made, token ∈ after.made)
    (sameSession : ∀ run, (change run).session = run.session)
    (sameTask : ∀ run, (change run).task = run.task)
    (fits : ∀ run, station.run? chosen = some run → station.RunFits run →
      after.RunFits (change run)) :
    after.RunsFit := by
  refine ⟨?_, ?_, ?_⟩
  · have same : after.runs.map Run.session = station.runs.map Run.session := by
      rw [runs]
      simp only [Station.modifyRun, List.map_map]
      refine List.map_congr_left fun run _ => ?_
      simp only [Function.comp]
      split
      · exact sameSession run
      · rfl
    rw [same]
    exact sound.runs.distinct
  · intro run member
    rw [runs] at member
    obtain ⟨old, isThere, rfl⟩ := List.mem_map.mp member
    have fitted := sound.runs.each old isThere
    split
    · rename_i same
      exact fits old (same ▸ run?_of_mem sound.runs.distinct isThere) fitted
    · exact lasts.runFits fitted made
  · intro task session isRun
    rw [loop] at isRun
    obtain ⟨run, isThere, rfl, isTask⟩ := sound.runs.tasks isRun
    rw [runs]
    refine ⟨_, List.mem_map.mpr ⟨run, isThere, rfl⟩, ?_⟩
    split
    · exact ⟨sameSession run, (sameTask run).trans isTask⟩
    · exact ⟨rfl, isTask⟩

/-- Calls go on waiting when a run is changed that keeps the unanswered calls of its client. -/
theorem Pends.modifyRun
    {chosen session number promise : Nat}
    {change : Run → Run}
    (pends : station.Pends session number promise)
    (sameSession : ∀ run, (change run).session = run.session)
    (keeps : ∀ run client, run.client = some client →
      ∃ now, (change run).client = some now ∧ client.pending ⊆ now.pending) :
    (station.modifyRun chosen change).Pends session number promise := by
  obtain ⟨client, found, isPending⟩ := pends
  obtain ⟨run, isRun, isClient⟩ := run?_of_client? found
  obtain ⟨now, isNow, stillPending⟩ := keeps run client isClient
  unfold Pends
  rw [client?_modifyRun station chosen session sameSession, isRun]
  by_cases same : session = chosen
  · exact ⟨now, by simpa [same] using isNow, stillPending isPending⟩
  · exact ⟨client, by simpa [same] using isClient, isPending⟩

/-- A run may be changed gently, as long as whoever waits for its client is told, and no call that
waits gets lost. -/
theorem Sound.modifyRun
    {chosen : Nat}
    {change : Run → Run}
    (sound : station.Sound hand)
    (gentle : Run.IsGentle change)
    (staysSet : ∀ run, station.run? chosen = some run → run.settled.isSet = true →
      (change run).settled.isSet = true)
    (fits : ∀ run, station.run? chosen = some run → station.RunFits run →
      station.RunFits (change run))
    (waits : ∀ session number promise, station.Pends session number promise →
      (station.modifyRun chosen change).IsAccounted session number) :
    Comes hand station (station.modifyRun chosen change) := by
  have onward := onward_modifyRun gentle staysSet
  have made := made_modifyRun gentle.tokens station chosen
  have noNew := noNewClient_modifyRun gentle station chosen
  have runsFit : (station.modifyRun chosen change).RunsFit := by
    refine sound.runsFit_modifyRun onward.toLasts rfl rfl (fun _ => made ▸ id) gentle.session
      gentle.task fun run found fitted => ?_
    exact onward.runFits (fits run found fitted) fun _ => made ▸ id
  refine ⟨⟨sound.loopFits onward.toLasts rfl, sound.processesFit onward.toLasts rfl,
    runsFit, ⟨sound.desk.numbered, sound.desk.silent⟩,
    sound.taleFits onward.toLasts rfl noNew (lastRequest_modifyRun gentle station chosen) waits, ?_,
    sound.framesFit onward.toLasts noNew fun stance member frame isFrame =>
      .inr ⟨stance, member, isFrame⟩⟩,
    onward⟩
  unfold Balanced
  rw [made]
  exact sound.balanced

/-- A client may change that keeps its process and its numbers, as long as whoever waits for it
is told, and no call that waits gets lost. -/
theorem Sound.reviseClient
    {session : Nat}
    {change : Client → Client}
    (sound : station.Sound hand)
    (standing : ∀ client, (change client).standing = client.standing)
    (fits : ∀ client, station.ClientFits session client →
      station.ClientFits session (change client))
    (waits : ∀ other number promise, station.Pends other number promise →
      (station.modifyClient session change).IsAccounted other number) :
    Comes hand station (station.modifyClient session change) := by
  refine sound.modifyRun ⟨fun _ => rfl, fun _ => rfl, fun run => ?_⟩ (fun _ _ => id) ?_ waits
  · rw [Option.map_map]
    exact congrArg (fun key => run.client.map key) (funext standing)
  · intro run found fitted
    obtain ⟨_, same⟩ := mem_of_run? found
    refine ⟨fitted.known, fitted.task, fitted.settled, fun client isClient => ?_⟩
    obtain ⟨old, wasClient, rfl⟩ := Option.map_eq_some_iff.mp isClient
    exact same ▸ fits old (same ▸ fitted.client old wasClient)

/-- A client may change that keeps its process, its numbers and its unanswered calls, as long as
whoever waits for it is told. -/
theorem Sound.modifyClient
    {session : Nat}
    {change : Client → Client}
    (sound : station.Sound hand)
    (standing : ∀ client, (change client).standing = client.standing)
    (keeps : ∀ client, client.pending ⊆ (change client).pending)
    (fits : ∀ client, station.ClientFits session client →
      station.ClientFits session (change client)) :
    Comes hand station (station.modifyClient session change) := by
  refine sound.reviseClient standing fits fun other number promise pends => ?_
  refine .waits (pends.modifyRun (fun _ => rfl) fun run client isClient => ?_)
  exact ⟨change client, by rw [isClient]; rfl, keeps client⟩

/-- A station goes on when a client forgets a call. -/
theorem onward_forget
    (station : Station)
    (session number : Nat) :
    station.Onward (station.modifyClient session fun client => client.forget number) := by
  refine onward_modifyRun ⟨fun _ => rfl, fun _ => rfl, fun run => ?_⟩ fun _ _ => id
  rw [Option.map_map]
  rfl

/-- The run that is found fits. -/
theorem Sound.runFits
    {session : Nat}
    {run : Run}
    (sound : station.Sound hand)
    (found : station.run? session = some run) :
    station.RunFits run :=
  sound.runs.each run (mem_of_run? found).1

/-- The client that is found fits. -/
theorem Sound.clientFits
    {session : Nat}
    {client : Client}
    (sound : station.Sound hand)
    (found : station.client? session = some client) :
    station.ClientFits session client := by
  obtain ⟨run, isRun, isClient⟩ := run?_of_client? found
  obtain ⟨_, rfl⟩ := mem_of_run? isRun
  exact (sound.runFits isRun).client client isClient

/-! ## Flags -/

/-- Whoever waits for a flag is told that something has happened. -/
theorem Sound.flagFits
    (sound : station.Sound hand)
    (signpost : Signpost) :
    ∀ promise ∈ (station.flag signpost).waiters, station.loop.topic? promise = some .tick := by
  intro promise member
  cases signpost with
  | settled session =>
      simp only [flag] at member
      cases found : station.run? session with
      | none =>
          simp [found, Flag.lowered] at member
      | some run =>
          rw [found] at member
          exact (sound.runFits found).settled promise member
  | quiescent session =>
      simp only [flag] at member
      cases found : station.client? session with
      | none =>
          simp [found, Flag.lowered] at member
      | some client =>
          rw [found] at member
          exact (sound.clientFits found).quiescent promise member

/-- A flag may change, as long as a start that is settled stays so. -/
theorem Sound.setFlag
    {signpost : Signpost}
    {flag : Flag}
    (sound : station.Sound hand)
    (waiters : ∀ promise ∈ flag.waiters, station.loop.topic? promise = some .tick)
    (staysSet : ∀ session, signpost = .settled session →
      (station.flag signpost).isSet = true → flag.isSet = true) :
    Comes hand station (station.setFlag signpost flag) := by
  cases signpost with
  | settled session =>
      refine sound.modifyRun ⟨fun _ => rfl, fun _ => rfl, fun _ => rfl⟩ ?_ ?_ ?_
      · intro run found isSet
        refine staysSet session rfl ?_
        simpa [Station.flag, found] using isSet
      · exact fun _ _ fits => ⟨fits.known, fits.task, waiters, fits.client⟩
      · exact fun _ _ _ pends => .waits (pends.modifyRun (fun _ => rfl)
          fun _ client isClient => ⟨client, isClient, List.Subset.refl _⟩)
  | quiescent session =>
      refine sound.modifyClient (fun _ => rfl) (fun _ => List.Subset.refl _) fun client fits => ?_
      exact ⟨fits.process, fits.pending, fits.reader, fits.drain, waiters⟩

/-- A flag may be set, and everyone who waits for it goes on. -/
theorem Sound.raise
    (sound : station.Sound hand)
    (signpost : Signpost) :
    Comes hand station (station.raise signpost) := by
  have raised : Comes hand station (station.setFlag signpost ⟨true, []⟩) := by
    refine sound.setFlag (fun promise member => ?_) fun _ _ _ => rfl
    cases member
  refine raised.trans (raised.sound.settleAll fun promise member => ?_)
  have told := sound.flagFits signpost promise member
  exact ⟨_, raised.onward.loop.topics told, nofun, isQuiet_ok _⟩

/-- A flag of a quiet server may be cleared. -/
theorem Sound.lower
    (sound : station.Sound hand)
    (session : Nat) :
    Comes hand station (station.lower (.quiescent session)) :=
  sound.setFlag (sound.flagFits (.quiescent session)) nofun

/-- The start of a run is settled when its flag is set. -/
theorem isSettled_raise
    {session : Nat}
    {run : Run}
    (found : station.run? session = some run) :
    (station.raise (.settled session)).IsSettled session := by
  refine ⟨{ run with settled := ⟨true, []⟩ }, ?_, rfl⟩
  show (station.modifyRun session fun run => { run with settled := ⟨true, []⟩ }).run? session = _
  have sameSession : ∀ run : Run,
      ({ run with settled := ⟨true, []⟩ } : Run).session = run.session := fun _ => rfl
  rw [run?_modifyRun station session session sameSession, found]
  simp

/-! ## Tokens -/

/-- A call token is made as often as its number is given. -/
theorem count_call_makes
    (chronicle : List Occurrence)
    (session number : Nat) :
    (chronicle.flatMap Occurrence.makes).count (.call session number) =
      (requestNumbers chronicle session).count number := by
  induction chronicle with
  | nil =>
      rfl
  | cons occurrence rest inductionHypothesis =>
      unfold requestNumbers at inductionHypothesis ⊢
      rw [List.flatMap_cons, List.count_append, inductionHypothesis]
      cases occurrence with
      | issued other given =>
          by_cases same : other = session
          · subst same
            by_cases isNumber : given = number
            · simp [Occurrence.makes, Occurrence.numberFor?, isNumber, Nat.add_comm]
            · simp [Occurrence.makes, Occurrence.numberFor?, isNumber]
          · simp [Occurrence.makes, Occurrence.numberFor?, same]
      | _ =>
          simp [Occurrence.makes, List.filterMap_cons, Occurrence.numberFor?]

/-- No occurrence makes the token of a run. -/
theorem run_not_mem_makes
    (chronicle : List Occurrence)
    (session : Nat) :
    .run session ∉ chronicle.flatMap Occurrence.makes := by
  intro member
  obtain ⟨occurrence, _, makes⟩ := List.mem_flatMap.mp member
  cases occurrence with
  | issued other number =>
      cases List.mem_singleton.mp makes
  | _ =>
      cases makes

/-- The tokens of runs are among the tokens for all their sessions, in order. -/
theorem runTokens_sublist (runs : List Run) :
    (runs.flatMap Run.tokens).Sublist ((runs.map Run.session).map Token.run) := by
  induction runs with
  | nil =>
      exact .refl []
  | cons run rest inductionHypothesis =>
      rw [List.flatMap_cons, List.map_cons, List.map_cons, ← List.singleton_append]
      refine .append ?_ inductionHypothesis
      unfold Run.tokens
      split
      · exact .refl _
      · exact List.nil_sublist _

/-- No token is made twice. -/
theorem Sound.nodup_made (sound : station.Sound hand) : station.made.Nodup := by
  have runTokens : (station.runs.flatMap Run.tokens).Nodup := by
    refine List.Nodup.sublist (runTokens_sublist station.runs) ?_
    exact sound.runs.distinct.map fun _ _ same => Token.run.inj same
  have calls : (station.chronicle.flatMap Occurrence.makes).Nodup := by
    refine List.nodup_iff_count_le_one.mpr fun token => ?_
    cases token with
    | call session number =>
        rw [count_call_makes, sound.tale.numbers session]
        exact List.nodup_iff_count_le_one.mp List.nodup_range' number
    | run session =>
        rw [List.count_eq_zero_of_not_mem (run_not_mem_makes _ session)]
        exact Nat.zero_le 1
  refine calls.append runTokens fun token isCall isRun => ?_
  obtain ⟨run, _, token⟩ := List.mem_flatMap.mp isRun
  unfold Run.tokens at token
  split at token
  · cases List.mem_singleton.mp token
    exact run_not_mem_makes _ _ isCall
  · cases token

/-- No token is at two places. -/
theorem Sound.nodup
    (sound : station.Sound hand) :
    (hand ++ (station.held ++ station.spent)).Nodup :=
  sound.balanced.nodup_iff.mpr sound.nodup_made

/-- A token in hand is neither held nor spent. -/
theorem Sound.only_in_hand
    {token : Token}
    (sound : station.Sound (token :: hand)) :
    token ∉ station.held ∧ token ∉ station.spent := by
  have nodup := sound.nodup
  rw [List.cons_append] at nodup
  have once := (List.nodup_cons.mp nodup).1
  simp only [List.mem_append, not_or] at once
  exact once.2

/-- The run whose token is in hand is there. -/
theorem Sound.run_of_hand
    {session : Nat}
    (sound : station.Sound (.run session :: hand)) :
    ∃ run, station.run? session = some run := by
  have isMade : .run session ∈ station.made :=
    sound.balanced.subset List.mem_cons_self
  rcases List.mem_append.mp isMade with isCall | isRun
  · exact (run_not_mem_makes _ _ isCall).elim
  · obtain ⟨run, isThere, token⟩ := List.mem_flatMap.mp isRun
    unfold Run.tokens at token
    split at token
    · cases List.mem_singleton.mp token
      exact ⟨run, run?_of_mem sound.runs.distinct isThere⟩
    · cases token

/-! ## The record -/

/-- What the record says before something happens, and how the station is then, bears out that it
happens. -/
def Bears (station : Station) (before : List Occurrence) : Occurrence → Prop
  | .issued session number => station.IsAccounted session number
  | .settled session number outcome => CallEnds before session number outcome
  | .stopped session outcome => station.HasStopped session outcome
  | .spawned session process => station.TalksTo session process
  | .parted session code outcome => station.HasParted session code outcome
  | .forsaken _ failure =>
    failure = .cancelled ∨ failure = .load .noHome ∧ searchPath? station.environment = none
  | .hungUp session _ => ∀ number, .issued session number ∈ before →
    station.IsResolved session number ∨ station.IsLost session number
  | _ => True

/-- The record bears out what it did when something is put on it that is borne out. -/
theorem Sound.taleFits_append
    {after : Station}
    {occurrence : Occurrence}
    (sound : station.Sound hand)
    (lasts : station.Lasts after)
    (chronicle : after.chronicle = station.chronicle ++ [occurrence])
    (numbers : ∀ session, requestNumbers after.chronicle session =
      List.range' 1 (after.lastRequest session))
    (talked : ∀ session code outcome, .parted session code outcome ∈ station.chronicle →
      ∀ process, after.TalksTo session process → station.TalksTo session process)
    (waits : ∀ session number promise, station.Pends session number promise →
      after.IsAccounted session number)
    (bears : after.Bears station.chronicle occurrence) :
    after.TaleFits where
  numbers := numbers
  calls before session number outcome later split := by
    rw [chronicle] at split
    rcases List.eq_nil_or_concat later with rfl | ⟨rest, last, rfl⟩
    · obtain ⟨rfl, isSettled⟩ := List.append_inj' split rfl
      cases isSettled
      exact bears
    · rw [List.concat_eq_append, ← List.cons_append, ← List.append_assoc] at split
      exact sound.tale.calls before session number outcome rest (List.append_inj' split rfl).1
  partings session code outcome parted := by
    rw [chronicle] at parted
    rcases List.mem_append.mp parted with old | isNew
    · exact lasts.hasParted (sound.tale.partings session code outcome old)
        (talked session code outcome old)
    · cases List.mem_singleton.mp isNew
      exact bears
  stops session outcome stopped := by
    rw [chronicle] at stopped
    rcases List.mem_append.mp stopped with old | isNew
    · exact lasts.hasStopped (sound.tale.stops session outcome old)
    · cases List.mem_singleton.mp isNew
      exact bears
  starts session process spawned := by
    rw [chronicle] at spawned
    rcases List.mem_append.mp spawned with old | isNew
    · exact lasts.talksTo (sound.tale.starts session process old)
    · cases List.mem_singleton.mp isNew
      exact bears
  forsaken session failure isForsaken := by
    rw [chronicle] at isForsaken
    rcases List.mem_append.mp isForsaken with old | isNew
    · rw [lasts.environment]
      exact sound.tale.forsaken session failure old
    · cases List.mem_singleton.mp isNew
      exact bears
  accounted session number issued := by
    rw [chronicle] at issued
    rcases List.mem_append.mp issued with old | isNew
    · exact lasts.isAccounted (sound.tale.accounted session number old) (waits session number)
    · cases List.mem_singleton.mp isNew
      exact bears
  hangUps before session cause later split number issued := by
    rw [chronicle] at split
    rcases List.eq_nil_or_concat later with rfl | ⟨rest, last, rfl⟩
    · obtain ⟨rfl, isHungUp⟩ := List.append_inj' split rfl
      cases isHungUp
      exact bears number issued
    · rw [List.concat_eq_append, ← List.cons_append, ← List.append_assoc] at split
      exact (sound.tale.hangUps before session cause rest (List.append_inj' split rfl).1 number
        issued).imp lasts.isResolved lasts.isLost

theorem made_record
    (station : Station)
    (occurrence : Occurrence) :
    ({ station with chronicle := station.chronicle ++ [occurrence] } : Station).made.Perm
      (occurrence.makes ++ station.made) := by
  simp only [Station.made, List.flatMap_append, List.flatMap_singleton, List.append_assoc]
  exact List.perm_append_comm_assoc _ _ _

theorem spent_record
    (station : Station)
    (occurrence : Occurrence) :
    ({ station with chronicle := station.chronicle ++ [occurrence] } : Station).spent =
      station.spent ++ occurrence.spends := by
  simp [Station.spent]

/-- New tokens are in hand first. -/
theorem Balanced.fresh
    {before after : Station}
    {hand new : List Token}
    (balanced : before.Balanced hand)
    (held : after.held = before.held)
    (spent : after.spent = before.spent)
    (made : after.made.Perm (new ++ before.made)) :
    after.Balanced (new ++ hand) := by
  unfold Balanced at balanced ⊢
  rw [held, spent, List.append_assoc]
  exact (balanced.append_left new).trans made.symm

/-- Something that spends tokens in hand and makes none may be put on record. -/
theorem Sound.record
    {occurrence : Occurrence}
    (sound : station.Sound (occurrence.spends ++ hand))
    (makesNone : occurrence.makes = [])
    (bears : station.Bears station.chronicle occurrence) :
    Comes hand station { station with chronicle := station.chronicle ++ [occurrence] } := by
  have onward : station.Onward { station with chronicle := station.chronicle ++ [occurrence] } :=
    ⟨{ Lasts.refl station with chronicle := List.prefix_append _ _ }, .refl station.loop⟩
  have made : ({ station with chronicle := station.chronicle ++ [occurrence] } : Station).made =
      station.made := by
    simp [Station.made, makesNone]
  have numbers : ∀ session, requestNumbers (station.chronicle ++ [occurrence]) session =
      List.range' 1 (station.lastRequest session) := by
    intro session
    rw [← sound.tale.numbers session]
    cases occurrence with
    | issued other number =>
        cases makesNone
    | _ =>
        simp [requestNumbers, List.filterMap_cons, Occurrence.numberFor?]
  have bearsNow : ({ station with chronicle := station.chronicle ++ [occurrence] } : Station).Bears
      station.chronicle occurrence := by
    cases occurrence with
    | issued session number =>
        cases makesNone
    | stopped session outcome =>
        exact onward.hasStopped bears
    | parted session code outcome =>
        exact onward.hasParted bears fun _ => id
    | hungUp session cause =>
        exact fun number issued => (bears number issued).imp onward.isResolved onward.isLost
    | _ =>
        exact bears
  refine ⟨⟨sound.loopFits onward.toLasts rfl, sound.processesFit onward.toLasts rfl,
    sound.runsFit onward.toLasts rfl (fun _ => made ▸ id) id,
    ⟨sound.desk.numbered, sound.desk.silent⟩,
    sound.taleFits_append onward.toLasts rfl numbers (fun _ _ _ _ _ => id)
      (fun _ _ _ pends => .waits (pends.of_runs_eq rfl)) bearsNow, ?_,
    sound.framesFit onward.toLasts (fun _ => id) fun stance member frame isFrame =>
      .inr ⟨stance, member, isFrame⟩⟩,
    onward⟩
  unfold Balanced
  rw [made]
  refine List.Perm.trans ?_ sound.balanced
  show (hand ++ (station.held ++ _)).Perm _
  rw [spent_record, ← List.append_assoc station.held, ← List.append_assoc hand,
    List.append_assoc occurrence.spends]
  exact List.perm_append_comm

/-! ## Requests, clients and runs that are new -/

/-- A client still fits when a request is entered with its next number. -/
theorem ClientFits.enter
    {session promise : Nat}
    {client : Client}
    (fits : station.ClientFits session client)
    (told : station.loop.topic? promise = some (.answer session client.nextRequest))
    (made : .call session client.nextRequest ∈ station.made) :
    station.ClientFits session (client.enter promise) where
  process := fits.process
  pending := by
    intro entry member
    rcases List.mem_append.mp member with old | isNew
    · exact fits.pending entry old
    · cases List.mem_singleton.mp isNew
      exact ⟨told, made⟩
  reader := fits.reader
  drain := fits.drain
  quiescent := fits.quiescent

/-- The record counts on when a request is entered with the next number of its client. -/
theorem TaleFits.numbers_enter
    {after : Station}
    {session promise : Nat}
    {client : Client}
    (tale : station.TaleFits)
    (found : station.client? session = some client)
    (chronicle : after.chronicle = station.chronicle ++ [.issued session client.nextRequest])
    (clients : ∀ other, after.client? other = (station.client? other).map fun client =>
      if other = session then client.enter promise else client)
    (other : Nat) :
    requestNumbers after.chronicle other = List.range' 1 (after.lastRequest other) := by
  have before := tale.numbers other
  unfold lastRequest at before ⊢
  unfold requestNumbers at before ⊢
  rw [chronicle, List.filterMap_append, before, clients]
  by_cases same : other = session
  · subst same
    simp [found, Occurrence.numberFor?, Client.enter, Client.nextRequest, List.range'_concat,
      Nat.add_comm]
  · have different : ¬session = other := fun isSame => same isSame.symm
    simp [same, different, Occurrence.numberFor?]

/-- A request may be entered with the next number of its client; its token is in hand then. -/
theorem Sound.issue
    {session promise : Nat}
    {client : Client}
    (sound : station.Sound hand)
    (found : station.client? session = some client)
    (told : station.loop.topic? promise = some (.answer session client.nextRequest)) :
    Comes (.call session client.nextRequest :: hand) station
      { station.modifyClient session fun client => client.enter promise with
        chronicle := station.chronicle ++ [.issued session client.nextRequest] } := by
  generalize isAfter : ({ station.modifyClient session fun client => client.enter promise with
    chronicle := station.chronicle ++ [.issued session client.nextRequest] } : Station) = after
  have made : after.made.Perm (.call session client.nextRequest :: station.made) := by
    have sameTokens : ∀ run : Run, ({ run with
        client := run.client.map fun client => client.enter promise } : Run).tokens = run.tokens :=
      fun _ => rfl
    rw [← isAfter, ← made_modifyRun sameTokens station session]
    exact made_record (station.modifyClient session fun client => client.enter promise)
      (.issued session client.nextRequest)
  have loop : after.loop = station.loop := isAfter ▸ rfl
  have processes : after.processes = station.processes := isAfter ▸ rfl
  have runs : after.runs =
      (station.modifyClient session fun client => client.enter promise).runs := isAfter ▸ rfl
  have chronicle : after.chronicle =
      station.chronicle ++ [.issued session client.nextRequest] := isAfter ▸ rfl
  have clients : ∀ other, after.client? other = (station.client? other).map fun client =>
      if other = session then client.enter promise else client := by
    intro other
    rw [← client?_modifyClient, ← isAfter]
    rfl
  have sameSession : ∀ run : Run, ({ run with
      client := run.client.map fun client => client.enter promise } : Run).session = run.session :=
    fun _ => rfl
  have onward : station.Onward after := by
    subst isAfter
    refine ⟨{ Lasts.refl station with chronicle := List.prefix_append _ _, runs := ?_ },
      .refl station.loop⟩
    refine runs_last_modifyRun sameSession (fun _ _ => id) fun run client _ isClient => ?_
    exact ⟨client.enter promise, by rw [isClient]; rfl, rfl⟩
  have numbers := sound.tale.numbers_enter found chronicle clients
  have pending : ∀ other number known, station.Pends other number known →
      after.Pends other number known := by
    rintro other number known ⟨owner, isOwner, waits⟩
    refine ⟨if other = session then owner.enter promise else owner, by rw [clients, isOwner]; rfl, ?_⟩
    split
    · exact List.mem_append_left _ waits
    · exact waits
  have entered : after.Pends session client.nextRequest promise :=
    ⟨client.enter promise, by rw [clients, found]; simp, by simp [Client.enter]⟩
  have keepsMade : ∀ token ∈ station.made, token ∈ after.made :=
    fun _ member => made.symm.subset (List.mem_cons_of_mem _ member)
  have held : after.held = station.held := by
    unfold Station.held
    rw [loop]
  have spent : after.spent = station.spent := by
    simp [Station.spent, chronicle, Occurrence.spends]
  have balanced : after.Balanced ([.call session client.nextRequest] ++ hand) :=
    sound.balanced.fresh held spent made
  refine ⟨⟨sound.loopFits onward.toLasts loop, sound.processesFit onward.toLasts processes,
    ?_, ?_, sound.taleFits_append onward.toLasts chronicle numbers ?_
      (fun other number known waits => .waits (pending other number known waits))
      (.waits entered), balanced,
    sound.framesFit onward.toLasts ?_ fun stance member frame isFrame =>
      .inr ⟨stance, loop ▸ member, isFrame⟩⟩,
    onward⟩
  · refine sound.runsFit_modifyRun onward.toLasts runs loop keepsMade sameSession
      (fun _ => rfl) fun run isRun fits => ?_
    have still := onward.runFits fits keepsMade
    refine ⟨still.known, still.task, still.settled, fun now isNow => ?_⟩
    obtain ⟨old, wasClient, rfl⟩ := Option.map_eq_some_iff.mp isNow
    obtain ⟨_, same⟩ := mem_of_run? isRun
    have isClient : old = client := by
      have foundNow : (station.run? session).bind Run.client = some client := found
      rw [isRun] at foundNow
      exact Option.some.inj (wasClient.symm.trans foundNow)
    refine (still.client old wasClient).enter ?_ ?_
    · rw [isClient, same]
      exact onward.loop.topics told
    · rw [isClient, same]
      exact made.symm.subset List.mem_cons_self
  · subst isAfter
    exact ⟨sound.desk.numbered, sound.desk.silent⟩
  · intro other code outcome _ process talks
    obtain ⟨now, isNow, rfl⟩ := talks
    rw [clients] at isNow
    obtain ⟨old, isOld, rfl⟩ := Option.map_eq_some_iff.mp isNow
    refine ⟨old, isOld, ?_⟩
    split <;> rfl
  · intro other missing
    rw [clients, missing]
    rfl

theorem client?_seat
    (station : Station)
    (session number other : Nat)
    (process : ServerProcess)
    (client : Client) :
    (station.seat session number process client).client? other =
      (station.run? other).bind fun run =>
        if other = session then some client else run.client := by
  have sameSession : ∀ run : Run,
      ({ run with client := some client, isAttached := true } : Run).session = run.session :=
    fun _ => rfl
  rw [← client?_modifyRun station session other sameSession]
  rfl

/-- A process that is there stays where it is when another one is put in its place. -/
theorem process?_seat
    {session number other : Nat}
    {process known : ServerProcess}
    {client : Client}
    (found : station.process? other = some known) :
    (station.seat session number process client).process? other = some known := by
  obtain ⟨entry, isThere, rfl⟩ := Option.map_eq_some_iff.mp found
  unfold process? seat
  dsimp only
  rw [List.find?_append, isThere]
  rfl

/-- A process that was put in its place is there. -/
theorem exists_process?_seat
    (station : Station)
    (session number : Nat)
    (process : ServerProcess)
    (client : Client) :
    ∃ known, (station.seat session number process client).process? number = some known := by
  cases found : station.process? number with
  | some known =>
      exact ⟨known, process?_seat found⟩
  | none =>
      refine ⟨process, ?_⟩
      have missing := Option.map_eq_none_iff.mp found
      unfold process? seat
      dsimp only
      rw [List.find?_append, missing]
      simp

theorem client?_seat_of_ne
    (station : Station)
    {session other : Nat}
    (different : other ≠ session)
    (number : Nat)
    (process : ServerProcess)
    (client : Client) :
    (station.seat session number process client).client? other = station.client? other := by
  rw [client?_seat]
  simp only [different, if_false]
  rfl

/-- Nobody waits for a process that was just spawned. -/
theorem processFits_ofPlan
    (station : Station)
    (number : Nat)
    (pid : Int)
    (plan : SpawnPlan) :
    station.ProcessFits number (.ofPlan pid plan) := by
  refine ⟨fun promise reads => ?_, fun channel promise logs reads => ?_, fun promise waits => ?_⟩
  · cases reads
  · simp only [ServerProcess.ofPlan] at logs
    split at logs
    · cases logs
      cases reads
    · cases logs
  · cases waits

/-- A client that was just made fits where its process is. -/
theorem clientFits_fresh
    {number : Nat}
    (placed : ∃ known, station.process? number = some known)
    (session : Nat)
    (logFile : Option Path)
    (timeout : Json) :
    station.ClientFits session (.fresh number logFile timeout) := by
  refine ⟨placed, fun entry waits => ?_, fun task reads => ?_, fun task drains => ?_,
    fun promise waits => ?_⟩
  · cases waits
  · cases reads
  · cases drains
  · cases waits

/-- A run that had no client goes on when it is given one. -/
theorem onward_seat
    {session number : Nat}
    {process : ServerProcess}
    {client : Client}
    (silent : station.client? session = none) :
    station.Onward (station.seat session number process client) := by
  have sameSession : ∀ run : Run,
      ({ run with client := some client, isAttached := true } : Run).session = run.session :=
    fun _ => rfl
  refine ⟨{ Lasts.refl station with
    chronicle := List.prefix_append _ _, runs := ?_, processes := ?_ }, .refl station.loop⟩
  · intro other known found
    exact ⟨known, process?_seat found, fun _ => id, List.Subset.refl _⟩
  · refine runs_last_modifyRun sameSession (fun _ _ => id) fun run client found isClient => ?_
    have isTalking : station.client? session = some client := by
      unfold client?
      rw [found]
      exact isClient
    cases silent.symm.trans isTalking

theorem made_seat
    (station : Station)
    (session number : Nat)
    (process : ServerProcess)
    (client : Client) :
    (station.seat session number process client).made = station.made := by
  have sameTokens : ∀ run : Run,
      ({ run with client := some client, isAttached := true } : Run).tokens = run.tokens :=
    fun _ => rfl
  rw [← made_modifyRun sameTokens station session]
  simp [Station.made, Station.seat, Occurrence.makes, Station.modifyRun]

/-- A session without a client has made no request, and a fresh client makes none. -/
theorem lastRequest_seat
    {session number : Nat}
    {process : ServerProcess}
    {logFile : Option Path}
    {timeout : Json}
    (silent : station.client? session = none)
    (other : Nat) :
    (station.seat session number process (.fresh number logFile timeout)).lastRequest other =
      station.lastRequest other := by
  unfold lastRequest
  by_cases isSession : other = session
  · subst isSession
    rw [client?_seat, silent]
    cases station.run? other with
    | none =>
        rfl
    | some run =>
        simp [Client.fresh]
  · rw [client?_seat_of_ne station isSession]

/-- A process and its client may be put in their places while the token of the run is in hand. -/
theorem Sound.seat
    {session number : Nat}
    {pid : Int}
    {plan : SpawnPlan}
    {logFile : Option Path}
    {timeout : Json}
    (sound : station.Sound (.run session :: hand))
    (silent : station.client? session = none) :
    Comes (.run session :: hand) station
        (station.seat session number (.ofPlan pid plan) (.fresh number logFile timeout)) ∧
      (station.seat session number (.ofPlan pid plan)
        (.fresh number logFile timeout)).TalksTo session number := by
  obtain ⟨run, isRun⟩ := sound.run_of_hand
  obtain ⟨notHeld, notSpent⟩ := sound.only_in_hand
  have placed := exists_process?_seat station session number (.ofPlan pid plan)
    (.fresh number logFile timeout)
  have others := fun {other} (different : other ≠ session) => client?_seat_of_ne station different
    number (.ofPlan pid plan) (.fresh number logFile timeout)
  have made := made_seat station session number (.ofPlan pid plan) (.fresh number logFile timeout)
  have onward : station.Onward
      (station.seat session number (.ofPlan pid plan) (.fresh number logFile timeout)) :=
    onward_seat silent
  have talks : (station.seat session number (.ofPlan pid plan)
      (.fresh number logFile timeout)).TalksTo session number := by
    refine ⟨.fresh number logFile timeout, ?_, rfl⟩
    rw [client?_seat, isRun]
    simp
  have numbers : ∀ other, requestNumbers (station.chronicle ++ [.spawned session number]) other =
      List.range' 1 ((station.seat session number (.ofPlan pid plan)
        (.fresh number logFile timeout)).lastRequest other) := by
    intro other
    rw [lastRequest_seat silent, ← sound.tale.numbers other]
    simp [requestNumbers, Occurrence.numberFor?]
  generalize isAfter : station.seat session number (.ofPlan pid plan)
    (.fresh number logFile timeout) = after at placed others made onward talks numbers ⊢
  have loop : after.loop = station.loop := isAfter ▸ rfl
  have runs : after.runs = (station.modifyRun session fun run =>
      { run with client := some (.fresh number logFile timeout), isAttached := true }).runs :=
    isAfter ▸ rfl
  have processes : after.processes = station.processes ++ [(number, .ofPlan pid plan)] :=
    isAfter ▸ rfl
  have chronicle : after.chronicle = station.chronicle ++ [.spawned session number] :=
    isAfter ▸ rfl
  rw [← chronicle] at numbers
  have pending : ∀ other request promise, station.Pends other request promise →
      after.IsAccounted other request := by
    rintro other request promise ⟨owner, isOwner, waits⟩
    have different : other ≠ session := by
      rintro rfl
      cases silent.symm.trans isOwner
    exact .waits ⟨owner, (others different).trans isOwner, waits⟩
  have balanced : after.Balanced ([] ++ .run session :: hand) := by
    refine sound.balanced.fresh ?_ ?_ (.of_eq made)
    · unfold Station.held
      rw [loop]
    · simp [Station.spent, chronicle, Occurrence.spends]
  refine ⟨⟨⟨sound.loopFits onward.toLasts loop, ?_, ?_, ?_,
    sound.taleFits_append onward.toLasts chronicle numbers ?_ pending talks, balanced, ?_⟩, onward⟩,
    talks⟩
  · intro entry member
    rw [processes] at member
    rcases List.mem_append.mp member with old | isNew
    · exact onward.processFits (sound.processes entry old)
    · cases List.mem_singleton.mp isNew
      exact processFits_ofPlan after number pid plan
  · refine sound.runsFit_modifyRun onward.toLasts runs loop (fun _ => made ▸ id) (fun _ => rfl)
      (fun _ => rfl) fun run found fits => ?_
    have fitted := onward.runFits fits fun _ => made ▸ id
    refine ⟨fitted.known, fitted.task, fitted.settled, fun client isClient => ?_⟩
    cases isClient
    exact clientFits_fresh placed run.session logFile timeout
  · subst isAfter
    exact ⟨sound.desk.numbered, sound.desk.silent⟩
  · intro other code outcome parted process talksNow
    -- The run of the session has not parted, since its token is still in hand.
    have different : other ≠ session := by
      rintro rfl
      exact notSpent (List.mem_flatMap.mpr ⟨_, parted, List.mem_singleton_self _⟩)
    unfold TalksTo at talksNow ⊢
    rwa [others different] at talksNow
  · intro stance member frame isFrame
    rw [loop] at member
    have fits := sound.frames stance member frame isFrame
    refine ⟨fun other starts => ?_, fun other number holds => ?_⟩
    · -- A frame that is still to start the server would hold the token that is in hand.
      have different : other ≠ session := by
        rintro rfl
        refine notHeld (List.mem_flatMap.mpr ⟨stance, member, List.mem_flatMap.mpr
          ⟨frame, isFrame, ?_⟩⟩)
        rw [starts.tokens]
        exact List.mem_singleton_self _
      rw [others different]
      exact fits.early other starts
    · exact onward.mem (fits.written other number holds)

/-- A run that comes last is found under its session, and the others as before. -/
theorem run?_append
    {after : Station}
    {run : Run}
    (runs : after.runs = station.runs ++ [run])
    (isNew : station.run? run.session = none)
    (other : Nat) :
    after.run? other = if other = run.session then some run else station.run? other := by
  unfold run? at isNew ⊢
  rw [runs, List.find?_append]
  by_cases same : other = run.session
  · subst same
    simp [isNew]
  · have different : ¬run.session = other := fun isSame => same isSame.symm
    simp [same, different]

/-- No client appears with a run that has none. -/
theorem client?_append
    {after : Station}
    {run : Run}
    (runs : after.runs = station.runs ++ [run])
    (isNew : station.run? run.session = none)
    (silent : run.client = none)
    (other : Nat) :
    after.client? other = station.client? other := by
  unfold client?
  rw [run?_append runs isNew]
  by_cases same : other = run.session
  · subst same
    simp [isNew, silent]
  · simp [same]

/-- The runs still fit when the run of a task that was just spawned comes last. -/
theorem RunsFit.append
    {after : Station}
    {session : Nat}
    (fits : station.RunsFit)
    (lasts : station.Lasts after)
    (runs : after.runs = station.runs ++
      [⟨session, some station.loop.promises.length, .lowered, none, false⟩])
    (isNew : ∀ run ∈ station.runs, run.session ≠ session)
    (topics : ∀ promise, after.loop.topic? promise =
      if promise = station.loop.promises.length then some (.run session)
      else station.loop.topic? promise)
    (made : ∀ token ∈ station.made, token ∈ after.made)
    (known : session ∈ after.desk.ledger.ids) :
    after.RunsFit where
  distinct := by
    rw [runs, List.map_append]
    refine fits.distinct.append (List.nodup_singleton session) fun other old isSession => ?_
    obtain ⟨run, member, rfl⟩ := List.mem_map.mp old
    exact isNew run member (List.mem_singleton.mp isSession)
  each run member := by
    rw [runs] at member
    rcases List.mem_append.mp member with old | isLast
    · exact lasts.runFits (fits.each run old) made
    · cases List.mem_singleton.mp isLast
      refine ⟨known, fun task isTask => ?_, nofun, nofun⟩
      cases isTask
      rw [topics, if_pos rfl]
  tasks isRun := by
    rw [topics] at isRun
    rw [runs]
    split at isRun
    · rename_i isTask
      cases isRun
      exact ⟨_, List.mem_append_right _ (List.mem_singleton_self _), rfl, isTask ▸ rfl⟩
    · obtain ⟨run, member, rest⟩ := fits.tasks isRun
      exact ⟨run, List.mem_append_left _ member, rest⟩

/-- A session that has no run yet may be launched. -/
theorem Sound.launch
    {session : Nat}
    (sound : station.Sound hand)
    (known : session ∈ station.desk.ledger.ids)
    (isNew : ∀ run ∈ station.runs, run.session ≠ session) :
    Comes hand station
      { station with
        loop := (station.loop.spawn (.run session) [.begin (.runServer session)]).2
        runs := station.runs ++
          [⟨session, some station.loop.promises.length, .lowered, none, false⟩] } := by
  generalize isAfter : ({ station with
    loop := (station.loop.spawn (.run session) [.begin (.runServer session)]).2
    runs := station.runs ++
      [⟨session, some station.loop.promises.length, .lowered, none, false⟩] } : Station) = after
  have loop : after.loop =
      (station.loop.spawn (.run session) [.begin (.runServer session)]).2 := isAfter ▸ rfl
  have processes : after.processes = station.processes := isAfter ▸ rfl
  have runs : after.runs = station.runs ++
      [⟨session, some station.loop.promises.length, .lowered, none, false⟩] := isAfter ▸ rfl
  have chronicle : after.chronicle = station.chronicle := isAfter ▸ rfl
  have missing : station.run? session = none := by
    refine List.find?_eq_none.mpr fun run member => ?_
    simpa using isNew run member
  have found := run?_append runs missing
  have clients := client?_append runs missing rfl
  have grows := station.loop.grows_spawn (.run session) [.begin (.runServer session)]
  have onward : station.Onward after := by
    subst isAfter
    refine ⟨{ Lasts.refl station with loop := grows.toLasts, runs := ?_ }, grows⟩
    intro other run isRun
    refine ⟨run, ?_, id, fun client isClient => ⟨client, isClient, rfl⟩⟩
    rw [found, if_neg, isRun]
    rintro rfl
    cases missing.symm.trans isRun
  have stances : after.loop.stances = station.loop.stances ++
      [⟨station.loop.promises.length, [.begin (.runServer session)], none⟩] := by
    rw [loop]
    simp [Loop.stances, Loop.spawn, Loop.newPromise]
  have topics : ∀ promise, after.loop.topic? promise =
      if promise = station.loop.promises.length then some (.run session)
      else station.loop.topic? promise := by
    intro promise
    rw [loop]
    exact Loop.topic?_newPromise station.loop (.run session) promise
  have made : after.made = station.made ++ [.run session] := by
    simp [Station.made, runs, chronicle, Run.tokens]
  have runsFit : after.RunsFit := by
    refine sound.runs.append onward.toLasts runs isNew topics (fun _ isMade => ?_)
      (onward.ids known)
    rw [made]
    exact List.mem_append_left _ isMade
  refine ⟨⟨?_, sound.processesFit onward.toLasts processes, runsFit, ?_,
    sound.taleFits onward.toLasts chronicle ?_ ?_ ?_, ?_, ?_⟩, onward⟩
  · rw [loop]
    refine (sound.loopLater onward.toLasts).spawn ?_
    refine ⟨.run session, .tick, ?_, trivial, ?_, fun _ => rfl, fun _ same => by cases same⟩
    · rw [topics, if_pos rfl]
    · have taken : after.Takes (.begin (.runServer session)) .tick (.run session) := .begin trivial
      exact taken.reaches
  · subst isAfter
    exact ⟨sound.desk.numbered, sound.desk.silent⟩
  · intro other silent
    rw [clients, silent]
  · intro other
    unfold lastRequest
    rw [clients]
  · rintro other number promise ⟨owner, isOwner, waits⟩
    exact .waits ⟨owner, (clients other).trans isOwner, waits⟩
  · -- The token of the run is held by the first frame of its task.
    unfold Balanced
    have held : after.held = station.held ++ [.run session] := by
      unfold Station.held
      rw [stances, List.flatMap_append]
      rfl
    have spent : after.spent = station.spent := by
      simp [Station.spent, chronicle]
    rw [held, spent, made]
    refine List.Perm.trans ?_ (sound.balanced.append_right [.run session])
    simp only [List.append_assoc]
    exact (List.perm_append_comm.append_left _).append_left _
  · intro stance member frame isFrame
    rw [stances] at member
    rcases List.mem_append.mp member with old | isLast
    · refine (sound.frames stance old frame isFrame).later (fun other silent => ?_)
        onward.chronicle
      rw [clients, silent]
    · cases List.mem_singleton.mp isLast
      cases List.mem_singleton.mp isFrame
      refine ⟨fun other starts => ?_, fun other number holds => ?_⟩
      · cases starts
        rw [clients]
        unfold client?
        rw [missing]
        rfl
      · cases List.mem_singleton.mp holds

end Station

end AnalyzerSessions
