import AnalyzerSessions.Proofs.RequestRules
import AnalyzerSessions.Client.Incoming

namespace AnalyzerSessions

/-!
# Rules for messages from the server

Handling a message fails in no way that stands for the failure of a server, and it
settles a request only with what the message says about that request.
-/

/-- What is next leads to a topic, and holds no tokens. -/
structure Station.LeadsFreely (station : Station) (next : Next) (goal : Topic) : Prop where
  free : next.tokens = []
  leads : station.Leads next goal

/-- An outcome leads freely where it tells what is wanted. -/
theorem Station.leadsFreely_give
    {station : Station}
    {goal : Topic}
    {outcome : Outcome}
    (told : station.Holds goal outcome) :
    station.LeadsFreely (.give outcome) goal :=
  ⟨rfl, Station.leads_give told⟩

/-- The promise that is found for a request is that of one that waits. -/
theorem Client.mem_of_promise?
    (client : Client)
    {number promise : Nat}
    (found : client.promise? number = some promise) :
    (number, promise) ∈ client.pending := by
  obtain ⟨⟨known, isPromise⟩, isThere, rfl⟩ := Option.map_eq_some_iff.mp found
  have same : known = number := by
    simpa using List.find?_some isThere
  exact same ▸ List.mem_of_find?_eq_some isThere

/-- An answer is for an unanswered request whose number its identifier stands for. -/
theorem Client.answered?_eq_some
    {client : Client}
    {id : Json}
    {number promise : Nat}
    (isFor : client.answered? id = .ok (some (number, promise))) :
    requestNumber? id = .ok (some number) ∧ client.promise? number = some promise := by
  unfold answered? at isFor
  split at isFor
  · cases isFor
  · cases stands : requestNumber? id with
    | error misuse =>
        rw [stands] at isFor
        cases isFor
    | ok known? =>
        rw [stands] at isFor
        obtain ⟨known, rfl, promised⟩ := Option.bind_eq_some_iff.mp (Except.ok.inj isFor)
        obtain ⟨_, waits, same⟩ := Option.map_eq_some_iff.mp promised
        cases same
        exact ⟨rfl, waits⟩

namespace Move

variable {α β : Type} {hand : List Token} {station : Station}

/-- A move that gives what is next leads where that leads. -/
theorem Keeps.leads_next
    {move : Move Next}
    {goal : Topic}
    {fails : Failure → Prop}
    (kept : Keeps hand station move (fun next after => after.LeadsFreely next goal) fails)
    (failed : ∀ failure (after : Station), fails failure → after.Holds goal (.error failure)) :
    Leads hand station move goal := by
  unfold Keeps at kept
  unfold Leads
  rw [make_eq]
  generalize perform move station = result at kept ⊢
  rcases result with ⟨failure | next, after⟩
  · exact ⟨kept.1, Station.leads_give (failed failure after kept.2)⟩
  · obtain ⟨comes, free, leads⟩ := kept
    dsimp only
    rw [free]
    exact ⟨comes, leads⟩

/-- A move that gives what is next, or of which the failure is dealt with. -/
theorem Keeps.leads_recover
    {move : Move Next}
    {recover : Failure → Move Next}
    {goal : Topic}
    (tried : Keeps hand station move (fun next after => after.LeadsFreely next goal)
      fun _ => True)
    (recovered : ∀ failure mid, Comes hand station mid → Leads hand mid (recover failure) goal) :
    Leads hand station (tryCatch move recover) goal := by
  unfold Keeps at tried
  unfold Leads
  rw [make_eq, perform_tryCatch]
  generalize perform move station = result at tried ⊢
  rcases result with ⟨failure | next, mid⟩
  · obtain ⟨comes, leads⟩ := recovered failure mid tried.1
    exact ⟨tried.1.trans comes, leads⟩
  · obtain ⟨comes, free, leads⟩ := tried
    dsimp only
    rw [free]
    exact ⟨comes, leads⟩

/-! ## Leaves and handlers -/

theorem keeps_connection
    (sound : station.Sound hand)
    (session : Nat)
    (member : String) :
    Keeps hand station (connection session member) (fun _ _ => True) fun _ => True := by
  refine keeps_get ?_
  split
  · exact keeps_pure sound trivial
  · exact keeps_throw sound trivial

/-- A request for a leaf leads to its end. -/
theorem leads_sendRequest
    (sound : station.Sound hand)
    (session : Nat)
    (method : String)
    (params : Json) :
    Leads hand station (sendRequest session method params) .work := by
  refine (keeps_connection sound session _).leads (fun connection mid comes _ => ?_)
    fun _ _ _ _ => trivial
  split
  · exact (leads_request comes.sound session method params .null).serving (.inr rfl)
  · exact (keeps_observe comes.sound _).then_leads fun _ _ later _ => leads_give later.sound trivial

/-- A notification leads to its end. -/
theorem leads_notify
    (sound : station.Sound hand)
    (session : Nat)
    (method : String)
    (params : Json) :
    Leads hand station (notify session method params) .work := by
  refine ((keeps_notify sound session method params).imp (fun next after _ same => ?_)
    fun _ => id).leads_next fun _ _ _ => trivial
  obtain ⟨rfl, _⟩ := same
  exact Station.leadsFreely_give trivial

/-- A notification for a leaf leads to its end. -/
theorem leads_sendNotification
    (sound : station.Sound hand)
    (session : Nat)
    (method : String)
    (params : Json) :
    Leads hand station (sendNotification session method params) .work := by
  refine (keeps_connection sound session _).leads (fun connection mid comes _ => ?_)
    fun _ _ _ _ => trivial
  split
  · exact leads_notify comes.sound session method params
  · exact (keeps_observe comes.sound _).then_leads fun _ _ later _ => leads_give later.sound trivial

theorem keeps_endCode
    (sound : station.Sound hand)
    (code : Code)
    (arguments : List Json) :
    Keeps hand station (endCode code arguments)
      (fun next after => after.LeadsFreely next .work) fun _ => False := by
  refine (keeps_observe sound _).then_keeps fun _ mid comes _ => ?_
  split
  · exact keeps_pure comes.sound (Station.leadsFreely_give trivial)
  · exact keeps_pure comes.sound (Station.leadsFreely_give trivial)

theorem keeps_callCode
    (sound : station.Sound hand)
    (code : Code)
    (arguments : List Json) :
    Keeps hand station (callCode code arguments)
      (fun next after => after.LeadsFreely next .work) fun _ => False := by
  have slept : ∀ (after : Station) (time : Option Nat),
      after.Takes (.slept code arguments time) .work .work := fun _ _ => .plain trivial
  unfold callCode
  split
  · exact keeps_endCode sound code arguments
  · split
    · refine keeps_pure sound ⟨rfl, ?_⟩
      have yields : station.Leads Next.yield .tick := by
        refine ⟨⟨.tick, .refl .tick, rfl⟩, fun frame member => ?_⟩
        cases member
      exact yields.into (.inr rfl) (slept station none) nofun
    · refine (keeps_newPromise sound id).then_keeps ?_
      rintro promise mid comes ⟨told, _⟩
      refine (keeps_change (comes.sound.settleAfter told _)).then_keeps fun _ after later _ => ?_
      refine keeps_pure later.sound ⟨rfl, ?_⟩
      exact (Station.leads_await .any).into (.refl .work) (slept after (some promise)) nofun

/-- Supplied code leads to its end. -/
theorem leads_callCode
    (sound : station.Sound hand)
    (code : Code)
    (arguments : List Json) :
    Leads hand station (callCode code arguments) .work :=
  (keeps_callCode sound code arguments).leads_next fun _ _ => False.elim

/-- Supplied code that was waited for leads to its end. -/
theorem leads_afterSleep
    (sound : station.Sound hand)
    (code : Code)
    (arguments : List Json)
    (time : Option Nat)
    (outcome : Outcome) :
    Leads hand station (afterSleep code arguments time outcome) .work := by
  unfold afterSleep
  split
  · exact (keeps_endCode sound code arguments).leads_next fun _ _ => False.elim
  · dsimp only
    split
    · exact leads_change (sound.cancelTimer _)
        (leads_give (sound.cancelTimer _).sound trivial)
    · exact leads_give sound trivial

theorem keeps_callHandler
    (sound : station.Sound hand)
    (session : Session)
    (params : Json)
    (handler : Handler) :
    Keeps hand station (callHandler session params handler)
      (fun next after => after.LeadsFreely next .work) fun _ => True := by
  cases handler with
  | status =>
      refine (keeps_atDesk_of_spares sound (Act.keeps_noteStatus session params).spares).bind ?_
      exact fun _ _ comes _ => keeps_pure comes.sound (Station.leadsFreely_give trivial)
  | applyEdit =>
      refine (keeps_atDesk_of_spares sound (Act.spares_answerApplyEdit session params)).bind ?_
      exact fun _ _ comes _ => keeps_pure comes.sound (Station.leadsFreely_give trivial)
  | supplied code =>
      exact (keeps_callCode sound code [params]).imp (fun _ _ _ => id) fun _ => False.elim
  | value value =>
      exact keeps_throw sound trivial

theorem keeps_dispatch
    (sound : station.Sound hand)
    (id : Nat)
    (method params : Json) :
    Keeps hand station (dispatch id method params)
      (fun found after => ∀ next, found = some next → after.LeadsFreely next .work)
      fun failure => ¬failure.IsResponse := by
  refine ((keeps_session sound id).imp (fun _ _ _ found => found)
    fun _ failed => failed.1).bind ?_
  rintro session _ comes ⟨rfl, _⟩
  split
  · refine keeps_pure sound fun next same => ?_
    cases same
    exact Station.leadsFreely_give trivial
  · refine keeps_pure sound fun next same => ?_
    cases same
  · rename_i handler _
    have called : Keeps hand _ (tryCatch (callHandler session params handler) fun failure =>
        return Next.fail failure) (fun next after => after.LeadsFreely next .work)
        fun failure => ¬failure.IsResponse :=
      (keeps_callHandler sound session params handler).recover fun failure mid later _ =>
        keeps_pure later.sound (Station.leadsFreely_give trivial)
    refine called.bind fun next mid later leads => keeps_pure later.sound fun other same => ?_
    cases same
    exact leads

/-! ## Requests of the server -/

/-- A failure that no server told may end the handling of a message. -/
theorem holds_handling
    {failure : Failure}
    (isOwn : ¬failure.IsResponse) :
    station.Holds .handling (.error failure) := by
  intro other same
  cases same
  exact isOwn

/-- The answer to a request of the server is written. -/
theorem leads_respond
    (sound : station.Sound hand)
    (session : Nat)
    (id : Json)
    (body : Except Json Json) :
    Leads hand station (respond session id body) .handling := by
  refine (keeps_write sound session _).leads (fun _ _ comes _ => ?_) fun _ _ _ => holds_handling
  exact leads_give comes.sound nofun

/-- A request without a handler is answered. -/
theorem leads_answerUnhandled
    (sound : station.Sound hand)
    (session : Nat)
    (method id params : Json) :
    Leads hand station (answerUnhandled session method id params) .handling := by
  unfold answerUnhandled
  split
  · refine (keeps_session sound session).leads ?_ fun _ _ _ failed => holds_handling failed.1
    rintro known _ comes ⟨rfl, _⟩
    split
    · exact leads_throw sound (holds_handling fun isResponse => isResponse)
    · exact leads_respond sound session id _
  · split
    · exact leads_respond sound session id _
    · exact leads_respond sound session id _

/-- A request of the server is handled. -/
theorem leads_handleRequest
    (sound : station.Sound hand)
    (session : Nat)
    (method id params : Json) :
    Leads hand station (handleRequest session method id params) .handling := by
  refine (keeps_say sound _ _).then_leads fun _ mid comes _ => ?_
  refine (keeps_dispatch comes.sound session method params).leads (fun found after later leads => ?_)
    fun _ _ _ => holds_handling
  split
  · obtain ⟨free, leadsOn⟩ := leads _ rfl
    refine leads_pure ?_ (leadsOn.into (.refl .work) .answering nofun)
    rw [Next.tokens_into, free]
    exact later.sound
  · exact leads_answerUnhandled later.sound session method id params

/-- A request of the server is answered when its handler has ended. -/
theorem leads_afterHandler
    (sound : station.Sound hand)
    (session : Nat)
    (method id : Json)
    (outcome : Outcome) :
    Leads hand station (afterHandler session method id outcome) .handling := by
  unfold afterHandler
  split
  · exact leads_respond sound session id _
  · exact leads_respond sound session id _
  · exact leads_give sound (holds_handling fun isResponse => isResponse)
  · exact (keeps_say sound _ _).then_leads fun _ _ comes _ =>
      leads_respond comes.sound session id _

/-! ## Notifications -/

/-- A notification is handled. -/
theorem leads_handleNotification
    (sound : station.Sound hand)
    (session : Nat)
    (method params : Json) :
    Leads hand station (handleNotification session method params) .handling := by
  refine (keeps_say sound _ _).then_leads fun _ mid comes _ => ?_
  refine (keeps_dispatch comes.sound session method params).leads (fun found after later leads => ?_)
    fun _ _ _ => holds_handling
  have leadsOn : after.LeadsFreely (found.getD .done) .work := by
    cases found with
    | none =>
        exact Station.leadsFreely_give trivial
    | some next =>
        exact leads next rfl
  refine leads_pure ?_ (leadsOn.leads.into (.refl .work) .noted nofun)
  rw [Next.tokens_into, leadsOn.free]
  exact later.sound

theorem keeps_followStatus
    (sound : station.Sound hand)
    (session : Nat) :
    Keeps hand station (followStatus session) (fun _ _ => True) fun _ => False := by
  refine keeps_get ?_
  dsimp only
  split
  · exact keeps_modify (sound.raise _) trivial
  · exact keeps_modify (sound.lower session) trivial

/-- A notification has been handled when its handler has ended. -/
theorem leads_afterNotification
    (sound : station.Sound hand)
    (session : Nat)
    (method : Json)
    (outcome : Outcome) :
    Leads hand station (afterNotification session method outcome) .handling := by
  have followed : ∀ {mid : Station}, mid.Sound hand → Leads hand mid
      (do
        if method = .str "experimental/serverStatus" then followStatus session
        return Next.done) .handling := by
    intro mid soundMid
    dsimp only
    split
    · exact (keeps_followStatus soundMid session).then_leads fun _ _ comes _ =>
        leads_give comes.sound nofun
    · exact leads_give soundMid nofun
  unfold afterNotification
  split
  · exact leads_give sound (holds_handling fun isResponse => isResponse)
  · dsimp only
    split
    · exact (keeps_say sound _ _).then_leads fun _ _ comes _ => followed comes.sound
    · exact followed sound

/-! ## Answers -/

/-- A failure before a move that comes to what is next leaves that out. -/
theorem leads_throw_bind
    {failure : Failure}
    {next : α → Move Next}
    {goal : Topic}
    (sound : station.Sound hand)
    (told : station.Holds goal (.error failure)) :
    Leads hand station (throw failure >>= next) goal :=
  ⟨.refl sound, Station.leads_give told⟩

/-- A call that was not given up was written, or is over. -/
theorem written_or_closed
    {session number : Nat}
    (sound : station.Sound [])
    (made : .call session number ∈ station.made) :
    .written session number ∈ station.chronicle ∨ station.IsClosed session number := by
  have somewhere : .call session number ∈ station.held ++ station.spent := by
    simpa using sound.balanced.symm.subset made
  rcases List.mem_append.mp somewhere with held | spent
  · obtain ⟨stance, member, holds⟩ := List.mem_flatMap.mp held
    obtain ⟨frame, isFrame, isToken⟩ := List.mem_flatMap.mp holds
    exact .inl ((sound.frames stance member frame isFrame).written session number isToken)
  · obtain ⟨occurrence, member, spends⟩ := List.mem_flatMap.mp spent
    refine .inr ?_
    cases occurrence with
    | settled other known outcome =>
        cases List.mem_singleton.mp spends
        exact ⟨outcome, member⟩
    | parted other code outcome =>
        cases List.mem_singleton.mp spends
    | forsaken other failure =>
        cases List.mem_singleton.mp spends
    | _ =>
        cases spends

/-- An answer that has just arrived tells what a request that still waits comes to. -/
theorem holds_answer
    {session number : Nat}
    {message : Json}
    {before : List Occurrence}
    {outcome : Outcome}
    (sound : station.Sound [])
    (arrived : station.chronicle = before ++ [.arrived session message])
    (made : .call session number ∈ station.made)
    (answers : IsAnswer message number outcome) :
    station.Holds (.answer session number) outcome := by
  intro _
  refine (written_or_closed sound made).imp_left fun written => ?_
  refine ⟨before, message, [], arrived, ?_, answers⟩
  rw [arrived] at written
  rcases List.mem_append.mp written with early | last
  · exact early
  · cases List.mem_singleton.mp last

/-- A call that its client has forgotten is settled, unless it was settled already. -/
theorem leads_settleForgotten
    {session number promise : Nat}
    {outcome : Outcome}
    (sound : station.Sound hand)
    (told : station.loop.topic? promise = some (.answer session number))
    (tells : station.Holds (.answer session number) outcome) :
    Leads hand (station.modifyClient session fun client => client.forget number)
      (settleRequest promise outcome >>= fun _ => return Next.done) .handling := by
  unfold settleRequest
  rw [bind_assoc]
  refine leads_get ?_
  split
  · rename_i isSettled
    have forgotten := comes_forget sound session number (.resolved (.settled told isSettled))
    exact leads_throw_bind forgotten.sound (holds_handling fun isResponse => isResponse)
  · -- The promise is settled before the call is forgotten, which comes to the same.
    have settled := sound.settle told nofun tells
    have forgotten := comes_forget settled.sound session number
      (.resolved (.settled (settled.onward.loop.topics told) (Loop.isSettled_settle told outcome)))
    have onward : (station.modifyClient session fun client => client.forget number).Onward
        ((station.modifyClient session fun client => client.forget number).modifyLoop
          fun loop => loop.settle promise outcome) := by
      refine Station.onward_modifyLoop (Loop.grows_settle fun draining => ?_)
      cases told.symm.trans draining
    exact ⟨⟨forgotten.sound, onward⟩, Station.leads_give nofun⟩

/-- An answer settles the request that it is for, if it can be read. -/
theorem leads_handleAnswer
    {session number promise : Nat}
    {id : Json}
    {fields : List (String × Json)}
    (sound : station.Sound hand)
    (arrived : .arrived session (.obj fields) ∈ station.chronicle)
    (told : station.loop.topic? promise = some (.answer session number))
    (tells : ∀ outcome, IsAnswer (.obj fields) number outcome →
      station.Holds (.answer session number) outcome)
    (noMethod : Json.lookup? "method" fields = none)
    (identified : Json.lookup? "id" fields = some id)
    (sameNumber : requestNumber? id = .ok (some number)) :
    Leads hand station
      (handleAnswer session number promise id fields >>= fun _ => return Next.done) .handling := by
  have onward : station.Onward (station.modifyClient session fun client => client.forget number) :=
    Station.onward_forget station session number
  unfold handleAnswer
  rw [bind_assoc]
  split
  · rename_i noError
    obtain ⟨comes, leads⟩ := leads_settleForgotten sound told
      (tells _ (.value noMethod identified sameNumber noError))
    exact ⟨⟨comes.sound, onward.trans comes.onward⟩, leads⟩
  · rename_i error failed
    rw [bind_assoc]
    have said := (keeps_say sound .debug
      ("LSP RESPONSE [" ++ id.messageText ++ "] ERROR: " ++ error.messageText)).1
    split
    · rename_i misuse unread
      have lost : station.IsLost session number :=
        ⟨fields, error, misuse, arrived, .answer noMethod identified sameNumber, failed, unread⟩
      have forgotten := comes_forget said.sound session number (.lost lost)
      exact ⟨⟨forgotten.sound, said.onward.trans forgotten.onward⟩,
        Station.leads_give (holds_handling fun isResponse => isResponse)⟩
    · rename_i failure read
      obtain ⟨comes, leads⟩ := leads_settleForgotten said.sound (said.onward.loop.topics told)
        (said.onward.holds (tells _ (.error noMethod identified sameNumber failed read)))
      exact ⟨⟨comes.sound, said.onward.trans ((Station.onward_forget _ session number).trans
        comes.onward)⟩, leads⟩

/-- A message that answers a request is handled. -/
theorem leads_handleResponse
    {session : Nat}
    {id : Json}
    {fields : List (String × Json)}
    {before : List Occurrence}
    (sound : station.Sound [])
    (arrived : station.chronicle = before ++ [.arrived session (.obj fields)])
    (noMethod : Json.lookup? "method" fields = none)
    (identified : Json.lookup? "id" fields = some id) :
    Leads [] station (handleResponse session id fields) .handling := by
  refine (keeps_client sound session).leads ?_ fun _ _ _ failed => holds_handling failed.1
  rintro client mid comes ⟨rfl, found⟩
  split
  · exact leads_throw sound (holds_handling fun isResponse => isResponse)
  · rename_i answered isFor
    dsimp only
    split
    · rename_i known promise
      obtain ⟨sameNumber, waits⟩ := Client.answered?_eq_some isFor
      obtain ⟨told, made⟩ := (sound.clientFits found).pending _ (client.mem_of_promise? waits)
      have isThere : .arrived session (.obj fields) ∈ mid.chronicle := by
        rw [arrived]
        exact List.mem_append_right _ (List.mem_singleton_self _)
      exact leads_handleAnswer sound isThere told (fun outcome => holds_answer sound arrived made)
        noMethod identified sameNumber
    · exact (keeps_say sound _ _).then_leads fun _ _ comes _ => leads_give comes.sound nofun

/-- A message is handled by what it is. -/
theorem leads_interpret
    {session : Nat}
    {message : Json}
    {before : List Occurrence}
    (sound : station.Sound [])
    (arrived : station.chronicle = before ++ [.arrived session message]) :
    Leads [] station (interpret session message) .handling := by
  unfold interpret
  split
  · dsimp only
    split
    · exact leads_handleRequest sound session _ _ _
    · rename_i identified noMethod
      exact leads_handleResponse sound arrived noMethod identified
    · exact leads_handleNotification sound session _ _
    · exact leads_throw sound (holds_handling fun isResponse => isResponse)
  · exact leads_throw sound (holds_handling fun isResponse => isResponse)
  · exact leads_throw sound (holds_handling fun isResponse => isResponse)
  · exact leads_throw sound (holds_handling fun isResponse => isResponse)

/-- A message is put on record and handled. -/
theorem leads_handleMessage
    (sound : station.Sound [])
    (session : Nat)
    (message : Json) :
    Leads [] station (handleMessage session message) .handling := by
  have recorded : Comes [] station
      { station with chronicle := station.chronicle ++ [.arrived session message] } :=
    sound.record rfl trivial
  exact leads_change recorded (leads_interpret recorded.sound rfl)

end Move

end AnalyzerSessions
