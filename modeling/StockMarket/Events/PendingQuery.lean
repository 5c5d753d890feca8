import StockMarket.Events.InboxLaws

/-! What the runner's client receives from the pending query, whatever else the inbox is doing. -/

namespace StockMarket

/-- The client gives up on an error status, or on a response that it cannot accept. -/
inductive BackendApiError where
  | status (code : Nat) (body : InboxBody)
  | detail (text : String)
  deriving DecidableEq

/-- The events of a response, each of which the client checks. -/
def InboxResponse.pendingEvents (response : InboxResponse) :
    Except BackendApiError (List EventItem) :=
  if 400 ≤ response.status then .error (.status response.status response.body)
  else
    match response.body with
    | .pending _ results =>
      if results.all EventItem.isValid then .ok results
      else .error (.detail "pending event response has invalid values")
    | _ => .error (.detail "pending event response must include results")

/-- The serializer has accepted an event. -/
def MarketEvent.Accepted (event : MarketEvent) : Prop :=
  ∃ fields : MarketEventFields, fields.serialize = .ok event

section Fields

variable {fields : MarketEventFields} {event : MarketEvent}

/-- An accepted event is made of fields that have each passed their checks. -/
theorem serialize_ok (accepted : fields.serialize = .ok event) :
    charField 255 fields.eventId = .ok event.eventId ∧
      stockCodeField fields.symbol = .ok event.symbol ∧
      charField 64 fields.eventType = .ok event.eventType ∧
      choiceField eventDirections fields.direction = .ok event.direction ∧
      confidenceField fields.confidence = .ok event.confidence ∧
      choiceField eventImpacts fields.impact = .ok event.impact ∧
      optionalDatetimeField fields.occurredAt = .ok event.occurredAt ∧
      datetimeField fields.detectedAt = .ok event.detectedAt ∧
      charField 64 fields.source = .ok event.source ∧
      optionalTextField (some 255) fields.sourceItemId = .ok event.sourceItemId ∧
      optionalTextField none fields.headline = .ok event.headline ∧
      event.occurredAt.any (event.detectedAt < ·) = false := by
  unfold MarketEventFields.serialize at accepted
  -- All fields have passed their checks, and the event did not occur after it was detected.
  split at accepted
  · split_ifs at accepted with early
    cases accepted
    refine ⟨?_, ?_, ?_, ?_, ?_, ?_, ?_, ?_, ?_, ?_, ?_, by simpa using early⟩ <;> assumption
  · cases accepted

/-- Fields that have each passed their checks make an event that is accepted. -/
theorem serialize_of_ok
    (eventId : charField 255 fields.eventId = .ok event.eventId)
    (symbol : stockCodeField fields.symbol = .ok event.symbol)
    (eventType : charField 64 fields.eventType = .ok event.eventType)
    (direction : choiceField eventDirections fields.direction = .ok event.direction)
    (confidence : confidenceField fields.confidence = .ok event.confidence)
    (impact : choiceField eventImpacts fields.impact = .ok event.impact)
    (occurredAt : optionalDatetimeField fields.occurredAt = .ok event.occurredAt)
    (detectedAt : datetimeField fields.detectedAt = .ok event.detectedAt)
    (source : charField 64 fields.source = .ok event.source)
    (sourceItemId : optionalTextField (some 255) fields.sourceItemId = .ok event.sourceItemId)
    (headline : optionalTextField none fields.headline = .ok event.headline)
    (late : event.occurredAt.any (event.detectedAt < ·) = false) :
    fields.serialize = .ok event := by
  unfold MarketEventFields.serialize
  simp only [eventId, symbol, eventType, direction, confidence, impact, occurredAt, detectedAt,
    source, sourceItemId, headline, late]
  rfl

/-- A confidence that is accepted lies between zero and one. -/
theorem confidenceField_ok {field : Field ℚ} {value : ℚ}
    (accepted : confidenceField field = .ok value) : 0 ≤ value ∧ value ≤ 1 := by
  cases field with
  | missing => cases accepted
  | null => cases accepted
  | invalid printed => cases accepted
  | given given =>
    -- Numbers below zero and above one are refused.
    simp only [confidenceField] at accepted
    split_ifs at accepted with low high
    cases accepted
    exact ⟨not_lt.mp low, not_lt.mp high⟩

/-- A stock code that is accepted has six decimal digits. -/
theorem stockCodeField_ok {field : Field String} {value : String}
    (accepted : stockCodeField field = .ok value) : isSixDigits value = true := by
  cases field with
  | missing => cases accepted
  | null => cases accepted
  | invalid printed => cases accepted
  | given given =>
    -- Whatever else is given has a message, and is not accepted.
    by_contra wrong
    simp only [stockCodeField] at accepted
    split_ifs at accepted with blank digits silent silent
    · cases accepted
      exact wrong digits
    · -- A code of another form has a message.
      simp at silent

/-- Six decimal digits are six digits for the client as well. -/
theorem isDigits_of_isSixDigits {value : String} (six : isSixDigits value = true) :
    value.toList.length = 6 ∧ isDigits value = true := by
  -- Every decimal digit is one of the digits that the client accepts.
  obtain ⟨long, digits⟩ := of_decide_eq_true six
  refine ⟨long, decide_eq_true ⟨?_, ?_⟩⟩
  · rintro rfl
    cases long
  · rw [List.all_eq_true]
    intro c member
    rw [isAnyDigit, List.all_eq_true.mp digits c member, Bool.true_or]

/-- The client accepts every event that the serializer has accepted. -/
theorem MarketEvent.Accepted.isValid (accepted : event.Accepted) :
    event.dispatchPayload.isValid = true := by
  -- The client checks the identifier, the symbol, the direction, the impact, and the confidence.
  obtain ⟨fields, accepted⟩ := accepted
  obtain ⟨eventId, symbol, _, _, confidence, _⟩ := serialize_ok accepted
  obtain ⟨raw, _, stripped, present⟩ := charField_eq eventId
  obtain ⟨long, digits⟩ := isDigits_of_isSixDigits (stockCodeField_ok symbol)
  obtain ⟨low, high⟩ := confidenceField_ok confidence
  refine decide_eq_true ⟨?_, long, digits, ?_, ?_, low, high⟩
  · show codePoints event.eventId ≠ []
    rw [codePoints, ne_eq, List.map_eq_nil_iff, String.toList_eq_nil_iff, stripped]
    exact present
  · show event.direction.value ∈ _
    cases event.direction <;> decide
  · show event.impact.value ∈ _
    cases event.impact <;> decide

end Fields

/-- Every stored event has been accepted, and is stored under its identifier. -/
structure Inbox.Accepted (inbox : Inbox) : Prop where
  keyed : inbox.Keyed
  accepted : ∀ eventId row, inbox.get? eventId = some row → row.event.Accepted

/-- What a thread relies on: rows that it has read, and the events that it has selected. -/
structure Fetched where
  known : List String
  selected : List MarketEvent

/-- Only accepted events are created, and a row that was read can be saved. -/
def Fetching : Program.Protocol InboxOp InboxOp.Reply Fetched where
  allows _
    | .create event => event.Accepted
    | _ => True
  turns phase
    | .pendingRows, rows, later =>
      later = { phase with known := rows.map fun row => row.event.eventId }
    | .get _, none, later => later = phase
    | .get _, some row, later => later = { phase with known := [row.event.eventId] }
    | .select _, events, later => later = { phase with selected := events }
    | .save eventId _, saved, later => (eventId ∈ phase.known → saved = true) ∧ later = phase
    | .create _, _, later => later = phase

/-- The phases rely on rows that are there and on events that have been accepted. -/
structure FetchAgrees (inbox : Inbox) (phases : Dict Nat Fetched) : Prop where
  accepted : inbox.Accepted
  known : ∀ thread phase, phases.get? thread = some phase → ∀ eventId ∈ phase.known,
    ∃ row, inbox.get? eventId = some row
  selected : ∀ thread phase, phases.get? thread = some phase → ∀ event ∈ phase.selected,
    event.Accepted

/-- A pending query for stock codes is answered with the events selected for it. -/
def Answers (request : InboxRequest) (phase : Fetched) (response : InboxResponse) : Prop :=
  ∀ raw openAt now, request = .pending raw openAt now →
    match parseEventSymbols raw with
    | .ok (_ :: _) => ∃ (marketOpen : Bool) (events : List MarketEvent),
      response = ⟨200, .pending marketOpen (events.map MarketEvent.dispatchPayload)⟩ ∧
        ∀ event ∈ events, event ∈ phase.selected
    | _ => response.status = 400

section Programs

variable {request : InboxRequest} {phase : Fetched}

/-- Requests other than the pending query are answered as they like. -/
theorem keeps_other {response : InboxResponse}
    (other : ∀ raw openAt now, request ≠ .pending raw openAt now) :
    Program.Keeps Fetching (Answers request) phase (.done response) :=
  .done fun raw openAt now same => absurd same (other raw openAt now)

/-- The sweep saves only rows that were read, so it goes through. -/
theorem markStaleMarketEvents_fetching (cutoff : Instant) (rows : List InboxRow) :
    ∀ phase : Fetched, (∀ row ∈ rows, row.event.eventId ∈ phase.known) →
      (markStaleMarketEvents cutoff rows).Keeps Fetching (fun _ swept => swept = true) phase := by
  induction rows with
  | nil => intro phase _; exact .done rfl
  | cons row rows ih =>
    intro phase known
    have rest := ih phase fun other member => known other (List.mem_cons_of_mem _ member)
    unfold markStaleMarketEvents
    split
    · -- A row that is too old is saved as stale, and any other one is passed over.
      refine .call trivial fun saved later turned => ?_
      obtain ⟨through, rfl⟩ := turned
      cases through (known row List.mem_cons_self)
      exact rest
    · exact rest

/-- Showing pending events reads them once. -/
theorem pendingMarketEvents_fetching (settings : InboxSettings) (raw : String)
    (openAt now : Instant) : (pendingMarketEvents settings raw openAt now).Keeps Fetching
      (Answers (.pending raw openAt now)) phase := by
  unfold pendingMarketEvents
  split
  · -- The symbols are refused.
    rename_i errors refused
    refine .done fun _ _ _ same => ?_
    cases same
    rw [refused]
  · -- No symbol is named, which is refused as well.
    rename_i none_named
    refine .done fun _ _ _ same => ?_
    cases same
    rw [none_named]
  · rename_i symbols named parsed
    -- Whatever was selected is answered with the status of success.
    have answered : ∀ (marketOpen : Bool) (events : List MarketEvent) (later : Fetched),
        (∀ event ∈ events, event ∈ later.selected) →
        Answers (.pending raw openAt now) later
          ⟨200, .pending marketOpen (events.map MarketEvent.dispatchPayload)⟩ := by
      intro marketOpen events later inside _ _ _ same
      cases same
      rw [parsed]
      cases symbols with
      | nil => exact absurd rfl named
      | cons symbol symbols => exact ⟨marketOpen, events, rfl, inside⟩
    -- Outside market hours nothing is dispatched.
    split
    · exact .done (answered false [] phase nofun)
    · refine .call trivial fun rows later turned => ?_
      cases turned
      -- The rows that the sweep has read are still there when they are saved.
      refine (markStaleMarketEvents_fetching _ rows _ ?_).bind fun swept_phase swept through => ?_
      · intro row member
        exact List.mem_map_of_mem member
      · cases through
        refine .call trivial fun events later turned => ?_
        cases turned
        exact .done (answered true events _ fun _ member => member)

/-- Only the event of the request is created. -/
theorem getOrCreate_fetching {event : MarketEvent} (accepted : event.Accepted) :
    (getOrCreate event).Keeps Fetching (fun _ _ => True) phase := by
  -- The event is found, or it is created, or somebody else has created it meanwhile.
  refine .call trivial fun first later _ => ?_
  cases first with
  | some row => exact .done trivial
  | none =>
    refine .call accepted fun created later _ => ?_
    cases created with
    | true => exact .done trivial
    | false => exact .call trivial fun second later _ => .done trivial

/-- Taking an event in shows none. -/
theorem ingestMarketEvent_fetching (fields : MarketEventFields) :
    (ingestMarketEvent fields).Keeps Fetching (Answers (.ingest fields)) phase := by
  have other : ∀ raw openAt now, InboxRequest.ingest fields ≠ .pending raw openAt now := by
    intro raw openAt now same
    cases same
  unfold ingestMarketEvent
  -- Fields that are refused create nothing.
  split
  · exact keeps_other other
  · rename_i event accepted
    refine (getOrCreate_fetching ⟨fields, accepted⟩).bind fun later found _ => ?_
    cases found with
    | none => exact keeps_other other
    | some entry =>
      obtain ⟨row, created⟩ := entry
      cases created with
      | true => exact keeps_other other
      | false =>
        simp only
        split
        · exact keeps_other other
        · exact keeps_other other

/-- Acknowledging an event shows none. -/
theorem acknowledgeMarketEvent_fetching (eventId : String) :
    (acknowledgeMarketEvent eventId).Keeps Fetching (Answers (.acknowledge eventId)) phase := by
  have other : ∀ raw openAt now, InboxRequest.acknowledge eventId ≠ .pending raw openAt now := by
    intro raw openAt now same
    cases same
  -- An acknowledgement saves a row that was found, if at all.
  refine .call trivial fun found later _ => ?_
  cases found with
  | none => exact keeps_other other
  | some row =>
    obtain ⟨event, state⟩ := row
    cases state with
    | stale => exact keeps_other other
    | dispatched => exact keeps_other other
    | pending =>
      refine .call trivial fun saved later _ => ?_
      cases saved with
      | true => exact keeps_other other
      | false => exact keeps_other other

/-- Every view answers from what it has read. -/
theorem program_fetching (settings : InboxSettings) (request : InboxRequest) :
    (request.program settings).Keeps Fetching (Answers request) phase := by
  cases request with
  | ingest fields => exact ingestMarketEvent_fetching fields
  | pending symbols openAt now => exact pendingMarketEvents_fetching settings symbols openAt now
  | acknowledge eventId => exact acknowledgeMarketEvent_fetching eventId

end Programs

section Turns

variable {inbox : Inbox} {phases : Dict Nat Fetched}

/-- The pending rows and the selected events are stored ones. -/
theorem Inbox.mem_pendingRows {row : InboxRow} (member : row ∈ inbox.pendingRows) :
    ∃ eventId, inbox.get? eventId = some row := by
  -- What is pending is some of what is stored.
  obtain ⟨item, inside, rfl⟩ := List.mem_map.mp (List.mem_of_mem_filter member)
  exact ⟨item.1, Dict.get?_eq_some_iff.mpr inside⟩

/-- What is selected is pending. -/
theorem Inbox.mem_select {symbols : List String} {event : MarketEvent}
    (member : event ∈ inbox.select symbols) : ∃ row ∈ inbox.pendingRows, row.event = event := by
  -- What is selected is some of the pending rows, in order and up to a limit.
  have sorted := List.mem_of_mem_take member
  rw [List.mem_mergeSort] at sorted
  exact List.mem_map.mp (List.mem_of_mem_filter sorted)

/-- Accepted events are stored as accepted events. -/
theorem Inbox.Accepted.exec {op : InboxOp} (accepted : inbox.Accepted)
    (created : ∀ event, op = .create event → event.Accepted) : (inbox.exec op).1.Accepted := by
  refine ⟨(Inbox.exec_learned accepted.keyed op).1, ?_⟩
  cases op with
  | get eventId => exact accepted.accepted
  | create event =>
    -- An event that is there already is not created again.
    rcases Inbox.create_cases inbox event with ⟨row, _, refused⟩ | ⟨_, made⟩
    · simp only [Inbox.exec, refused]
      exact accepted.accepted
    · simp only [Inbox.exec, made]
      intro eventId row stored
      rw [Dict.get?_set] at stored
      split at stored
      · cases stored
        exact created event rfl
      · exact accepted.accepted eventId row stored
  | pendingRows => exact accepted.accepted
  | select symbols => exact accepted.accepted
  | save eventId state =>
    -- Saving changes the state of a row, and not its event.
    rcases Inbox.save_cases inbox eventId state with ⟨_, refused⟩ | ⟨old, found, made⟩
    · simp only [Inbox.exec, refused]
      exact accepted.accepted
    · simp only [Inbox.exec, made]
      intro other row stored
      rw [Dict.get?_set] at stored
      split at stored
      · cases stored
        exact accepted.accepted eventId old found
      · exact accepted.accepted other row stored

/-- Nothing is stored at first, and no thread relies on anything. -/
theorem FetchAgrees.new : FetchAgrees .empty .empty := by
  refine ⟨⟨?_, ?_⟩, ?_, ?_⟩
  all_goals
    intro _ _ found
    cases found

/-- A phase that relies on nothing new, or on what is so, takes the place of another one. -/
theorem FetchAgrees.set {after : Inbox} (agrees : FetchAgrees inbox phases)
    (accepted : after.Accepted) (kept : inbox.Extends after) {thread : Nat} {phase : Fetched}
    (known : ∀ eventId ∈ phase.known, ∃ row, after.get? eventId = some row)
    (selected : ∀ event ∈ phase.selected, event.Accepted) :
    FetchAgrees after (phases.set thread phase) := by
  refine ⟨accepted, ?_, ?_⟩
  · -- Rows that were read by other threads are not deleted.
    intro other found at_phase eventId member
    rw [Dict.get?_set] at at_phase
    split at at_phase
    · cases at_phase
      exact known eventId member
    · obtain ⟨row, stored⟩ := agrees.known other found at_phase eventId member
      obtain ⟨later, stored, _⟩ := kept eventId row stored
      exact ⟨later, stored⟩
  · intro other found at_phase event member
    rw [Dict.get?_set] at at_phase
    split at at_phase
    · cases at_phase
      exact selected event member
    · exact agrees.selected other found at_phase event member

/-- What an operation replies leads to a phase that relies on what is so. -/
theorem FetchAgrees.exec (agrees : FetchAgrees inbox phases) {thread : Nat} {phase : Fetched}
    (at_phase : phases.get? thread = some phase) {op : InboxOp}
    (allowed : Fetching.allows phase op) :
    ∃ later, Fetching.turns phase op (inbox.exec op).2 later ∧
      FetchAgrees (inbox.exec op).1 (phases.set thread later) := by
  have known := agrees.known thread phase at_phase
  have selected := agrees.selected thread phase at_phase
  have accepted : (inbox.exec op).1.Accepted :=
    agrees.accepted.exec fun event same => by subst same; exact allowed
  have kept := Inbox.exec_extends inbox op
  -- What the thread has read stays, since rows are never deleted.
  have still : ∀ eventId ∈ phase.known, ∃ row, (inbox.exec op).1.get? eventId = some row := by
    intro eventId member
    obtain ⟨row, stored⟩ := known eventId member
    obtain ⟨later, stored, _⟩ := kept eventId row stored
    exact ⟨later, stored⟩
  cases op with
  | get eventId =>
    -- A row that is found is known from then on.
    cases found : inbox.get? eventId with
    | none =>
      exact ⟨phase, by simp only [Inbox.exec, found]; rfl, agrees.set accepted kept still selected⟩
    | some row =>
      refine ⟨{ phase with known := [row.event.eventId] }, by simp only [Inbox.exec, found]; rfl,
        agrees.set accepted kept ?_ selected⟩
      intro other member
      rw [List.mem_singleton.mp member, agrees.accepted.keyed eventId row found]
      exact ⟨row, found⟩
  | create event => exact ⟨phase, rfl, agrees.set accepted kept still selected⟩
  -- Every row that is read is stored under its own identifier.
  | pendingRows =>
    refine ⟨{ phase with known := inbox.pendingRows.map fun row => row.event.eventId }, rfl,
      agrees.set accepted kept ?_ selected⟩
    intro eventId member
    obtain ⟨row, inside, rfl⟩ := List.mem_map.mp member
    obtain ⟨eventId, stored⟩ := Inbox.mem_pendingRows inside
    rw [agrees.accepted.keyed eventId row stored]
    exact ⟨row, stored⟩
  -- What is selected is remembered along with the rows.
  | select symbols =>
    refine ⟨{ phase with selected := inbox.select symbols }, rfl,
      agrees.set accepted kept still ?_⟩
    -- What is selected was stored, and so it was accepted.
    intro event member
    obtain ⟨row, inside, rfl⟩ := Inbox.mem_select member
    obtain ⟨eventId, stored⟩ := Inbox.mem_pendingRows inside
    exact agrees.accepted.accepted eventId row stored
  | save eventId state =>
    refine ⟨phase, ⟨fun member => ?_, rfl⟩, agrees.set accepted kept still selected⟩
    -- A row that was read before is still there to be saved.
    obtain ⟨row, stored⟩ := known eventId member
    rcases Inbox.save_cases inbox eventId state with ⟨absent, _⟩ | ⟨_, _, made⟩
    · rw [absent] at stored
      cases stored
    · show (inbox.save eventId state).2 = true
      rw [made]

/-- One turn keeps what the threads rely on, and its answer is one that the protocol allows. -/
theorem fetch_step (settings : InboxSettings) {system : InboxSystem}
    (phased : system.Phased Fetching Answers phases) (agrees : FetchAgrees system.store phases)
    (turn : InboxTurn) :
    ∃ phases', (system.step (inboxService settings) turn).1.Phased Fetching Answers phases' ∧
      FetchAgrees (system.step (inboxService settings) turn).1.store phases' ∧
      ∀ request response, (system.step (inboxService settings) turn).2 = some (request, response) →
        ∃ phase, Answers request phase response ∧ ∀ event ∈ phase.selected, event.Accepted := by
  have admits : ∀ thread request store program, turn = .begin thread request →
      phases.get? thread = none →
      (inboxService settings).serve system.store thread request = some (store, program) →
      ∃ phase, program.Keeps Fetching (Answers request) phase ∧
        FetchAgrees store (phases.set thread phase) := by
    intro thread request store program _ _ admitted
    cases admitted
    -- A new thread has read nothing.
    refine ⟨⟨[], []⟩, program_fetching settings request, agrees.set agrees.accepted (.refl _) ?_ ?_⟩
    · intro eventId member
      cases member
    · intro event member
      cases member
  -- What an operation reads is known to the thread from then on.
  have performs : ∀ thread nature request op next store reply phase,
      turn = .resume thread nature →
      system.threads.get? thread = some (request, .call op next) →
      phases.get? thread = some phase → Fetching.allows phase op →
      (inboxService settings).exec system.store nature op = some (store, reply) →
      ∃ later, Fetching.turns phase op reply later ∧ FetchAgrees store (phases.set thread later) := by
    intro thread nature request op next store reply phase _ _ at_phase allowed executed
    have turned := agrees.exec at_phase allowed
    rw [show system.store.exec op = (store, reply) from Option.some.inj executed] at turned
    exact turned
  -- A thread that is done has answered from rows that are still accepted.
  have answers : ∀ thread request phase response, phases.get? thread = some phase →
      Answers request phase response → FetchAgrees system.store (phases.erase thread) := by
    intro thread request phase response _ _
    refine ⟨agrees.accepted, fun other found at_phase => ?_, fun other found at_phase => ?_⟩
    all_goals
      rw [Dict.get?_erase] at at_phase
      split at at_phase
      · cases at_phase
    · exact agrees.known other found at_phase
    · exact agrees.selected other found at_phase
  obtain ⟨phases', phased', agrees', answered⟩ :=
    phased.step turn FetchAgrees agrees admits performs answers
  refine ⟨phases', phased', agrees', fun request response given => ?_⟩
  obtain ⟨thread, phase, at_phase, ended⟩ := answered request response given
  exact ⟨phase, ended, agrees.selected thread phase at_phase⟩

end Turns

section Runs

variable {settings : InboxSettings} {turns : List InboxTurn} {system : InboxSystem}
  {answers : List (Option (InboxRequest × InboxResponse))}

/-- In every run the answers are ones that the protocol allows, about accepted events. -/
theorem answers_ok (ran : Machine.run (Shared.total (inboxService settings)) InboxSystem.new turns =
    .ok (system, answers)) {request : InboxRequest} {response : InboxResponse}
    (given : some (request, response) ∈ answers) :
    ∃ phase, Answers request phase response ∧ ∀ event ∈ phase.selected, event.Accepted := by
  -- The history says what has been answered so far.
  obtain ⟨last, outputs, same, _, ok⟩ := @Machine.run_history _ _ _ _
    (Shared.total (inboxService settings))
    (fun past system _ => (∃ phases, system.Phased Fetching Answers phases ∧
        FetchAgrees system.store phases) ∧
      ∀ request response, some (request, response) ∈ past →
        ∃ phase, Answers request phase response ∧ ∀ event ∈ phase.selected, event.Accepted)
    (fun past system turn later held => by
      obtain ⟨⟨phases, phased, agrees⟩, ok⟩ := held
      obtain ⟨phases', phased', agrees', answered⟩ :=
        fetch_step settings phased agrees turn
      refine ⟨_, _, rfl, ⟨phases', phased', agrees'⟩, ?_⟩
      intro request response member
      -- An answer is an earlier one, or that of this turn.
      rcases List.mem_append.mp member with before | now
      · exact ok request response before
      · exact answered request response (List.mem_singleton.mp now).symm)
    turns [] InboxSystem.new ⟨⟨.empty, fun _ => rfl, .new⟩, fun _ _ member => by cases member⟩
  cases ran.symm.trans same
  exact ok request response given

/-- The client accepts what the pending query answers when it accepts the symbols. -/
theorem pendingEvents_ok (ran : Machine.run (Shared.total (inboxService settings)) InboxSystem.new
      turns = .ok (system, answers)) {raw symbol : String} {symbols : List String}
    {openAt now : Instant} {response : InboxResponse}
    (parsed : parseEventSymbols raw = .ok (symbol :: symbols))
    (given : some (.pending raw openAt now, response) ∈ answers) :
    ∃ events, response.pendingEvents = .ok events := by
  -- The answer is about accepted events, each of which the client accepts.
  obtain ⟨phase, ended, accepted⟩ := answers_ok ran given
  have answered := ended raw openAt now rfl
  rw [parsed] at answered
  obtain ⟨marketOpen, events, rfl, inside⟩ := answered
  refine ⟨events.map MarketEvent.dispatchPayload, ?_⟩
  have valid : (events.map MarketEvent.dispatchPayload).all EventItem.isValid = true := by
    rw [List.all_eq_true]
    intro item member
    obtain ⟨event, selected, rfl⟩ := List.mem_map.mp member
    exact (accepted event (inside event selected)).isValid
  simp only [InboxResponse.pendingEvents, valid, if_true]
  rfl

/-- The client does not accept the answer when the query does not accept the symbols. -/
theorem pendingEvents_refused (ran : Machine.run (Shared.total (inboxService settings))
      InboxSystem.new turns = .ok (system, answers)) {raw : String} {errors : FieldErrors}
    {openAt now : Instant} {response : InboxResponse}
    (refused : parseEventSymbols raw = .error errors)
    (given : some (.pending raw openAt now, response) ∈ answers) :
    response.pendingEvents = .error (.status 400 response.body) := by
  obtain ⟨phase, ended, _⟩ := answers_ok ran given
  have answered := ended raw openAt now rfl
  rw [refused] at answered
  -- The refusal comes with a status that the client does not accept.
  have status : response.status = 400 := answered
  rw [InboxResponse.pendingEvents, status, if_pos (by decide)]

end Runs

end StockMarket
