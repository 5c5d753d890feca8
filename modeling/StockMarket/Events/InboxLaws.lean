import StockMarket.Events.Inbox

/-! The states of stored events over all interleavings of the requests to the inbox. -/

namespace StockMarket

namespace Inbox

/-- Every row is stored under the identifier of its event. -/
def Keyed (inbox : Inbox) : Prop :=
  ∀ eventId row, inbox.get? eventId = some row → row.event.eventId = eventId

/-- Stored events stay, with the payload that they were stored with. -/
def Extends (before after : Inbox) : Prop :=
  ∀ eventId row, before.get? eventId = some row →
    ∃ later, after.get? eventId = some later ∧ later.event = row.event

/-- Stored events stay as they are, except that pending ones may move on. -/
def Forward (before after : Inbox) : Prop :=
  ∀ eventId row, before.get? eventId = some row →
    ∃ later, after.get? eventId = some later ∧ later.event = row.event ∧
      (row.state = .pending ∨ later.state = row.state)

/-- An event is stored in a state, or has been before it moved on from pending. -/
def Shows (inbox : Inbox) (eventId : String) (state : EventState) : Prop :=
  ∃ row, inbox.get? eventId = some row ∧ (state = .pending ∨ row.state = state)

/-- Nothing but a pending row is saved in another state. -/
def MovesPending (inbox : Inbox) : InboxOp → Bool
  | .save eventId state =>
    (inbox.get? eventId).all fun row => row.state = .pending ∨ row.state = state
  | _ => true

/-- An inbox extends itself. -/
theorem Extends.refl (inbox : Inbox) : inbox.Extends inbox := by
  intro eventId row stored
  exact ⟨row, stored, rfl⟩

/-- What is kept twice is kept. -/
theorem Extends.trans {first second third : Inbox} (earlier : first.Extends second)
    (later : second.Extends third) : first.Extends third := by
  intro eventId row stored
  obtain ⟨middle, stored, same⟩ := earlier eventId row stored
  obtain ⟨last, stored, alike⟩ := later eventId middle stored
  exact ⟨last, stored, alike.trans same⟩

/-- An inbox is as far as itself. -/
theorem Forward.refl (inbox : Inbox) : inbox.Forward inbox := by
  intro eventId row stored
  exact ⟨row, stored, rfl, .inr rfl⟩

/-- What goes forward twice goes forward. -/
theorem Forward.trans {first second third : Inbox} (earlier : first.Forward second)
    (later : second.Forward third) : first.Forward third := by
  intro eventId row stored
  obtain ⟨middle, stored, same, moved⟩ := earlier eventId row stored
  obtain ⟨last, stored, alike, kept⟩ := later eventId middle stored
  refine ⟨last, stored, alike.trans same, ?_⟩
  -- A row that has left the pending state is not moved again.
  cases moved with
  | inl pending => exact .inl pending
  | inr same =>
    cases kept with
    | inl pending => exact .inl (same ▸ pending)
    | inr kept => exact .inr (kept.trans same)

/-- What has been seen of an event stays true while the rows move forward. -/
theorem Shows.forward {before after : Inbox} {eventId : String} {state : EventState}
    (seen : before.Shows eventId state) (moved : before.Forward after) :
    after.Shows eventId state := by
  obtain ⟨row, stored, fits⟩ := seen
  obtain ⟨later, stored, _, kept⟩ := moved eventId row stored
  refine ⟨later, stored, ?_⟩
  cases fits with
  -- What has been pending may have moved on.
  | inl pending => exact .inl pending
  | inr same =>
    cases kept with
    | inl pending => exact .inl (same.symm.trans pending)
    | inr kept => exact .inr (kept.trans same)

/-- A final state that has been seen is the one that is stored. -/
theorem Shows.final {inbox : Inbox} {eventId : String} {first second : EventState}
    (seen : inbox.Shows eventId first) (also : inbox.Shows eventId second)
    (moved : first ≠ .pending) (left : second ≠ .pending) : first = second := by
  obtain ⟨row, stored, fits⟩ := seen
  obtain ⟨other, again, alike⟩ := also
  -- Both were seen in the one row, which has left the pending state.
  cases stored.symm.trans again
  exact (fits.resolve_left moved).symm.trans (alike.resolve_left left)

/-- Storing a row under a new identifier keeps every other row. -/
theorem Extends.set {inbox : Inbox} {eventId : String} {row : InboxRow}
    (kept : ∀ old, inbox.get? eventId = some old → row.event = old.event) :
    inbox.Extends (inbox.set eventId row) := by
  intro other old stored
  rw [Dict.get?_set]
  -- Under the identifier itself the payload is the one that was stored.
  by_cases same : other = eventId
  · subst same
    exact ⟨row, if_pos rfl, kept old stored⟩
  · exact ⟨old, by rw [if_neg same, stored], rfl⟩

/-- A row that is replaced by one with the same event moves forward when it was pending. -/
theorem Forward.set {inbox : Inbox} {eventId : String} {row : InboxRow}
    (kept : ∀ old, inbox.get? eventId = some old →
      row.event = old.event ∧ (old.state = .pending ∨ row.state = old.state)) :
    inbox.Forward (inbox.set eventId row) := by
  intro other old stored
  rw [Dict.get?_set]
  by_cases same : other = eventId
  · -- The row itself is replaced, and the others stay.
    subst same
    obtain ⟨alike, moved⟩ := kept old stored
    exact ⟨row, if_pos rfl, alike, moved⟩
  · exact ⟨old, by rw [if_neg same, stored], rfl, .inr rfl⟩

/-- A row under its own identifier leaves the inbox keyed. -/
theorem Keyed.set {inbox : Inbox} (keyed : inbox.Keyed) {eventId : String} {row : InboxRow}
    (named : row.event.eventId = eventId) : Keyed (inbox.set eventId row) := by
  -- A row is stored under its own identifier, and the others are where they were.
  intro other stored found
  rw [Dict.get?_set] at found
  split at found
  · rename_i same
    cases found
    rw [named, same]
  · exact keyed other stored found

/-- What a reply tells about the state of one event. -/
def learned : (op : InboxOp) → op.Reply → Option (String × EventState)
  | .get _, some row => some (row.event.eventId, row.state)
  | .create event, true => some (event.eventId, .pending)
  | .save eventId state, true => some (eventId, state)
  | _, _ => none

/-- A creation fails, or it stores the event behind the others. -/
theorem create_cases (inbox : Inbox) (event : MarketEvent) :
    (∃ row, inbox.get? event.eventId = some row ∧ inbox.create event = (inbox, false)) ∨
      (inbox.get? event.eventId = none ∧
        inbox.create event = (inbox.set event.eventId ⟨event, .pending⟩, true)) := by
  cases found : inbox.get? event.eventId with
  | some row => exact .inl ⟨row, rfl, by simp only [create, found]⟩
  | none => exact .inr ⟨rfl, by simp only [create, found]⟩

/-- A save fails, or it replaces the state of a row. -/
theorem save_cases (inbox : Inbox) (eventId : String) (state : EventState) :
    (inbox.get? eventId = none ∧ inbox.save eventId state = (inbox, false)) ∨
      ∃ row, inbox.get? eventId = some row ∧
        inbox.save eventId state = (inbox.set eventId { row with state }, true) := by
  cases found : inbox.get? eventId with
  | none => exact .inl ⟨rfl, by simp only [save, found]⟩
  | some row => exact .inr ⟨row, rfl, by simp only [save, found]⟩

/-- No operation touches the payload of a stored event. -/
theorem exec_extends (inbox : Inbox) (op : InboxOp) : inbox.Extends (inbox.exec op).1 := by
  cases op with
  | get eventId => exact .refl inbox
  | create event =>
    -- An event that is stored already is not stored again.
    rcases create_cases inbox event with ⟨row, _, refused⟩ | ⟨absent, made⟩
    · simp only [exec, refused]
      exact .refl inbox
    · simp only [exec, made]
      refine .set fun old stored => ?_
      rw [absent] at stored
      cases stored
  | pendingRows => exact .refl inbox
  | select symbols => exact .refl inbox
  | save eventId state =>
    -- A row that is there gets another state, and keeps its event.
    rcases save_cases inbox eventId state with ⟨_, refused⟩ | ⟨row, found, made⟩
    · simp only [exec, refused]
      exact .refl inbox
    · simp only [exec, made]
      refine .set fun old stored => ?_
      cases found.symm.trans stored
      rfl

/-- A creation moves the rows forward, and so does a save that moves a pending row. -/
theorem exec_forward {inbox : Inbox} {op : InboxOp} (pending : inbox.MovesPending op = true) :
    inbox.Forward (inbox.exec op).1 := by
  cases op with
  | get eventId => exact .refl inbox
  -- A new row is pending, and it was not there before.
  | create event =>
    rcases create_cases inbox event with ⟨row, _, refused⟩ | ⟨absent, made⟩
    · simp only [exec, refused]
      exact .refl inbox
    · simp only [exec, made]
      refine .set fun old stored => ?_
      rw [absent] at stored
      cases stored
  | pendingRows => exact .refl inbox
  | select symbols => exact .refl inbox
  -- A saved row was read before, and the save is one that moves it forward.
  | save eventId state =>
    rcases save_cases inbox eventId state with ⟨_, refused⟩ | ⟨row, found, made⟩
    · simp only [exec, refused]
      exact .refl inbox
    · simp only [exec, made]
      refine .set fun old stored => ?_
      cases found.symm.trans stored
      -- The row was pending, or it has the state already.
      simp only [MovesPending, found, Option.all_some, decide_eq_true_eq] at pending
      exact ⟨rfl, pending.imp_right Eq.symm⟩

/-- Every operation leaves the rows under their identifiers, and what it replies is so. -/
theorem exec_learned {inbox : Inbox} (keyed : inbox.Keyed) (op : InboxOp) :
    (inbox.exec op).1.Keyed ∧
      ∀ eventId state, learned op (inbox.exec op).2 = some (eventId, state) →
        (inbox.exec op).1.Shows eventId state := by
  cases op with
  | get eventId =>
    refine ⟨keyed, fun other state told => ?_⟩
    cases found : inbox.get? eventId with
    | none =>
      simp only [exec, found, learned] at told
      cases told
    | some row =>
      simp only [exec, found, learned, Option.some.injEq, Prod.mk.injEq] at told
      obtain ⟨rfl, rfl⟩ := told
      -- The row that was read is stored under the identifier that it was read by.
      exact ⟨row, by rw [keyed eventId row found]; exact found, .inr rfl⟩
  -- What is created is pending under the identifier of its event.
  | create event =>
    rcases create_cases inbox event with ⟨row, _, refused⟩ | ⟨_, made⟩
    · simp only [exec, refused]
      exact ⟨keyed, nofun⟩
    · simp only [exec, made]
      refine ⟨keyed.set rfl, fun eventId state told => ?_⟩
      simp only [learned, Option.some.injEq, Prod.mk.injEq] at told
      obtain ⟨rfl, rfl⟩ := told
      exact ⟨⟨event, .pending⟩, by rw [Dict.get?_set, if_pos rfl], .inl rfl⟩
  | pendingRows => exact ⟨keyed, nofun⟩
  | select symbols => exact ⟨keyed, nofun⟩
  -- The row that was there has the saved state now.
  | save eventId state =>
    rcases save_cases inbox eventId state with ⟨_, refused⟩ | ⟨row, found, made⟩
    · simp only [exec, refused]
      exact ⟨keyed, nofun⟩
    · simp only [exec, made]
      refine ⟨keyed.set (keyed eventId row found), fun other final told => ?_⟩
      simp only [learned, Option.some.injEq, Prod.mk.injEq] at told
      obtain ⟨rfl, rfl⟩ := told
      exact ⟨{ row with state }, by rw [Dict.get?_set, if_pos rfl], .inr rfl⟩

end Inbox

/-- The event that a response reports the state of. -/
def InboxResponse.reported (response : InboxResponse) : Option (String × EventState) :=
  match response.body with
  | .event eventId _ state => some (eventId, state)
  | .stale eventId => some (eventId, .stale)
  | _ => none

/-- A thread may do anything, and remembers what its last operation told it. -/
def Remembers : Program.Protocol InboxOp InboxOp.Reply (Option (String × EventState)) where
  allows _ _ := True
  turns _ op reply later := later = Inbox.learned op reply

/-- A response reports nothing but what its thread remembers. -/
def Truthful (_ : InboxRequest) (memory : Option (String × EventState))
    (response : InboxResponse) : Prop :=
  ∀ report, response.reported = some report → memory = some report

section Programs

variable {request : InboxRequest} {memory : Option (String × EventState)}

/-- A response that reports nothing can be given at any time. -/
theorem keeps_silent {response : InboxResponse} (silent : response.reported = none) :
    Program.Keeps Remembers (Truthful request) memory (.done response) := by
  refine .done fun report told => ?_
  rw [silent] at told
  cases told

/-- An operation is followed by a program that remembers its reply. -/
theorem keeps_call {α : Type} {final : Option (String × EventState) → α → Prop} {op : InboxOp}
    {next : op.Reply → InboxProgram α}
    (kept : ∀ reply, (next reply).Keeps Remembers final (Inbox.learned op reply)) :
    -- The thread remembers what it has just learned.
    Program.Keeps Remembers final memory (.call op next) := by
  refine .call trivial fun reply later learned => ?_
  rw [learned]
  exact kept reply

/-- The row that is found or created is remembered in its state. -/
theorem getOrCreate_keeps (event : MarketEvent) : (getOrCreate event).Keeps Remembers
    (fun memory found => ∀ row created, found = some (row, created) →
      memory = some (row.event.eventId, row.state)) memory := by
  refine keeps_call fun first => ?_
  cases first with
  | some row =>
    refine .done fun found created same => ?_
    cases same
    rfl
  | none =>
    -- Nobody has stored the event yet.
    refine keeps_call fun created => ?_
    cases created with
    | true =>
      refine .done fun found created same => ?_
      cases same
      rfl
    | false =>
      -- Somebody else was faster, and the row is read again.
      refine keeps_call fun second => ?_
      cases second with
      | none =>
        refine .done fun found created same => ?_
        cases same
      | some row =>
        refine .done fun found created same => ?_
        cases same
        rfl

/-- Taking an event in tells the truth about it. -/
theorem ingestMarketEvent_keeps (fields : MarketEventFields) :
    (ingestMarketEvent fields).Keeps Remembers (Truthful request) memory := by
  unfold ingestMarketEvent
  split
  · exact keeps_silent rfl
  · rename_i event _
    refine (getOrCreate_keeps event).bind fun memory found remembered => ?_
    cases found with
    | none => exact keeps_silent rfl
    | some entry =>
      obtain ⟨row, created⟩ := entry
      -- The row that is found or made is the last thing that the thread has learned.
      have known := remembered row created rfl
      cases created with
      | true =>
        refine .done fun report told => ?_
        cases told
        exact known
      | false =>
        simp only
        split
        · -- An event that comes again is reported in the state of its row.
          refine .done fun report told => ?_
          cases told
          exact known
        · exact keeps_silent rfl

/-- The sweep answers with what it has learned of no event. -/
theorem markStaleMarketEvents_keeps (cutoff : Instant) (rows : List InboxRow) :
    ∀ memory, (markStaleMarketEvents cutoff rows).Keeps Remembers (fun _ _ => True) memory := by
  induction rows with
  | nil => intro memory; exact .done trivial
  | cons row rows ih =>
    intro memory
    unfold markStaleMarketEvents
    split
    · -- Whether the row is saved or not, nothing is reported about it.
      refine keeps_call fun saved => ?_
      cases saved with
      | true => exact ih _
      | false => exact .done trivial
    · exact ih memory

/-- Showing pending events tells the truth about them. -/
theorem pendingMarketEvents_keeps (settings : InboxSettings) (raw : String) (openAt now : Instant) :
    (pendingMarketEvents settings raw openAt now).Keeps Remembers (Truthful request) memory := by
  -- A query neither accepts nor acknowledges an event, whatever it answers.
  unfold pendingMarketEvents
  split
  · exact keeps_silent rfl
  · exact keeps_silent rfl
  · split
    · exact keeps_silent rfl
    · refine keeps_call fun rows => ?_
      refine (markStaleMarketEvents_keeps _ rows _).bind fun memory swept _ => ?_
      cases swept with
      | true =>
        refine keeps_call fun events => ?_
        exact keeps_silent rfl
      | false => exact keeps_silent rfl

/-- Acknowledging an event tells the truth about it. -/
theorem acknowledgeMarketEvent_keeps (eventId : String) :
    (acknowledgeMarketEvent eventId).Keeps Remembers (Truthful request) memory := by
  refine keeps_call fun found => ?_
  cases found with
  | none => exact keeps_silent rfl
  | some row =>
    obtain ⟨event, state⟩ := row
    cases state with
    -- The row that was read says that it is stale, or dispatched already.
    | stale =>
      refine .done fun report told => ?_
      cases told
      rfl
    | dispatched =>
      refine .done fun report told => ?_
      cases told
      rfl
    -- The state that is saved is the one that is reported.
    | pending =>
      refine keeps_call fun saved => ?_
      cases saved with
      | true =>
        refine .done fun report told => ?_
        cases told
        rfl
      | false => exact keeps_silent rfl

/-- Every request is answered truthfully. -/
theorem program_keeps (settings : InboxSettings) (request : InboxRequest) :
    (request.program settings).Keeps Remembers (Truthful request) none := by
  cases request with
  | ingest fields => exact ingestMarketEvent_keeps fields
  | pending symbols openAt now => exact pendingMarketEvents_keeps settings symbols openAt now
  | acknowledge eventId => exact acknowledgeMarketEvent_keeps eventId

end Programs

/-- No turn saves a row that has left the pending state otherwise since it was read. -/
def InboxSystem.Undisturbed (system : InboxSystem) : InboxTurn → Bool
  | .begin _ _ => true
  | .resume thread _ =>
    match system.threads.get? thread with
    | some (_, .call op _) => system.store.MovesPending op
    | _ => true

/-- The rows have their own identifiers, and what the threads remember has been so. -/
structure InboxAgrees (inbox : Inbox) (memories : Dict Nat (Option (String × EventState))) : Prop where
  keyed : inbox.Keyed
  remembered : ∀ thread eventId state, memories.get? thread = some (some (eventId, state)) →
    inbox.Shows eventId state

section Turns

variable {settings : InboxSettings} {system : InboxSystem}
  {memories : Dict Nat (Option (String × EventState))}

/-- What is remembered stays true while the rows move forward, with one memory renewed. -/
theorem InboxAgrees.set {before after : Inbox} (agrees : InboxAgrees before memories)
    (keyed : after.Keyed) (moved : before.Forward after) {thread : Nat}
    {memory : Option (String × EventState)}
    (known : ∀ eventId state, memory = some (eventId, state) → after.Shows eventId state) :
    InboxAgrees after (memories.set thread memory) := by
  refine ⟨keyed, fun other eventId state remembered => ?_⟩
  rw [Dict.get?_set] at remembered
  split at remembered
  · exact known eventId state (Option.some.inj remembered)
  · -- What the other threads remember stays true.
    exact (agrees.remembered other eventId state remembered).forward moved

variable (settings) in
/-- The rows that a turn changes, it changes forward, and what it answers has been so. -/
theorem inbox_step (phased : system.Phased Remembers Truthful memories)
    (agrees : InboxAgrees system.store memories) (turn : InboxTurn)
    (undisturbed : system.Undisturbed turn = true) :
    ∃ memories', (system.step (inboxService settings) turn).1.Phased Remembers Truthful memories' ∧
      InboxAgrees (system.step (inboxService settings) turn).1.store memories' ∧
      system.store.Forward (system.step (inboxService settings) turn).1.store ∧
      ∀ request response eventId state,
        (system.step (inboxService settings) turn).2 = some (request, response) →
        response.reported = some (eventId, state) → system.store.Shows eventId state := by
  let held (inbox : Inbox) (memories : Dict Nat (Option (String × EventState))) : Prop :=
    InboxAgrees inbox memories ∧ system.store.Forward inbox
  -- An admitted request has not learned anything.
  have admits : ∀ thread request inbox program, turn = .begin thread request →
      memories.get? thread = none →
      (inboxService settings).serve system.store thread request = some (inbox, program) →
      ∃ memory, program.Keeps Remembers (Truthful request) memory ∧
        held inbox (memories.set thread memory) := by
    intro thread request inbox program _ _ admitted
    cases admitted
    exact ⟨none, program_keeps settings request, agrees.set agrees.keyed (.refl _) nofun, .refl _⟩
  have performs : ∀ thread nature request op next inbox reply memory,
      turn = .resume thread nature →
      system.threads.get? thread = some (request, .call op next) →
      memories.get? thread = some memory → Remembers.allows memory op →
      (inboxService settings).exec system.store nature op = some (inbox, reply) →
      ∃ later, Remembers.turns memory op reply later ∧ held inbox (memories.set thread later) := by
    intro thread nature request op next inbox reply memory turned found _ _ executed
    -- The turn carries out the operation that the thread was stopped at.
    cases turned
    simp only [InboxSystem.Undisturbed, found] at undisturbed
    have forward := Inbox.exec_forward undisturbed
    have told := Inbox.exec_learned agrees.keyed op
    rw [show system.store.exec op = (inbox, reply) from Option.some.inj executed] at forward told
    exact ⟨_, rfl, agrees.set told.1 forward told.2, forward⟩
  have answers : ∀ thread request memory response, memories.get? thread = some memory →
      Truthful request memory response → held system.store (memories.erase thread) := by
    -- A thread that is gone remembers nothing any more.
    intro thread request memory response _ _
    refine ⟨⟨agrees.keyed, fun other eventId state remembered => ?_⟩, .refl _⟩
    rw [Dict.get?_erase] at remembered
    split at remembered
    · cases remembered
    · exact agrees.remembered other eventId state remembered
  obtain ⟨memories', phased', ⟨agrees', moved⟩, answered⟩ :=
    phased.step turn held ⟨agrees, .refl _⟩ admits performs answers
  refine ⟨memories', phased', agrees', moved, ?_⟩
  intro request response eventId state given told
  obtain ⟨thread, memory, found, truthful⟩ := answered request response given
  -- What is reported is what its thread has remembered.
  rw [truthful _ told] at found
  exact agrees.remembered thread eventId state found

end Turns

/-- The states that answers report events in. -/
def reports (answers : List (Option (InboxRequest × InboxResponse))) :
    List (String × EventState) :=
  answers.filterMap fun answer => answer.bind fun given => given.2.reported

section Runs

variable {settings : InboxSettings}

/-- What holds at every moment of a run that is never disturbed. -/
structure InboxOk (past : List (Option (InboxRequest × InboxResponse))) (system : InboxSystem) :
    Prop where
  agrees : ∃ memories, system.Phased Remembers Truthful memories ∧
    InboxAgrees system.store memories
  reported : ∀ eventId state, (eventId, state) ∈ reports past → system.store.Shows eventId state

/-- An empty inbox is in order. -/
theorem InboxOk.new : InboxOk [] .new := by
  -- An empty inbox has no rows, and nobody remembers one.
  refine ⟨⟨.empty, fun _ => rfl, ?_, ?_⟩, ?_⟩
  · intro eventId row stored
    cases stored
  · intro thread eventId state remembered
    cases remembered
  · intro eventId state member
    cases member

/-- A turn that disturbs nothing moves the rows forward and reports what is so. -/
theorem InboxOk.step {past : List (Option (InboxRequest × InboxResponse))} {system : InboxSystem}
    (ok : InboxOk past system) {turn : InboxTurn} (undisturbed : system.Undisturbed turn = true) :
    InboxOk (past ++ [(system.step (inboxService settings) turn).2])
        (system.step (inboxService settings) turn).1 ∧
      system.store.Forward (system.step (inboxService settings) turn).1.store := by
  obtain ⟨⟨memories, phased, agrees⟩, reported⟩ := ok
  obtain ⟨memories', phased', agrees', moved, told⟩ :=
    inbox_step settings phased agrees turn undisturbed
  refine ⟨⟨⟨memories', phased', agrees'⟩, ?_⟩, moved⟩
  intro eventId state report
  rw [reports, List.filterMap_append, List.mem_append] at report
  cases report with
  -- What was reported before stays true as the rows move on.
  | inl before => exact (reported eventId state before).forward moved
  | inr now =>
    -- What is reported now was true before the turn, and so it is after it.
    obtain ⟨answer, member, found⟩ := List.mem_filterMap.mp now
    cases List.mem_singleton.mp member
    obtain ⟨⟨request, response⟩, given, reported⟩ := Option.bind_eq_some_iff.mp found
    exact (told request response eventId state given reported).forward moved

/-- Over a run that is never disturbed the rows move forward and the reports stay true. -/
theorem InboxOk.run {later : List InboxTurn} : ∀ (turns : List InboxTurn)
    (past : List (Option (InboxRequest × InboxResponse))) (system : InboxSystem),
    InboxOk past system →
    Machine.throughout (Shared.total (inboxService settings)) InboxSystem.Undisturbed system
      (turns ++ later) = true →
    ∃ last outputs, Machine.run (Shared.total (inboxService settings)) system turns =
        .ok (last, outputs) ∧ InboxOk (past ++ outputs) last ∧
      system.store.Forward last.store ∧
      Machine.throughout (Shared.total (inboxService settings)) InboxSystem.Undisturbed last
        later = true := by
  intro turns past start ok undisturbed
  -- The history holds at the start, and each turn adds what it reports.
  obtain ⟨last, outputs, ran, ok, moved, undisturbed⟩ := @Machine.run_history _ _ _ _
    (Shared.total (inboxService settings))
    (fun past system turns => InboxOk past system ∧ start.store.Forward system.store ∧
      Machine.throughout (Shared.total (inboxService settings)) InboxSystem.Undisturbed system
        (turns ++ later) = true)
    (fun past system turn turns held => by
      obtain ⟨ok, moved, undisturbed⟩ := held
      have stepped : Shared.total (inboxService settings) system turn =
        .ok (system.step (inboxService settings) turn) := rfl
      obtain ⟨here, beyond⟩ := (Machine.throughout_cons stepped).mp undisturbed
      obtain ⟨ok, step⟩ := ok.step here
      exact ⟨_, _, stepped, ok, moved.trans step, beyond⟩)
    turns past start ⟨ok, .refl _, undisturbed⟩
  exact ⟨last, outputs, ran, ok, moved, undisturbed⟩

/-- No turn touches the payload of a stored event. -/
theorem step_extends (system : InboxSystem) (turn : InboxTurn) :
    system.store.Extends (system.step (inboxService settings) turn).1.store := by
  have turned : Shared.Turned (inboxService settings) system turn _ _ := Shared.step_turned turn
  generalize system.step (inboxService settings) turn = stepped at turned ⊢
  obtain ⟨after, output⟩ := stepped
  cases turned with
  | waited => exact .refl _
  | admitted _ admitted =>
    cases admitted
    exact .refl _
  | answered _ => exact .refl _
  -- Only an operation may change the rows.
  | performed _ executed =>
    rename_i thread nature request op next inbox reply _
    have kept := Inbox.exec_extends system.store op
    rw [show system.store.exec op = (inbox, reply) from Option.some.inj executed] at kept
    exact kept

/-- Over every run, disturbed or not, the stored events stay with their payloads. -/
theorem run_extends (settings : InboxSettings) (turns : List InboxTurn) (system : InboxSystem) :
    ∃ last outputs, Machine.run (Shared.total (inboxService settings)) system turns =
      .ok (last, outputs) ∧ system.store.Extends last.store := by
  -- Every step keeps what was stored before it, and so does a run.
  obtain ⟨last, outputs, ran, kept⟩ := @Machine.run_invariant _ _ _ _
    (Shared.total (inboxService settings))
    (fun state _ => system.store.Extends state.store)
    (fun state turn _ kept => ⟨_, _, rfl, kept.trans (step_extends state turn)⟩)
    turns system (.refl _)
  exact ⟨last, outputs, ran, kept⟩

/--
Between any two moments of a run in which no save is disturbed, the rows have moved forward.

The final states that were reported before are stored, and no event is reported in two of them.
-/
theorem run_forward (settings : InboxSettings) (earlier later : List InboxTurn)
    (undisturbed : Machine.throughout (Shared.total (inboxService settings))
      InboxSystem.Undisturbed InboxSystem.new (earlier ++ later) = true) :
    ∃ middle past last rest,
      Machine.run (Shared.total (inboxService settings)) InboxSystem.new earlier =
        .ok (middle, past) ∧
      Machine.run (Shared.total (inboxService settings)) middle later = .ok (last, rest) ∧
      middle.store.Forward last.store ∧
      (∀ eventId state, (eventId, state) ∈ reports (past ++ rest) → state ≠ .pending →
        ∃ row, last.store.get? eventId = some row ∧ row.state = state) ∧
      ∀ eventId, (eventId, .dispatched) ∈ reports (past ++ rest) →
        (eventId, .stale) ∉ reports (past ++ rest) := by
  obtain ⟨middle, past, ran, ok, _, undisturbed⟩ := InboxOk.new.run earlier [] _ undisturbed
  -- The second part of the run goes on from where the first one has ended.
  rw [← List.append_nil later] at undisturbed
  obtain ⟨last, rest, went, ok, moved, _⟩ := ok.run later _ middle undisturbed
  refine ⟨middle, past, last, rest, ran, went, moved, ?_, ?_⟩
  · intro eventId state told left
    obtain ⟨row, stored, fits⟩ := ok.reported eventId state told
    exact ⟨row, stored, fits.resolve_left left⟩
  · intro eventId acknowledged stale
    -- Both states were seen of the event, and neither of them is pending.
    have same := (ok.reported _ _ acknowledged).final (ok.reported _ _ stale) nofun nofun
    cases same

/-- An event about one symbol, detected at the epoch. -/
def epochFields : MarketEventFields where
  eventId := .given "opendart:1"
  symbol := .given "005930"
  eventType := .given "supply_contract"
  direction := .given "BUY"
  confidence := .given 1
  impact := .given "high"
  occurredAt := .missing
  detectedAt := .given 0
  source := .given "opendart"
  sourceItemId := .missing
  headline := .missing

/-- Events are stale after an hour. -/
def hourlySettings : InboxSettings := ⟨.alwaysOpen, 3600⟩

/-- The event is stored, and both a pending query and an acknowledgement have read it. -/
def readTwice : List InboxTurn :=
  [.begin 0 (.ingest epochFields), .resume 0 (), .resume 0 (), .resume 0 (),
    .begin 1 (.pending "005930" 0 7200000000), .resume 1 (),
    .begin 2 (.acknowledge "opendart:1"), .resume 2 ()]

/-- The acknowledgement is saved and answered. -/
def acknowledged : List InboxTurn := readTwice ++ [.resume 2 (), .resume 2 ()]

/-- An acknowledgement that runs alone after the ingest is final. -/
theorem run_forward_alone : ∃ middle past last rest,
    Machine.run (Shared.total (inboxService hourlySettings)) InboxSystem.new
        (readTwice.take 4) = .ok (middle, past) ∧
      Machine.run (Shared.total (inboxService hourlySettings)) middle
        (acknowledged.drop 6) = .ok (last, rest) ∧
      middle.store.Forward last.store ∧
      (∀ eventId state, (eventId, state) ∈ reports (past ++ rest) → state ≠ .pending →
        ∃ row, last.store.get? eventId = some row ∧ row.state = state) ∧
      ∀ eventId, (eventId, .dispatched) ∈ reports (past ++ rest) →
        (eventId, .stale) ∉ reports (past ++ rest) :=
  run_forward hourlySettings (readTwice.take 4) (acknowledged.drop 6) (by decide +kernel)

/-- A sweep that read the event before it was acknowledged saves it as stale afterwards. -/
theorem acknowledged_turns_stale : ∃ middle past last rest,
    Machine.run (Shared.total (inboxService hourlySettings)) InboxSystem.new acknowledged =
        .ok (middle, past) ∧
      Machine.run (Shared.total (inboxService hourlySettings)) middle [.resume 1 ()] =
        .ok (last, rest) ∧
      ("opendart:1", .dispatched) ∈ reports past ∧
      (middle.store.get? "opendart:1").map InboxRow.state = some .dispatched ∧
      (last.store.get? "opendart:1").map InboxRow.state = some .stale :=
  ⟨_, _, _, _, Machine.run_ok (Shared.step (inboxService hourlySettings)) acknowledged
      InboxSystem.new,
    Machine.run_ok (Shared.step (inboxService hourlySettings)) [.resume 1 ()] _, by decide +kernel,
    by decide +kernel, by decide +kernel⟩

end Runs

end StockMarket
