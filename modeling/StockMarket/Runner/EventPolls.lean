import StockMarket.Runner.CoordinatorCalls

/-! Polled events are planned at most once, however often they are delivered. -/

namespace StockMarket

/-- A polled event: what applying it came to, and whether its acknowledgement went through. -/
structure Delivery where
  event : EventItem
  tick : Int
  before : EventCoordinator
  after : EventCoordinator
  outcome : Except ValueError Applied
  acknowledged : Option Bool

/-- The part of a runner that polls events. -/
structure EventRunner where
  coordinator : EventCoordinator
  tick : Nat
  requestFailures : Nat

/-- What a runner and the threads of its requests do next; the poll opens a tick. -/
inductive RunnerTurn where
  | pollMarketEvents (fetched : Option (List (EventItem × Bool)))
  | beforeTick (now : Int)
  | nextIntents (userId : String) (snapshot : BookSnapshot)
  | afterSubmit (intent : OrderIntent) (submitted : Bool) (tick now : Int)

/-- What a turn comes to. -/
structure TurnReply where
  outcomes : List (Except ValueError Applied)
  deliveries : List Delivery

namespace EventRunner

section Turns

variable {G : Type} (random : RandomSource G)

/-- Apply one polled event, and acknowledge it unless that fails. -/
def deliver (runner : EventRunner) (event : EventItem) (acknowledges : Bool) :
    EventRunner × Delivery :=
  let (coordinator, outcome) := runner.coordinator.applyMarketEvent random event.eventId
    event.symbol event.direction event.impact event.headline event.source runner.tick
  let delivery := Delivery.mk event runner.tick runner.coordinator coordinator outcome
  match outcome with
  | .error _ => ({ runner with coordinator }, delivery none)
  | .ok _ =>
    if acknowledges then ({ runner with coordinator }, delivery (some true))
    else
      ({ runner with coordinator, requestFailures := runner.requestFailures + 1 },
        delivery (some false))

/-- Fetched events are delivered one after the other. -/
def deliverAll (runner : EventRunner) : List (EventItem × Bool) → EventRunner × List Delivery
  | [] => (runner, [])
  | (event, acknowledges) :: later =>
    let (runner, delivery) := runner.deliver random event acknowledges
    let (runner, deliveries) := deliverAll runner later
    (runner, delivery :: deliveries)

/-- Poll for events, each with whether its acknowledgement goes through; nothing is a failed poll. -/
def pollMarketEvents (runner : EventRunner) (fetched : Option (List (EventItem × Bool))) :
    EventRunner × List Delivery :=
  if runner.coordinator.eventSymbols = [] then (runner, [])
  else match fetched with
  | none => ({ runner with requestFailures := runner.requestFailures + 1 }, [])
  | some events => runner.deliverAll random events

/-- A turn of the runner. -/
def turn (runner : EventRunner) : RunnerTurn → EventRunner × TurnReply
  | .pollMarketEvents fetched =>
    let runner := { runner with tick := runner.tick + 1 }
    let (runner, deliveries) := runner.pollMarketEvents random fetched
    (runner, ⟨deliveries.map Delivery.outcome, deliveries⟩)
  | .beforeTick now =>
    let (coordinator, outcomes) := runner.coordinator.beforeTick random runner.tick now
    ({ runner with coordinator }, ⟨outcomes, []⟩)
  | .nextIntents userId snapshot =>
    let (coordinator, _) := runner.coordinator.nextIntents userId runner.tick snapshot
    ({ runner with coordinator }, ⟨[], []⟩)
  | .afterSubmit intent submitted tick now =>
    ({ runner with coordinator := runner.coordinator.afterSubmit intent submitted tick now },
      ⟨[], []⟩)

/-- A runner before its first tick. -/
def start (coordinator : EventCoordinator) : EventRunner := ⟨coordinator, 0, 0⟩

/-- What a number of turns comes to when a runner starts with a coordinator. -/
def replies (coordinator : EventCoordinator) (turns : List RunnerTurn) : List TurnReply :=
  (Machine.runTotal (turn random) (start coordinator) turns).2

end Turns

/-- Everything that was delivered in a number of turns, in order. -/
def delivered (replies : List TurnReply) : List Delivery :=
  replies.flatMap TurnReply.deliveries

/-- The plans that were made in a number of turns, in order. -/
def planned (replies : List TurnReply) : List ResolvedEventPlan :=
  (replies.flatMap TurnReply.outcomes).filterMap planOf

end EventRunner

/-- Two events agree in everything that a coordinator compares. -/
def EventItem.SamePayload (first second : EventItem) : Prop :=
  first.symbol = second.symbol ∧ first.direction = second.direction ∧
    first.impact = second.impact ∧ first.headline = second.headline ∧
    first.source = second.source

/-- An event is acknowledged exactly when the coordinator has applied or deduplicated it. -/
structure Delivery.Sound {G : Type} (random : RandomSource G) (delivery : Delivery) : Prop where
  applied : delivery.before.applyMarketEvent random delivery.event.eventId delivery.event.symbol
    delivery.event.direction delivery.event.impact delivery.event.headline delivery.event.source
    delivery.tick = (delivery.after, delivery.outcome)
  acknowledged : delivery.acknowledged.isSome = true ↔ ∃ applied, delivery.outcome = .ok applied

/--
An event that comes again is known or refused.

It is known as long as its payload is the same, and then it is acknowledged again.
-/
structure Delivery.Again (first second : Delivery) : Prop where
  same : first.event.SamePayload second.event →
    second.outcome = .ok .deduplicated ∧ second.acknowledged.isSome = true ∧
      second.after = { second.before with
        eventsDeduplicated := second.before.eventsDeduplicated + 1 }
  changed : ¬ first.event.SamePayload second.event →
    second.acknowledged = none ∧ second.after = second.before

namespace EventRunner

open EventCoordinator

section Payload

variable {existing : NewsShockEvent} {first second : EventItem}

/-- Two events that repeat the same received event have the same payload. -/
theorem repeats_same (one : Repeats existing first) (other : Repeats existing second) :
    first.SamePayload second := by
  obtain ⟨symbol, direction, impact, label, source⟩ := one
  obtain ⟨symbol', direction', impact', label', source'⟩ := other
  -- The names of directions and impacts are looked up without confusion.
  exact ⟨symbol.symm.trans symbol', lookup_injective (by decide) direction direction',
    lookup_injective (by decide) impact impact', label.symm.trans label', source.symm.trans source'⟩

/-- An event with the same payload repeats the same received event. -/
theorem repeats_of_same (one : Repeats existing first) (same : first.SamePayload second) :
    Repeats existing second := by
  obtain ⟨symbol, direction, impact, label, source⟩ := same
  unfold Repeats at *
  rw [← symbol, ← direction, ← impact, ← label, ← source]
  exact one

end Payload

/-- An event that was applied is received and planned as what it was received as. -/
def Known (coordinator : EventCoordinator) (event : EventItem) : Prop :=
  ∃ existing, coordinator.liveEvents.get? event.eventId = some existing ∧
    Repeats existing event ∧ existing.eventId = event.eventId ∧
    coordinator.planner.processedEvents.get? event.eventId = some existing

section Deliveries

variable {G : Type} {random : RandomSource G} {held : Holdings} {coordinator next : EventCoordinator}
  {event : EventItem} {tick : Int} {outcome : Except ValueError Applied}

/-- A known event stays known. -/
theorem Known.mono {outcomes : List (Except ValueError Applied)} (known : Known coordinator event)
    (remembered : Remembered coordinator next outcomes) : Known next event := by
  obtain ⟨existing, live, repeated, named, processed⟩ := known
  exact ⟨existing, remembered.live live, repeated, named, remembered.processed processed⟩

/-- Once an event is applied without an error, the planner has processed it. -/
theorem processed_of_applied {event : NewsShockEvent} {applied : Applied}
    (done : EventApplied held coordinator event next (.ok applied)) :
    next.planner.processedEvents.get? event.eventId = some event ∧
      next.liveEvents = coordinator.liveEvents := by
  cases done with
  -- A duplicate equals the event that the planner has processed.
  | deduplicated known => exact ⟨known, rfl⟩
  -- An event that is planned is processed from then on.
  | planned about fresh coordinated balanced processed live untouched =>
    exact ⟨by rw [processed, Dict.get?_set, if_pos rfl], live⟩

/-- Once a market event is applied without an error, it is known. -/
theorem known_of_applied (received : Received coordinator) {applied : Applied}
    (done : MarketEventApplied held coordinator event tick next (.ok applied)) :
    Known next event := by
  cases done with
  -- The event was received before, under its own id.
  | again known alike applied =>
    rename_i existing
    have named := received _ _ known
    obtain ⟨processed, live⟩ := processed_of_applied applied
    exact ⟨existing, live ▸ known, alike, named, named ▸ processed⟩
  -- The event is received now, and stays so while it is applied.
  | first fresh named alike applied =>
    rename_i created
    obtain ⟨processed, live⟩ := processed_of_applied applied
    refine ⟨created, ?_, alike, named, named ▸ processed⟩
    rw [live, Dict.get?_set, if_pos rfl]

/-- A known event is deduplicated when its payload is the same, and refused otherwise. -/
theorem applied_again {earlier : EventItem} (known : Known coordinator earlier)
    (named : earlier.eventId = event.eventId) (late : 1 ≤ tick)
    (done : MarketEventApplied held coordinator event tick next outcome) :
    (earlier.SamePayload event → outcome = .ok .deduplicated ∧
      next = { coordinator with eventsDeduplicated := coordinator.eventsDeduplicated + 1 }) ∧
    (¬ earlier.SamePayload event → (∃ error, outcome = .error error) ∧ next = coordinator) := by
  obtain ⟨existing, live, repeated, own, processed⟩ := known
  rw [named] at live own processed
  refine ⟨fun same => ?_, fun differs => ?_⟩
  · -- With the same payload the event cannot be refused.
    cases done with
    | refused unsaid => exact absurd (repeats_of_same repeated same) (unsaid late existing live)
    | again found alike applied =>
      cases live.symm.trans found
      rw [← own] at processed
      cases applied with
      -- It cannot fail either, as the planner has processed the very same event.
      | failed other => exact absurd processed other
      | deduplicated known => exact ⟨rfl, rfl⟩
      | planned about fresh _ _ _ _ _ =>
        rw [fresh] at processed
        cases processed
    | first fresh _ _ _ =>
      rw [fresh] at live
      cases live
  · -- With another payload it cannot be taken for the received one.
    cases done with
    | refused unsaid => exact ⟨⟨_, rfl⟩, rfl⟩
    | again found alike applied =>
      cases live.symm.trans found
      exact absurd (repeats_same repeated alike) differs
    | first fresh _ _ _ =>
      rw [fresh] at live
      cases live

variable {runner : EventRunner}

variable (random runner) in
/-- A delivery is one application of its event, acknowledged when that succeeds. -/
theorem deliver_spec (event : EventItem) (acknowledges : Bool) :
    (runner.deliver random event acknowledges).2.Sound random ∧
      (runner.deliver random event acknowledges).2.event = event ∧
      (runner.deliver random event acknowledges).2.tick = runner.tick ∧
      (runner.deliver random event acknowledges).2.before = runner.coordinator ∧
      (runner.deliver random event acknowledges).2.after =
        (runner.deliver random event acknowledges).1.coordinator ∧
      (runner.deliver random event acknowledges).1.tick = runner.tick := by
  unfold deliver
  generalize applied : runner.coordinator.applyMarketEvent random event.eventId event.symbol
    event.direction event.impact event.headline event.source runner.tick = result
  obtain ⟨coordinator, outcome⟩ := result
  cases outcome with
  -- An event that fails is not acknowledged.
  | error error => exact ⟨⟨applied, by simp⟩, rfl, rfl, rfl, rfl, rfl⟩
  | ok done =>
    simp only
    -- An event that is applied is, whether or not the message gets through.
    split_ifs
    · exact ⟨⟨applied, by simp⟩, rfl, rfl, rfl, rfl, rfl⟩
    · exact ⟨⟨applied, by simp⟩, rfl, rfl, rfl, rfl, rfl⟩

/-- What holds of the plans and the deliveries so far, at every moment of a run. -/
structure PolledOk (random : RandomSource G) (plans : List ResolvedEventPlan)
    (past : List Delivery) (coordinator : EventCoordinator) : Prop where
  coordinated : Coordinated (latestPlans plans) coordinator
  received : Received coordinator
  once : (plans.map fun plan => plan.event.eventId).Nodup
  remembered : ∀ plan ∈ plans,
    coordinator.planner.processedEvents.get? plan.event.eventId = some plan.event
  sound : ∀ delivery ∈ past, delivery.Sound random
  known : ∀ delivery ∈ past, delivery.acknowledged.isSome = true →
    Known coordinator delivery.event
  again : past.Pairwise fun first second => first.acknowledged.isSome = true →
    first.event.eventId = second.event.eventId → first.Again second

variable {plans : List ResolvedEventPlan} {past : List Delivery}

/-- Whatever plans its events at most once keeps what is known of them. -/
theorem PolledOk.advance {outcomes : List (Except ValueError Applied)}
    (ok : PolledOk random plans past coordinator)
    (coordinated : Coordinated ((latestPlans plans).follow (outcomes.filterMap planOf)) next)
    (remembered : Remembered coordinator next outcomes) :
    PolledOk random (plans ++ outcomes.filterMap planOf) past next where
  coordinated := by
    rw [latestPlans, Holdings.follow_append]
    exact coordinated
  received := remembered.received ok.received
  once := by
    rw [List.map_append]
    -- A plan that is new is for an event that was not processed before.
    refine List.nodup_append'.mpr ⟨ok.once, remembered.distinct, fun eventId old new => ?_⟩
    obtain ⟨plan, inside, rfl⟩ := List.mem_map.mp old
    obtain ⟨other, inside', same⟩ := List.mem_map.mp new
    have known := ok.remembered plan inside
    rw [← same, remembered.fresh other inside'] at known
    cases known
  remembered := by
    intro plan member
    rcases List.mem_append.mp member with old | new
    · exact remembered.processed (ok.remembered plan old)
    · exact remembered.known plan new
  sound := ok.sound
  known := fun delivery member acknowledged => (ok.known delivery member acknowledged).mono remembered
  again := ok.again

/-- One more delivery is sound, and it is known or refused when it is not the first of its event. -/
theorem PolledOk.deliver (ok : PolledOk random plans past runner.coordinator)
    (late : 1 ≤ runner.tick) (event : EventItem) (acknowledges : Bool) :
    PolledOk random
      (plans ++ [(runner.deliver random event acknowledges).2.outcome].filterMap planOf)
      (past ++ [(runner.deliver random event acknowledges).2])
      (runner.deliver random event acknowledges).1.coordinator := by
  obtain ⟨sound, about, tick, before, after, _⟩ :=
    deliver_spec random runner event acknowledges
  generalize (runner.deliver random event acknowledges).2 = delivery at *
  generalize (runner.deliver random event acknowledges).1 = runner' at *
  -- Both sides say what the one application of the event comes to.
  have applied := applyMarketEvent_applied random ok.coordinated event runner.tick
  have same := sound.applied
  rw [about, tick, before] at same
  rw [same, after] at applied
  simp only at applied
  have handled := applied.handled ok.coordinated
  have advanced := ok.advance handled.coordinated handled.remembered
  refine ⟨advanced.coordinated, advanced.received, advanced.once, advanced.remembered, ?_, ?_, ?_⟩
  · -- The new delivery is sound, like those before it.
    intro other member
    rcases List.mem_append.mp member with old | new
    · exact ok.sound other old
    · cases List.mem_singleton.mp new
      exact sound
  · intro other member acknowledged
    rcases List.mem_append.mp member with old | new
    · exact advanced.known other old acknowledged
    · cases List.mem_singleton.mp new
      -- Once acknowledged it was applied, and is known from now on.
      obtain ⟨done, came⟩ := sound.acknowledged.mp acknowledged
      rw [came] at applied
      rw [about]
      exact known_of_applied ok.received applied
  · refine List.pairwise_append.mpr ⟨ok.again, List.pairwise_singleton _ _, ?_⟩
    -- An earlier delivery of the event was acknowledged, so the event was known when it came again.
    intro first old second new acknowledged named
    cases List.mem_singleton.mp new
    rw [about] at named
    obtain ⟨known, changed⟩ := applied_again (ok.known first old acknowledged) named
      (by exact_mod_cast late) applied
    rw [← about] at known changed
    refine ⟨fun payload => ?_, fun differs => ?_⟩
    · obtain ⟨came, moved⟩ := known payload
      exact ⟨came, sound.acknowledged.mpr ⟨_, came⟩, by rw [after, before]; exact moved⟩
    · obtain ⟨⟨error, came⟩, moved⟩ := changed differs
      refine ⟨?_, by rw [after, before, moved]⟩
      -- A refused event is not acknowledged.
      cases sent : delivery.acknowledged with
      | none => rfl
      | some acknowledges =>
        obtain ⟨done, other⟩ := sound.acknowledged.mp (by rw [sent]; rfl)
        rw [came] at other
        cases other

/-- All polled events are delivered one after the other, in one tick. -/
theorem PolledOk.deliverAll (events : List (EventItem × Bool)) : ∀ (runner : EventRunner)
    {plans : List ResolvedEventPlan} {past : List Delivery},
    PolledOk random plans past runner.coordinator → 1 ≤ runner.tick →
      PolledOk random
          (plans ++ ((runner.deliverAll random events).2.map Delivery.outcome).filterMap planOf)
          (past ++ (runner.deliverAll random events).2)
          (runner.deliverAll random events).1.coordinator ∧
        (runner.deliverAll random events).1.tick = runner.tick := by
  induction events with
  | nil =>
    intro runner plans past ok _
    refine ⟨?_, rfl⟩
    show PolledOk random (plans ++ []) (past ++ []) runner.coordinator
    rwa [List.append_nil, List.append_nil]
  | cons first later ih =>
    intro runner plans past ok late
    obtain ⟨event, acknowledges⟩ := first
    -- The first delivery is in the same tick as the others, behind those of earlier polls.
    have delivered := ok.deliver late event acknowledges
    have tick := (deliver_spec random runner event acknowledges).2.2.2.2.2
    obtain ⟨rest, same⟩ := ih _ delivered (tick ▸ late)
    refine ⟨?_, same.trans tick⟩
    rw [List.append_assoc, List.append_assoc, ← List.filterMap_append] at rest
    exact rest

/-- Every turn keeps what is known of the events. -/
theorem PolledOk.turn (ok : PolledOk random plans past runner.coordinator) (turn : RunnerTurn) :
    PolledOk random (plans ++ (runner.turn random turn).2.outcomes.filterMap planOf)
      (past ++ (runner.turn random turn).2.deliveries)
      (runner.turn random turn).1.coordinator := by
  -- Without a poll or a reply nothing changes.
  have idle : PolledOk random (plans ++ []) (past ++ []) runner.coordinator := by
    rwa [List.append_nil, List.append_nil]
  -- The calls of the coordinator deliver nothing, and plan only what they say.
  have called : ∀ {next : EventCoordinator} {reply : CoordinatorReply},
      EventCoordinator.Called (latestPlans plans) runner.coordinator next reply →
        PolledOk random (plans ++ reply.outcomes.filterMap planOf) (past ++ []) next := by
    intro next reply called
    rw [List.append_nil]
    exact ok.advance called.coordinated called.remembered
  cases turn with
  | pollMarketEvents fetched =>
    unfold EventRunner.turn pollMarketEvents
    simp only
    split_ifs
    · exact idle
    · cases fetched with
      | none => exact idle
      -- The poll has opened its tick, and so it comes after the start.
      | some events => exact (PolledOk.deliverAll events { runner with tick := runner.tick + 1 } ok
        (Nat.le_add_left 1 _)).1
  | beforeTick now => exact called (beforeTick_called random ok.coordinated runner.tick now).1
  | nextIntents userId snapshot =>
    exact called (nextIntents_called ok.coordinated userId runner.tick snapshot)
  | afterSubmit intent submitted tick now =>
    exact called (afterSubmit_called ok.coordinated intent submitted tick now)

/-- Over every run, what is known of the events is kept. -/
theorem PolledOk.run (turns : List RunnerTurn) : ∀ {runner : EventRunner}
    {plans : List ResolvedEventPlan} {past : List Delivery},
    PolledOk random plans past runner.coordinator →
      PolledOk random (plans ++ planned (Machine.runTotal (EventRunner.turn random) runner turns).2)
        (past ++ delivered (Machine.runTotal (EventRunner.turn random) runner turns).2)
        (Machine.runTotal (EventRunner.turn random) runner turns).1.coordinator := by
  induction turns with
  | nil =>
    intro runner plans past ok
    show PolledOk random (plans ++ []) (past ++ []) runner.coordinator
    rwa [List.append_nil, List.append_nil]
  | cons first later ih =>
    intro runner plans past ok
    -- The turns that follow add to what the first one has added.
    have rest := ih (ok.turn first)
    rw [List.append_assoc, List.append_assoc, planned, ← List.filterMap_append] at rest
    exact rest

end Deliveries

/--
Whatever is polled, and whichever acknowledgements get lost, an event is planned at most once.

Only what has been applied is acknowledged; it is acknowledged again as long as it stays the same.
-/
theorem events_planned_once {G : Type} (random : RandomSource G) {events : List NewsShockEvent}
    {participants : List TraderSettings} {tickIntervalMs now : Int}
    {coordinator : EventCoordinator}
    (made : EventCoordinator.create events participants tickIntervalMs now = .ok coordinator)
    (turns : List RunnerTurn) :
    ((planned (replies random coordinator turns)).map fun plan => plan.event.eventId).Nodup ∧
    (∀ delivery ∈ delivered (replies random coordinator turns), delivery.Sound random) ∧
    (delivered (replies random coordinator turns)).Pairwise fun first second =>
      (∃ applied, first.outcome = .ok applied) → first.event.eventId = second.event.eventId →
        first.Again second := by
  -- No event is received, planned or delivered at the start.
  have fresh : PolledOk random [] [] (start coordinator).coordinator := by
    obtain ⟨_, made'⟩ := passed made
    refine ⟨(create_coordinated made).1, ?_, List.nodup_nil, fun _ member => ?_, fun _ member => ?_,
      fun _ member => ?_, .nil⟩
    · cases made'
      intro eventId existing found
      cases found
    · cases member
    · cases member
    · cases member
  have ok := PolledOk.run turns fresh
  rw [List.nil_append, List.nil_append] at ok
  refine ⟨ok.once, ok.sound, ok.again.imp_of_mem fun first _ again applied => again ?_⟩
  exact (ok.sound _ first).acknowledged.mpr applied

/-- News that is delivered with a headline. -/
def newsItem (headline : String) : EventItem :=
  ⟨codePoints "news", "005930", "DISCLOSURE", "BUY", 1, "high", "fixture", headline⟩

/--
An event whose acknowledgement got lost comes again, and then once more under a new headline.

It is planned once, acknowledged again when it comes again, and refused under the new headline.
-/
theorem events_planned_once_news :
    ((planned (replies .least (reactorCoordinator []) [.pollMarketEvents (some
        [(newsItem "up", false), (newsItem "up", true), (newsItem "down", true)])])).map
      fun plan => plan.event.eventId).Nodup ∧
    (delivered (replies .least (reactorCoordinator []) [.pollMarketEvents (some
        [(newsItem "up", false), (newsItem "up", true), (newsItem "down", true)])])).map
      Delivery.acknowledged = [some false, some true, none] :=
  have made : EventCoordinator.create [] [reactor] 1000 0 = .ok (reactorCoordinator []) := rfl
  ⟨(events_planned_once .least made _).1, by decide +kernel⟩

end EventRunner

end StockMarket
