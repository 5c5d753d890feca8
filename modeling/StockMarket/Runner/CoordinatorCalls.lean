import StockMarket.Library.Machine
import StockMarket.Runner.CoordinatorLaws

/-! Whatever a coordinator is called for, a trader keeps the plan of which it has orders left. -/

namespace StockMarket

/-- What a coordinator, or one of its traders, is called for. -/
inductive CoordinatorCall where
  | beforeTick (tick now : Int)
  | marketEvent (event : EventItem) (tick : Int)
  | nextIntents (userId : String) (tick : Int) (snapshot : BookSnapshot)
  | afterSubmit (intent : OrderIntent) (submitted : Bool) (tick now : Int)

/-- What a call comes to: what became of each event that it applied, and the emitted intents. -/
structure CoordinatorReply where
  outcomes : List (Except ValueError Applied)
  emitted : List OrderIntent

/-- The plan that an outcome brings, when it brings one. -/
def planOf : Except ValueError Applied → Option ResolvedEventPlan
  | .ok (.planned plan _) => some plan
  | _ => none

/-- The orders that were dropped to make room for a plan. -/
def abandonedBy : Except ValueError Applied → Nat
  | .ok (.planned _ abandoned) => abandoned
  | _ => 0

/-- The plans that were made in a number of calls, in order. -/
def plansMade (replies : List CoordinatorReply) : List ResolvedEventPlan :=
  replies.flatMap fun reply => reply.outcomes.filterMap planOf

namespace EventCoordinator

section Calls

variable {G : Type} (random : RandomSource G)

/-- A call of the runner. -/
def call (coordinator : EventCoordinator) : CoordinatorCall → EventCoordinator × CoordinatorReply
  | .beforeTick tick now =>
    let (coordinator, outcomes) := coordinator.beforeTick random tick now
    (coordinator, ⟨outcomes, []⟩)
  | .marketEvent event tick =>
    let (coordinator, outcome) := coordinator.applyMarketEvent random event.eventId event.symbol
      event.direction event.impact event.headline event.source tick
    (coordinator, ⟨[outcome], []⟩)
  | .nextIntents userId tick snapshot =>
    let (coordinator, intents) := coordinator.nextIntents userId tick snapshot
    (coordinator, ⟨[], intents⟩)
  | .afterSubmit intent submitted tick now =>
    (coordinator.afterSubmit intent submitted tick now, ⟨[], []⟩)

/-- A run of calls that never faults. -/
def callTotal (coordinator : EventCoordinator) (request : CoordinatorCall) :
    Except Empty (EventCoordinator × CoordinatorReply) :=
  .ok (coordinator.call random request)

/-- The coordinator after a number of calls. -/
def reachedBy (coordinator : EventCoordinator) (calls : List CoordinatorCall) : EventCoordinator :=
  (Machine.runTotal (call random) coordinator calls).1

/-- What a number of calls comes to. -/
def repliesTo (coordinator : EventCoordinator) (calls : List CoordinatorCall) :
    List CoordinatorReply :=
  (Machine.runTotal (call random) coordinator calls).2

/-- Whether a trader has orders left that are neither emitted nor dropped. -/
def isBusy (userId : String) (coordinator : EventCoordinator) (_ : CoordinatorCall) : Bool :=
  (coordinator.traders.get? userId).any fun trader => 0 < trader.remainingReactionOrders

end Calls

section Apply

variable {G : Type} (random : RandomSource G) {held : Holdings} {coordinator : EventCoordinator}

/-- Every candidate is a trader without orders left. -/
theorem candidates_idle (ok : Coordinated held coordinator) {candidate : ReactionCandidate}
    (member : candidate ∈ coordinator.candidates) :
    ∃ trader, coordinator.traders.get? candidate.userId = some trader ∧
      trader.remainingReactionOrders = 0 ∧ candidate.symbol = trader.symbol := by
  -- A candidate is made of an idle trader, which is kept under its own user.
  obtain ⟨trader, inside, rfl⟩ := List.mem_map.mp member
  obtain ⟨inside, idle⟩ := List.mem_filter.mp inside
  obtain ⟨⟨userId, stored⟩, listed, rfl⟩ := List.mem_map.mp inside
  have found := Dict.get?_eq_some_iff.mpr listed
  refine ⟨stored, ?_, of_decide_eq_true idle, rfl⟩
  show coordinator.traders.get? stored.userId = some stored
  rw [ok.named found]
  exact found

/-- What applying an event comes to; no order is dropped to make room for a plan. -/
inductive EventApplied (held : Holdings) (coordinator : EventCoordinator) (event : NewsShockEvent) :
    EventCoordinator → Except ValueError Applied → Prop where
  | failed {error : ValueError}
      (other : coordinator.planner.processedEvents.get? event.eventId ≠ some event) :
      EventApplied held coordinator event coordinator (.error error)
  | deduplicated (known : coordinator.planner.processedEvents.get? event.eventId = some event) :
      EventApplied held coordinator event
        { coordinator with eventsDeduplicated := coordinator.eventsDeduplicated + 1 }
        (.ok .deduplicated)
  | planned {next : EventCoordinator} {plan : ResolvedEventPlan} (about : plan.event = event)
      (fresh : coordinator.planner.processedEvents.get? event.eventId = none)
      (coordinated : Coordinated (held.take event.eventId plan.reactions) next)
      (balanced : ∀ {flying}, Balanced flying coordinator → Balanced flying next)
      (processed : next.planner.processedEvents =
        coordinator.planner.processedEvents.set event.eventId event)
      (live : next.liveEvents = coordinator.liveEvents) (untouched : Untouched coordinator next) :
      EventApplied held coordinator event next (.ok (.planned plan 0))

/-- The traders of a plan that is made for candidates have no orders left. -/
theorem reactions_idle (ok : Coordinated held coordinator) {plan : ResolvedEventPlan}
    (owned : ∀ reaction ∈ plan.reactions, ∃ candidate ∈ coordinator.candidates,
      reaction.userId = candidate.userId ∧ reaction.symbol = candidate.symbol) :
    ∀ reaction ∈ plan.reactions, ∃ trader,
      coordinator.traders.get? reaction.userId = some trader ∧
        trader.remainingReactionOrders = 0 ∧ reaction.symbol = trader.symbol := by
  intro reaction member
  obtain ⟨candidate, inside, user, symbol⟩ := owned reaction member
  obtain ⟨trader, found, idle, traded⟩ := candidates_idle ok inside
  exact ⟨trader, user ▸ found, idle, symbol.trans traded⟩

/-- The traders of a plan that is made for candidates are idle, and each takes its reaction up. -/
theorem assignPlans_candidates (ok : Coordinated held coordinator) {plan : ResolvedEventPlan}
    (owned : ∀ reaction ∈ plan.reactions, ∃ candidate ∈ coordinator.candidates,
      reaction.userId = candidate.userId ∧ reaction.symbol = candidate.symbol) (eventId : CodePoints) :
    Accounted (held.take eventId plan.reactions) coordinator
        (assignPlans eventId (coordinator.openRun eventId plan.maxSchedulerLagMs) plan.reactions).1 ∧
      (assignPlans eventId (coordinator.openRun eventId plan.maxSchedulerLagMs)
        plan.reactions).2 = .ok 0 ∧
      Untouched coordinator
        (assignPlans eventId (coordinator.openRun eventId plan.maxSchedulerLagMs)
          plan.reactions).1 := by
  obtain ⟨opened, started⟩ := ok.openRun eventId plan.maxSchedulerLagMs
  have free := reactions_idle ok owned
  obtain ⟨assigned, none_dropped, outside⟩ :=
    assignPlans_spec plan.reactions opened.coordinated started plan.userIds_unique free
  refine ⟨opened.trans assigned, none_dropped, fun userId trader found busy => ?_⟩
  refine (outside userId fun member => ?_).trans found
  -- A busy trader is none of those that the plan has a reaction for.
  obtain ⟨reaction, inside, same⟩ := List.mem_map.mp member
  obtain ⟨other, stored, idle, _⟩ := free reaction inside
  rw [same, found] at stored
  cases stored
  omega

/-- Applying an event comes to one of the three. -/
theorem applyEvent_applied (ok : Coordinated held coordinator) (event : NewsShockEvent) :
    EventApplied held coordinator event (coordinator.applyEvent random event).1
      (coordinator.applyEvent random event).2 := by
  have planned := planOnce_planned random coordinator.planner event coordinator.candidates
  unfold applyEvent
  generalize coordinator.planner.planOnce random event coordinator.candidates = outcome
    at planned ⊢
  obtain ⟨planner, result⟩ := outcome
  cases planned with
  -- Another event was planned under the id.
  | refused known other =>
    refine .failed ?_
    rw [known]
    exact fun same => other (Option.some.inj same)
  -- The same event was planned before.
  | repeated known => exact .deduplicated known
  -- The plan of the event is not valid, and nothing is kept of it.
  | failed fresh raised =>
    refine .failed ?_
    rw [fresh]
    exact Option.some_ne_none event ∘ Eq.symm
  | resolved fresh made =>
    rename_i plan
    obtain ⟨about, owned⟩ := resolve_ok made
    -- Remembering the event leaves the traders and their runs alone.
    have known : Coordinated held { coordinator with
        planner := { coordinator.planner with
          processedEvents := coordinator.planner.processedEvents.set event.eventId event } } :=
      ⟨ok.named, ok.follows, ok.assigned, ok.listed, ok.lagged⟩
    obtain ⟨all, none_dropped, untouched⟩ :=
      assignPlans_candidates known owned event.eventId
    simp only at none_dropped ⊢
    rw [none_dropped]
    exact .planned about fresh all.coordinated
      (fun balanced => all.balanced ⟨balanced.each, balanced.overall⟩)
      (congrArg ReactionPlanner.processedEvents all.planner) all.liveEvents untouched

/-- Every received event is kept under its own id. -/
def Received (coordinator : EventCoordinator) : Prop :=
  ∀ eventId existing, coordinator.liveEvents.get? eventId = some existing →
    existing.eventId = eventId

/-- Planned events are remembered, as are received ones; only fresh events are planned. -/
structure Remembered (coordinator next : EventCoordinator)
    (outcomes : List (Except ValueError Applied)) : Prop where
  processed : ∀ {eventId event}, coordinator.planner.processedEvents.get? eventId = some event →
    next.planner.processedEvents.get? eventId = some event
  live : ∀ {eventId event}, coordinator.liveEvents.get? eventId = some event →
    next.liveEvents.get? eventId = some event
  received : Received coordinator → Received next
  fresh : ∀ plan ∈ outcomes.filterMap planOf,
    coordinator.planner.processedEvents.get? plan.event.eventId = none
  known : ∀ plan ∈ outcomes.filterMap planOf,
    next.planner.processedEvents.get? plan.event.eventId = some plan.event
  distinct : ((outcomes.filterMap planOf).map fun plan => plan.event.eventId).Nodup

/-- Without any plan, it is enough to keep what is remembered. -/
theorem Remembered.same {next : EventCoordinator} {outcomes : List (Except ValueError Applied)}
    (planner : next.planner = coordinator.planner) (live : next.liveEvents = coordinator.liveEvents)
    (none_planned : outcomes.filterMap planOf = []) :
    Remembered coordinator next outcomes where
  processed := fun found => planner.symm ▸ found
  live := fun found => live.symm ▸ found
  received := fun received eventId existing found => received eventId existing (live ▸ found)
  fresh := fun _ member => absurd (none_planned ▸ member) List.not_mem_nil
  known := fun _ member => absurd (none_planned ▸ member) List.not_mem_nil
  distinct := none_planned.symm ▸ List.nodup_nil

/-- What is remembered adds up. -/
theorem Remembered.append {first second third : EventCoordinator}
    {outcomes more : List (Except ValueError Applied)} (before : Remembered first second outcomes)
    (after : Remembered second third more) : Remembered first third (outcomes ++ more) where
  processed := fun found => after.processed (before.processed found)
  live := fun found => after.live (before.live found)
  received := after.received ∘ before.received
  fresh := by
    intro plan member
    rw [List.filterMap_append] at member
    rcases List.mem_append.mp member with old | new
    · exact before.fresh plan old
    · -- What is not known in the middle is not known before.
      cases known : first.planner.processedEvents.get? plan.event.eventId with
      | none => rfl
      | some event =>
        have still := before.processed known
        rw [after.fresh plan new] at still
        cases still
  known := by
    intro plan member
    rw [List.filterMap_append] at member
    rcases List.mem_append.mp member with old | new
    · exact after.processed (before.known plan old)
    · exact after.known plan new
  distinct := by
    rw [List.filterMap_append, List.map_append]
    refine List.nodup_append'.mpr ⟨before.distinct, after.distinct, fun eventId old new => ?_⟩
    -- A plan of the second part is for an event that was not known in the middle.
    obtain ⟨plan, inside, rfl⟩ := List.mem_map.mp old
    obtain ⟨other, inside', same⟩ := List.mem_map.mp new
    have known := before.known plan inside
    rw [← same, after.fresh other inside'] at known
    cases known

/-- What is kept when events are applied, whatever becomes of them. -/
structure Handled (held : Holdings) (coordinator next : EventCoordinator)
    (outcomes : List (Except ValueError Applied)) : Prop where
  coordinated : Coordinated (held.follow (outcomes.filterMap planOf)) next
  balanced : ∀ {flying}, Balanced flying coordinator → Balanced flying next
  untouched : Untouched coordinator next
  abandoned : ∀ outcome ∈ outcomes, abandonedBy outcome = 0
  remembered : Remembered coordinator next outcomes

/-- An applied event has been handled. -/
theorem EventApplied.handled {event : NewsShockEvent} {next : EventCoordinator}
    {outcome : Except ValueError Applied}
    (applied : EventApplied held coordinator event next outcome)
    (ok : Coordinated held coordinator) : Handled held coordinator next [outcome] := by
  cases applied with
  -- A failed event changes nothing, and brings no plan.
  | failed other =>
    refine ⟨ok, id, fun _ _ found _ => found, fun outcome member => ?_, .same rfl rfl rfl⟩
    cases List.mem_singleton.mp member
    rfl
  | deduplicated known =>
    refine ⟨⟨ok.named, ok.follows, ok.assigned, ok.listed, ok.lagged⟩,
      fun balanced => ⟨balanced.each, balanced.overall⟩, fun _ _ found _ => found,
      fun outcome member => ?_, .same rfl rfl rfl⟩
    cases List.mem_singleton.mp member
    rfl
  | planned about fresh coordinated balanced processed live untouched =>
    rename_i plan
    subst about
    refine ⟨coordinated, balanced, untouched, fun outcome member => ?_,
      fun found => ?_, fun found => live.symm ▸ found,
      fun received eventId existing found => received eventId existing (live ▸ found),
      fun other member => ?_, fun other member => ?_, List.nodup_singleton _⟩
    · cases List.mem_singleton.mp member
      rfl
    · -- The event of the plan is new, so that no other one is lost.
      rw [processed, Dict.get?_set, if_neg, found]
      intro same
      rw [same, fresh] at found
      cases found
    · cases List.mem_singleton.mp (show other ∈ [plan] from member)
      exact fresh
    · cases List.mem_singleton.mp (show other ∈ [plan] from member)
      rw [processed, Dict.get?_set, if_pos rfl]

/-- A received event says what a market event said when it was received first. -/
def Repeats (existing : NewsShockEvent) (event : EventItem) : Prop :=
  existing.symbol = event.symbol ∧
    directionHints.lookup event.direction = some existing.directionHint ∧
    presetByImpact.lookup event.impact = some existing.preset ∧
    existing.label = event.headline ∧ existing.source = event.source

/-- What becomes of a market event: it is refused, or applied as it was received first. -/
inductive MarketEventApplied (held : Holdings) (coordinator : EventCoordinator) (event : EventItem)
    (tick : Int) : EventCoordinator → Except ValueError Applied → Prop where
  | refused {error : ValueError} (unsaid : 1 ≤ tick → ∀ existing,
      coordinator.liveEvents.get? event.eventId = some existing → ¬ Repeats existing event) :
      MarketEventApplied held coordinator event tick coordinator (.error error)
  | again {existing : NewsShockEvent} {next : EventCoordinator}
      {outcome : Except ValueError Applied}
      (known : coordinator.liveEvents.get? event.eventId = some existing)
      (alike : Repeats existing event)
      (applied : EventApplied held coordinator existing next outcome) :
      MarketEventApplied held coordinator event tick next outcome
  | first {created : NewsShockEvent} {next : EventCoordinator}
      {outcome : Except ValueError Applied}
      (fresh : coordinator.liveEvents.get? event.eventId = none)
      (named : created.eventId = event.eventId) (alike : Repeats created event)
      (applied : EventApplied held { coordinator with
        liveEvents := coordinator.liveEvents.set event.eventId created
        liveEventIds := insert event.eventId coordinator.liveEventIds } created next outcome) :
      MarketEventApplied held coordinator event tick next outcome

/-- A constructed event has the fields that it was constructed with. -/
theorem created_fields {eventId : CodePoints} {symbol label source : String} {startsAfterMs seed : Int}
    {preset : EventPreset} {directionHint : DirectionHint} {created : NewsShockEvent}
    (made : NewsShockEvent.create eventId symbol startsAfterMs preset directionHint label source
      seed = .ok created) :
    created.eventId = eventId ∧ created.symbol = symbol ∧ created.preset = preset ∧
      created.directionHint = directionHint ∧ created.label = label ∧ created.source = source := by
  unfold NewsShockEvent.create at made
  iterate 3 obtain ⟨_, made⟩ := passed made
  cases made
  exact ⟨rfl, rfl, rfl, rfl, rfl, rfl⟩

/-- The market events that were received do not matter to the traders. -/
theorem Coordinated.receive (ok : Coordinated held coordinator) (eventId : CodePoints)
    (created : NewsShockEvent) :
    Coordinated held { coordinator with
      liveEvents := coordinator.liveEvents.set eventId created
      liveEventIds := insert eventId coordinator.liveEventIds } :=
  ⟨ok.named, ok.follows, ok.assigned, ok.listed, ok.lagged⟩

/-- What applying a market event does. -/
theorem applyMarketEvent_applied (ok : Coordinated held coordinator) (event : EventItem)
    (tick : Int) :
    MarketEventApplied held coordinator event tick
      (coordinator.applyMarketEvent random event.eventId event.symbol event.direction event.impact
        event.headline event.source tick).1
      (coordinator.applyMarketEvent random event.eventId event.symbol event.direction event.impact
        event.headline event.source tick).2 := by
  unfold applyMarketEvent
  -- Before the first tick every event is refused.
  by_cases early : tick < 1
  · rw [if_pos early]
    exact .refused fun late => absurd late (by omega)
  · rw [if_neg early]
    cases direction : directionHints.lookup event.direction with
    -- An unknown direction is none of a received event.
    | none =>
      refine .refused fun _ existing _ alike => ?_
      rw [Repeats, direction] at alike
      exact Option.some_ne_none _ alike.2.1.symm
    | some directionHint =>
      cases impact : presetByImpact.lookup event.impact with
      -- An unknown impact is none of a received event either.
      | none =>
        refine .refused fun _ existing _ alike => ?_
        rw [Repeats, impact] at alike
        exact Option.some_ne_none _ alike.2.2.1.symm
      | some preset =>
        cases known : coordinator.liveEvents.get? event.eventId with
        | some existing =>
          simp only
          -- A received event is applied again if nothing about it differs.
          split_ifs with same
          · obtain ⟨symbol, other_preset, other_hint, label, source⟩ := of_decide_eq_true same
            refine .again known ⟨symbol, ?_, ?_, label, source⟩ (applyEvent_applied random ok existing)
            · rw [direction, other_hint]
            · rw [impact, other_preset]
          · refine .refused fun _ other found alike => same (decide_eq_true ?_)
            cases known.symm.trans found
            obtain ⟨symbol, hint, other_preset, label, source⟩ := alike
            rw [direction] at hint
            rw [impact] at other_preset
            exact ⟨symbol, (Option.some.inj other_preset).symm, (Option.some.inj hint).symm, label,
              source⟩
        | none =>
          simp only
          cases made : NewsShockEvent.create event.eventId event.symbol
              (tick * coordinator.tickIntervalMs) preset directionHint event.headline event.source
              42 with
          -- An event that cannot be constructed is not received.
          | error error =>
            refine .refused fun _ existing found => ?_
            rw [known] at found
            cases found
          | ok created =>
            -- A new event is received as it was said to be.
            obtain ⟨named, symbol, other_preset, hint, label, source⟩ := created_fields made
            refine .first known named ⟨symbol, ?_, ?_, label, source⟩
              (applyEvent_applied random (ok.receive event.eventId created) created)
            · rw [direction, hint]
            · rw [impact, other_preset]

/-- An applied market event has been handled. -/
theorem MarketEventApplied.handled {event : EventItem} {tick : Int} {next : EventCoordinator}
    {outcome : Except ValueError Applied}
    (applied : MarketEventApplied held coordinator event tick next outcome)
    (ok : Coordinated held coordinator) : Handled held coordinator next [outcome] := by
  cases applied with
  | refused unsaid =>
    refine ⟨ok, id, fun _ _ found _ => found, fun outcome member => ?_, .same rfl rfl rfl⟩
    cases List.mem_singleton.mp member
    rfl
  -- The event that was received is applied again.
  | again known alike applied => exact applied.handled ok
  -- The new event is received first, under an id that was free.
  | first fresh named alike applied =>
    obtain ⟨coordinated, balanced, untouched, abandoned, remembered⟩ :=
      applied.handled (ok.receive event.eventId _)
    refine ⟨coordinated, fun before => balanced ⟨before.each, before.overall⟩, untouched, abandoned,
      remembered.processed, fun found => remembered.live ?_,
      fun received => remembered.received fun eventId existing found => ?_, remembered.fresh,
      remembered.known, remembered.distinct⟩
    · rw [Dict.get?_set, if_neg, found]
      intro same
      rw [same, fresh] at found
      cases found
    · -- Every received event is still kept under its own id.
      rw [Dict.get?_set] at found
      split_ifs at found with same
      · cases found
        exact named.trans same.symm
      · exact received eventId existing found

/-- Due events are handled one after the other. -/
theorem applyDue_handled (events : List NewsShockEvent) : ∀ {held : Holdings}
    {coordinator : EventCoordinator}, Coordinated held coordinator →
      Handled held coordinator (coordinator.applyDue random events).1
        (coordinator.applyDue random events).2 := by
  induction events with
  | nil =>
    intro held coordinator ok
    exact ⟨ok, id, fun _ _ found _ => found, fun outcome member => absurd member List.not_mem_nil,
      .same rfl rfl rfl⟩
  | cons event later ih =>
    intro held coordinator ok
    have first := (applyEvent_applied random ok event).handled ok
    unfold applyDue
    generalize coordinator.applyEvent random event = applied at first ⊢
    obtain ⟨next, outcome⟩ := applied
    cases outcome with
    -- The first failure keeps the later events from being applied.
    | error error => exact first
    | ok applied =>
      have rest := ih first.coordinated
      refine ⟨?_, rest.balanced ∘ first.balanced, first.untouched.trans rest.untouched, ?_,
        first.remembered.append rest.remembered⟩
      · -- The plans of the first event and of the later ones follow each other.
        have coordinated := rest.coordinated
        rw [← Holdings.follow_append, ← List.filterMap_append] at coordinated
        exact coordinated
      · intro outcome member
        rcases List.mem_cons.mp member with rfl | member
        · exact first.abandoned _ List.mem_cons_self
        · exact rest.abandoned outcome member

/-- What every call keeps; a trader that has orders left keeps its plan. -/
structure Called (held : Holdings) (coordinator next : EventCoordinator)
    (reply : CoordinatorReply) : Prop where
  coordinated : Coordinated (held.follow (reply.outcomes.filterMap planOf)) next
  kept : ∀ userId trader, coordinator.traders.get? userId = some trader →
    0 < trader.remainingReactionOrders →
      ∃ later, next.traders.get? userId = some later ∧ later.plan = trader.plan ∧
        trader.consumed <+: later.consumed
  abandoned : ∀ outcome ∈ reply.outcomes, abandonedBy outcome = 0
  remembered : Remembered coordinator next reply.outcomes

/-- Before a tick, plans are handed out and late orders are dropped, and the books are kept. -/
theorem beforeTick_called (ok : Coordinated held coordinator) (tick now : Int) :
    Called held coordinator (coordinator.beforeTick random tick now).1
        ⟨(coordinator.beforeTick random tick now).2, []⟩ ∧
      ∀ {flying}, Balanced flying coordinator →
        Balanced flying (coordinator.beforeTick random tick now).1 := by
  unfold beforeTick
  simp only
  generalize coordinator.source.dueEvents (now - coordinator.startedMs) = taken
  obtain ⟨source, due⟩ := taken
  -- Taking events from the schedule concerns no trader.
  have known : Coordinated held { coordinator with source } :=
    ⟨ok.named, ok.follows, ok.assigned, ok.listed, ok.lagged⟩
  have applied := applyDue_handled random due known
  generalize applyDue random { coordinator with source } due = handled at applied ⊢
  obtain ⟨middle, outcomes⟩ := handled
  simp only at applied
  have balanced : ∀ {flying}, Balanced flying coordinator → Balanced flying middle :=
    fun before => applied.balanced ⟨before.each, before.overall⟩
  have remembered : Remembered coordinator middle outcomes :=
    ⟨applied.remembered.processed, applied.remembered.live, applied.remembered.received,
      applied.remembered.fresh, applied.remembered.known, applied.remembered.distinct⟩
  split_ifs
  · -- After a failure nothing is dropped or completed.
    exact ⟨⟨applied.coordinated, fun userId trader found busy =>
      ⟨trader, applied.untouched userId trader found busy, rfl, List.prefix_rfl⟩,
      applied.abandoned, remembered⟩, balanced⟩
  · obtain ⟨dropped, progressed⟩ :=
      dropLateOrders_spec applied.coordinated (now - coordinator.startedMs) tick
    obtain ⟨completed, traders⟩ := maybeComplete_all
      (middle.dropLateOrders (now - coordinator.startedMs) tick).runs.keys _ dropped.coordinated
    have both := dropped.trans completed
    refine ⟨⟨completed.coordinated, fun userId trader found busy => ?_, applied.abandoned,
      ?_⟩, fun before => both.balanced (balanced before)⟩
    · -- What is busy is not touched by plans, and keeps its plan when orders are dropped.
      rw [traders]
      exact progressed userId trader (applied.untouched userId trader found busy)
    · have unplanned : Remembered coordinator _ (outcomes ++ []) :=
        remembered.append (.same both.planner both.liveEvents rfl)
      rwa [List.append_nil] at unplanned

/-- A trader that emits orders keeps its plan. -/
theorem nextIntents_called (ok : Coordinated held coordinator) (userId : String) (tick : Int)
    (snapshot : BookSnapshot) :
    Called held coordinator (coordinator.nextIntents userId tick snapshot).1
      ⟨[], (coordinator.nextIntents userId tick snapshot).2⟩ := by
  unfold nextIntents
  cases found : coordinator.traders.get? userId with
  | none =>
    exact ⟨ok, fun _ trader stored _ => ⟨trader, stored, rfl, List.prefix_rfl⟩,
      fun outcome member => absurd member List.not_mem_nil, .same rfl rfl rfl⟩
  | some trader =>
    -- The trader keeps its plan, and consumes what it emits.
    obtain ⟨settings, plan, _⟩ := trader.nextIntents_spec tick snapshot
    have progressed : Progressed coordinator { coordinator with
        traders := coordinator.traders.set userId (trader.nextIntents tick snapshot).1 } :=
      Progressed.set found plan (trader.nextIntents_consumed tick snapshot) rfl
    exact ⟨ok.set found settings plan, fun other current stored _ => progressed other current stored,
      fun outcome member => absurd member List.not_mem_nil, .same rfl rfl rfl⟩

/-- An intent that comes back concerns no trader. -/
theorem afterSubmit_called (ok : Coordinated held coordinator) (intent : OrderIntent)
    (submitted : Bool) (tick now : Int) :
    Called held coordinator (coordinator.afterSubmit intent submitted tick now) ⟨[], []⟩ := by
  have silent : ∀ outcome ∈ ([] : List (Except ValueError Applied)), abandonedBy outcome = 0 :=
    fun outcome member => absurd member List.not_mem_nil
  unfold afterSubmit
  -- The trader may have no event any more.
  cases coordinator.traderEvent.get? intent.userId with
  | none => exact ⟨ok, fun _ trader stored _ => ⟨trader, stored, rfl, List.prefix_rfl⟩, silent,
        .same rfl rfl rfl⟩
  | some eventId =>
    cases submitted with
    | false =>
      exact ⟨(ok.recordDrops eventId 1).maybeComplete eventId,
        fun _ trader stored _ => ⟨trader, stored, rfl, List.prefix_rfl⟩, silent,
        .same rfl rfl rfl⟩
    | true =>
      exact ⟨(ok.recordSubmit eventId _).maybeComplete eventId,
        fun _ trader stored _ => ⟨trader, stored, rfl, List.prefix_rfl⟩, silent,
        .same rfl rfl rfl⟩

/-- Whoever emits orders follows a plan, and the orders are in flight for the event of it. -/
theorem nextIntents_balanced {flying : List (Option CodePoints)} (ok : Coordinated held coordinator)
    (balanced : Balanced flying coordinator) (userId : String) (tick : Int)
    (snapshot : BookSnapshot) :
    Balanced (flying ++ List.replicate (coordinator.nextIntents userId tick snapshot).2.length
        ((held userId).map Prod.fst)) (coordinator.nextIntents userId tick snapshot).1 ∧
      ((coordinator.nextIntents userId tick snapshot).2 ≠ [] → (held userId).isSome = true) := by
  unfold nextIntents
  cases found : coordinator.traders.get? userId with
  | none => exact ⟨(List.append_nil flying).symm ▸ balanced, absurd rfl⟩
  | some trader =>
    obtain ⟨_, _, rest, _⟩ := trader.nextIntents_spec tick snapshot
    simp only
    generalize trader.nextIntents tick snapshot = emitted at rest ⊢
    obtain ⟨later, intents⟩ := emitted
    simp only at rest ⊢
    by_cases busy : 0 < trader.remainingReactionOrders
    · -- A busy trader is assigned to the event of its plan.
      obtain ⟨eventId, plan, holding, _, _, assigned⟩ := ok.busy found busy
      rw [holding]
      refine ⟨balanced.transfer found assigned rfl rfl rest ⟨rfl, fun _ => rfl⟩
        (fun other => ?_) ?_, fun _ => rfl⟩
      · rw [List.count_append, List.count_replicate]
        simp only [count, Option.map_some, beq_iff_eq, Option.some.injEq]
        simp only [eq_comm]
        omega
      · rw [List.length_append, List.length_replicate]
        simp only
        omega
    · -- A trader without orders left emits nothing.
      have silent : intents.length = 0 := by omega
      rw [silent, List.replicate_zero, List.append_nil]
      refine ⟨balanced.idle found rfl (by omega), fun some_emitted =>
        absurd (List.length_eq_zero_iff.mp silent) some_emitted⟩

/-- An intent that comes back counts for the event to which its trader is assigned. -/
theorem afterSubmit_balanced {flying later : List (Option CodePoints)}
    (ok : Coordinated held coordinator) (balanced : Balanced flying coordinator)
    {intent : OrderIntent} {eventId : CodePoints}
    (assigned : coordinator.traderEvent.get? intent.userId = some eventId)
    (back : (some eventId :: later).Perm flying) (submitted : Bool) (tick now : Int) :
    Balanced later (coordinator.afterSubmit intent submitted tick now) := by
  obtain ⟨run, stored, _⟩ := ok.listed assigned
  unfold afterSubmit
  rw [assigned]
  cases submitted with
  -- The run of the event counts the order as dropped or as submitted, and may be completed then.
  | false => exact (balanced.recordDrop stored back).maybeComplete eventId
  | true => exact (balanced.recordSubmit stored back _).maybeComplete eventId

/-- Every call keeps the plans of the traders that have orders left. -/
theorem call_called (ok : Coordinated held coordinator) (call : CoordinatorCall) :
    Called held coordinator (coordinator.call random call).1 (coordinator.call random call).2 := by
  -- Each call of the runner has its own law.
  cases call with
  | beforeTick tick now => exact (beforeTick_called random ok tick now).1
  | marketEvent event tick =>
    have handled := (applyMarketEvent_applied random ok event tick).handled ok
    exact ⟨handled.coordinated, fun userId trader found busy =>
      ⟨trader, handled.untouched userId trader found busy, rfl, List.prefix_rfl⟩,
      handled.abandoned, handled.remembered⟩
  | nextIntents userId tick snapshot => exact nextIntents_called ok userId tick snapshot
  | afterSubmit intent submitted tick now => exact afterSubmit_called ok intent submitted tick now

/-- Over a run of calls the traders follow the plans that were made, and none is abandoned. -/
theorem run_called (calls : List CoordinatorCall) : ∀ {held : Holdings}
    {coordinator : EventCoordinator}, Coordinated held coordinator →
      Coordinated (held.follow (plansMade (Machine.runTotal (call random) coordinator calls).2))
          (Machine.runTotal (call random) coordinator calls).1 ∧
        ∀ reply ∈ (Machine.runTotal (call random) coordinator calls).2,
          ∀ outcome ∈ reply.outcomes, abandonedBy outcome = 0 := by
  induction calls with
  | nil => exact fun ok => ⟨ok, fun reply member => absurd member List.not_mem_nil⟩
  | cons first later ih =>
    intro held coordinator ok
    -- The first call leads to a state in which the later ones go on.
    have called := call_called random ok first
    obtain ⟨coordinated, abandoned⟩ := ih called.coordinated
    rw [← Holdings.follow_append] at coordinated
    refine ⟨coordinated, fun reply member => ?_⟩
    rcases List.mem_cons.mp member with rfl | member
    · exact called.abandoned
    · exact abandoned reply member

/-- As long as a trader has orders left before each call, it keeps its plan. -/
theorem run_keeps {userId : String} (calls : List CoordinatorCall) : ∀ {held : Holdings}
    {coordinator : EventCoordinator} {trader : EventReactiveTrader},
    Coordinated held coordinator → coordinator.traders.get? userId = some trader →
      Machine.throughout (callTotal random) (isBusy userId) coordinator calls = true →
        ∃ kept, (Machine.runTotal (call random) coordinator calls).1.traders.get? userId =
          some kept ∧ kept.plan = trader.plan ∧ trader.consumed <+: kept.consumed := by
  induction calls with
  | nil => exact fun _ found _ => ⟨_, found, rfl, List.prefix_rfl⟩
  | cons first later ih =>
    intro held coordinator trader ok found stays
    have called := call_called random ok first
    -- The trader has orders left before the first call, and keeps its plan through it.
    obtain ⟨busy, stays⟩ := (Machine.throughout_cons rfl).mp stays
    unfold isBusy at busy
    rw [found, Option.any_some, decide_eq_true_eq] at busy
    obtain ⟨middle, found, same, more⟩ := called.kept userId trader found busy
    obtain ⟨last, found, same', more'⟩ := ih called.coordinated found stays
    exact ⟨last, found, same'.trans same, more.trans more'⟩

/-- The traders of a new coordinator are dormant, each under its own user. -/
theorem reactiveTraders_dormant (participants : List TraderSettings) {userId : String}
    {trader : EventReactiveTrader}
    (found : (reactiveTraders participants).get? userId = some trader) :
    ∃ settings, trader = .dormant settings ∧ settings.userId = userId := by
  unfold reactiveTraders at found
  generalize participants.filter (fun settings => settings.strategy = .eventReactive) = reactive
    at found
  -- The induction takes the last participant off, as a later one replaces those before it.
  induction reactive using List.reverseRecOn with
  | nil => cases found
  | append_singleton before settings ih =>
    rw [List.foldl_append, List.foldl_cons, List.foldl_nil, Dict.get?_set] at found
    split_ifs at found with same
    · cases found
      exact ⟨settings, rfl, same.symm⟩
    · exact ih found

/-- A new coordinator is coordinated, and it has nothing to account for. -/
theorem create_coordinated {events : List NewsShockEvent} {participants : List TraderSettings}
    {tickIntervalMs now : Int}
    (made : create events participants tickIntervalMs now = .ok coordinator) :
    Coordinated (latestPlans []) coordinator ∧ Balanced [] coordinator := by
  obtain ⟨_, made⟩ := passed made
  cases made
  have ok : Coordinated (latestPlans []) ⟨tickIntervalMs, now, .create events,
      reactiveTraders participants, ⟨tickIntervalMs, .empty, ‹_›⟩, .empty, .empty, .empty,
      0, 0, 0, 0, 0, 0, 0, .empty, ∅⟩ := by
    -- No trader follows a plan, and no event has a run.
    refine ⟨fun found => ?_, fun found => ?_, fun _ => rfl, fun found => ?_, fun found => ?_⟩
    · obtain ⟨settings, rfl, same⟩ := reactiveTraders_dormant participants found
      exact same
    · obtain ⟨settings, rfl, _⟩ := reactiveTraders_dormant participants found
      rfl
    · cases found
    · cases found
  -- Nobody has an order left before the first event.
  have idle : ∀ item ∈ (reactiveTraders participants).items,
      item.2.remainingReactionOrders = 0 := fun item member =>
    ok.idle (Dict.get?_eq_some_iff.mpr member) rfl
  refine ⟨ok, ⟨fun eventId => ?_, ?_⟩⟩
  · unfold remainingOf
    rw [Dict.total_eq_zero fun item member => by rw [idle item member, ite_self]]
    rfl
  · rw [Dict.total_eq_zero idle]
    rfl

/--
A plan with orders left is never overwritten.

Its trader is assigned to the event that the plan came from, and the run of the event lists it.
The trader keeps the plan until it has consumed every order, and nothing is dropped to make room.
-/
theorem plans_not_overwritten {events : List NewsShockEvent} {participants : List TraderSettings}
    {tickIntervalMs now : Int}
    (made : create events participants tickIntervalMs now = .ok coordinator)
    (calls later : List CoordinatorCall) :
    (∀ reply ∈ coordinator.repliesTo random calls, ∀ outcome ∈ reply.outcomes,
      abandonedBy outcome = 0) ∧
    ∀ userId trader, (coordinator.reachedBy random calls).traders.get? userId = some trader →
      0 < trader.remainingReactionOrders →
        ∃ eventId plan run,
          latestPlans (plansMade (coordinator.repliesTo random calls)) userId =
            some (eventId, plan) ∧
          trader.plan = some plan ∧ plan.activated = true ∧
          (coordinator.reachedBy random calls).traderEvent.get? userId = some eventId ∧
          (coordinator.reachedBy random calls).runs.get? eventId = some run ∧
          userId ∈ run.userIds ∧
          (Machine.throughout (callTotal random) (isBusy userId)
              (coordinator.reachedBy random calls) later = true →
            ∃ kept, ((coordinator.reachedBy random calls).reachedBy random later).traders.get?
                userId = some kept ∧
              kept.plan = some plan ∧ trader.consumed <+: kept.consumed ∧
              (kept.remainingReactionOrders = 0 →
                ∀ index < plan.orderCount, index ∈ kept.consumed)) := by
  obtain ⟨coordinated, abandoned⟩ :=
    run_called random calls (create_coordinated made).1
  refine ⟨abandoned, fun userId trader found busy => ?_⟩
  -- What is left is the rest of a plan that the trader follows, which has a run.
  obtain ⟨eventId, plan, holding, follows, active, assigned⟩ := coordinated.busy found busy
  obtain ⟨run, stored, listed⟩ := coordinated.listed assigned
  refine ⟨eventId, plan, run, holding, follows, active, assigned, stored, listed, fun stays => ?_⟩
  obtain ⟨kept, still, same, more⟩ := run_keeps random later coordinated found stays
  have current := same.trans follows
  exact ⟨kept, still, current, more,
    fun done index planned => kept.consumed_all current active done planned⟩

end Apply

end EventCoordinator

/-- A coordinator with that trader, and with panics at the given times. -/
def reactorCoordinator (events : List NewsShockEvent) : EventCoordinator :=
  ⟨1000, 0, .create events, EventCoordinator.reactiveTraders [reactor], ⟨1000, .empty, by decide⟩,
    .empty, .empty, .empty, 0, 0, 0, 0, 0, 0, 0, .empty, ∅⟩

/-- The two orders of a panic are left to the trader, and nothing was dropped for them. -/
theorem plans_not_overwritten_reactor :
    EventCoordinator.isBusy "reactor"
      ((reactorCoordinator [panicNews firstId 0 (by decide)]).reachedBy .least [.beforeTick 1 0])
      (.beforeTick 2 1000) = true ∧
    ∀ reply ∈ (reactorCoordinator [panicNews firstId 0 (by decide)]).repliesTo .least
        [.beforeTick 1 0],
      ∀ outcome ∈ reply.outcomes, abandonedBy outcome = 0 :=
  have made : EventCoordinator.create [panicNews firstId 0 (by decide)] [reactor] 1000 0 =
    .ok (reactorCoordinator [panicNews firstId 0 (by decide)]) := rfl
  ⟨by decide +kernel, (EventCoordinator.plans_not_overwritten .least made [.beforeTick 1 0] []).1⟩

end StockMarket
