import StockMarket.Library.Sorted
import StockMarket.Runner.EventErrors

/-! When the scheduled events are taken, and which of them are applied when another one fails. -/

namespace StockMarket

namespace SyntheticEventSource

/-- The events that are still to be taken. -/
def pending (source : SyntheticEventSource) : List NewsShockEvent :=
  source.events.drop source.nextIndex

/-- The events still to be taken stand in the order of their times. -/
def Ordered (source : SyntheticEventSource) : Prop :=
  source.pending.Pairwise fun first second => first.startsAfterMs ≤ second.startsAfterMs

/-- The events still to be taken stand in the order of their times, each under its own id. -/
structure Timetable (source : SyntheticEventSource) : Prop where
  ordered : source.Ordered
  distinct : (source.pending.map NewsShockEvent.eventId).Nodup

/-- The events of a source up to the first one whose time has not come are taken. -/
theorem dueEvents_pending (source : SyntheticEventSource) (elapsedMs : Int) :
    (source.dueEvents elapsedMs).1.pending =
      source.pending.dropWhile fun event => event.startsAfterMs ≤ elapsedMs := by
  let due := source.pending.takeWhile fun event => event.startsAfterMs ≤ elapsedMs
  show source.events.drop (source.nextIndex + due.length) = _
  -- What is taken and what is left make up what was pending.
  have split : due ++ source.pending.dropWhile _ = source.pending :=
    List.takeWhile_append_dropWhile
  rw [← List.drop_drop]
  change source.pending.drop due.length = _
  conv_lhs => rw [← split]
  exact List.drop_left

/-- The events that are taken stand in front of those that are not. -/
theorem dueEvents_append (source : SyntheticEventSource) (elapsedMs : Int) :
    (source.dueEvents elapsedMs).2 ++ (source.dueEvents elapsedMs).1.pending = source.pending := by
  rw [dueEvents_pending]
  exact List.takeWhile_append_dropWhile

/-- The events that are left start later. -/
theorem Ordered.mem_pending {source : SyntheticEventSource} (ordered : source.Ordered)
    {elapsedMs : Int} {event : NewsShockEvent}
    (left : event ∈ (source.dueEvents elapsedMs).1.pending) :
    event ∈ source.pending ∧ elapsedMs < event.startsAfterMs := by
  -- The times grow, so that what is left is all that starts later.
  rw [dueEvents_pending, dropWhile_eq_filter ordered fun first second before later =>
    decide_eq_true (before.trans (of_decide_eq_true later)), List.mem_filter] at left
  obtain ⟨inside, late⟩ := left
  refine ⟨inside, Int.not_le.mp fun due => ?_⟩
  exact of_decide_eq_true late (decide_eq_true due)

/-- Events are taken once their time has come. -/
theorem Ordered.mem_dueEvents {source : SyntheticEventSource} (ordered : source.Ordered)
    {elapsedMs : Int} {event : NewsShockEvent} :
    event ∈ (source.dueEvents elapsedMs).2 ↔
      event ∈ source.pending ∧ event.startsAfterMs ≤ elapsedMs := by
  -- The times grow, so that what is taken is all that has started.
  have taken : (source.dueEvents elapsedMs).2 =
      source.pending.filter fun event => event.startsAfterMs ≤ elapsedMs :=
    takeWhile_eq_filter ordered fun first second before later =>
      decide_eq_true (before.trans (of_decide_eq_true later))
  rw [taken, List.mem_filter, decide_eq_true_eq]

/-- What is left stays in order. -/
theorem Ordered.dueEvents {source : SyntheticEventSource} (ordered : source.Ordered)
    (elapsedMs : Int) : (source.dueEvents elapsedMs).1.Ordered := by
  unfold Ordered at ordered
  rw [← source.dueEvents_append elapsedMs] at ordered
  exact (List.pairwise_append.mp ordered).2.1

/-- What is left of a timetable is one. -/
theorem Timetable.dueEvents {source : SyntheticEventSource} (timetable : source.Timetable)
    (elapsedMs : Int) : (source.dueEvents elapsedMs).1.Timetable := by
  obtain ⟨ordered, distinct⟩ := timetable
  -- Ids that are distinct together are distinct in the part that is left.
  rw [← source.dueEvents_append elapsedMs, List.map_append] at distinct
  exact ⟨ordered.dueEvents elapsedMs, distinct.of_append_right⟩

/-- The scheduled events are put in order. -/
theorem create_ordered (events : List NewsShockEvent) : (create events).Ordered := by
  -- The key of the order is the time, and then the id.
  let before (first second : NewsShockEvent) : Prop := first.startsAfterMs < second.startsAfterMs ∨
    first.startsAfterMs = second.startsAfterMs ∧ first.eventId ≤ second.eventId
  have total : Std.Total before := ⟨fun first second => by
    rcases lt_trichotomy first.startsAfterMs second.startsAfterMs with less | same | more
    · exact .inl (.inl less)
    · exact (le_total first.eventId second.eventId).imp (fun named => .inr ⟨same, named⟩)
        fun named => .inr ⟨same.symm, named⟩
    · exact .inr (.inl more)⟩
  have transitive : IsTrans NewsShockEvent before := ⟨fun first second third one two => by
    rcases one with less | ⟨same, named⟩
    · exact .inl (by rcases two with less' | ⟨same', _⟩ <;> omega)
    · rcases two with less' | ⟨same', named'⟩
      · exact .inl (same ▸ less')
      · exact .inr ⟨same.trans same', le_trans named named'⟩⟩
  -- The sort yields the order that the cursor relies on.
  have sorted : (events.insertionSort before).Pairwise before :=
    List.pairwise_insertionSort before events
  refine sorted.imp fun ahead => ?_
  -- An event that comes before another one starts earlier or together with it.
  rcases ahead with less | ⟨same, _⟩
  · exact le_of_lt less
  · exact le_of_eq same

/-- The scheduled events make a timetable when they have distinct ids. -/
theorem create_timetable {events : List NewsShockEvent}
    (distinct : (events.map NewsShockEvent.eventId).Nodup) : (create events).Timetable :=
  ⟨create_ordered events, ((List.perm_insertionSort _ events).map _).nodup_iff.mpr distinct⟩

end SyntheticEventSource

namespace EventCoordinator

section Schedule

variable {G : Type} (random : RandomSource G) (coordinator : EventCoordinator)

/-- What is left alone by whatever happens to events and traders. -/
def schedule : SyntheticEventSource × Int × Int × Int :=
  (coordinator.source, coordinator.startedMs, coordinator.tickIntervalMs,
    coordinator.planner.tickIntervalMs)

/-- What is left alone unless an event is applied. -/
def register : (SyntheticEventSource × Int × Int × Int) × ReactionPlanner × Dict CodePoints Int ×
    Dict CodePoints NewsShockEvent × Finset CodePoints :=
  (coordinator.schedule, coordinator.planner, coordinator.eventMaxLag, coordinator.liveEvents,
    coordinator.liveEventIds)

/-- Plans are handed out without any change of the register. -/
theorem assignPlans_register (eventId : CodePoints) (reactions : List ResolvedReactionPlan) :
    (assignPlans eventId coordinator reactions).1.register = coordinator.register := by
  induction reactions generalizing coordinator with
  | nil => rfl
  | cons reaction later ih =>
    -- Giving up a previous event touches the runs alone, as does an activation.
    have abandoned : ∀ trader userId,
        (coordinator.abandonPreviousEvent trader userId).1.register = coordinator.register := by
      intro trader userId
      unfold abandonPreviousEvent
      simp only
      split
      · rfl
      · split_ifs <;> rfl
    have activated : ∀ next : EventCoordinator,
        (next.activate eventId reaction).register = next.register := by
      intro next
      unfold activate
      split_ifs <;> rfl
    unfold assignPlans
    -- A reaction without a trader is passed over.
    split
    · exact ih coordinator
    · simp only
      split
      · -- A failure ends the hand-out, and otherwise the later reactions follow.
        exact abandoned _ _
      · exact (ih _).trans ((activated _).trans (abandoned _ _))

/-- Applying an event leaves the schedule. -/
theorem applyEvent_schedule (event : NewsShockEvent) :
    (coordinator.applyEvent random event).1.schedule = coordinator.schedule := by
  have planned := planOnce_planned random coordinator.planner event coordinator.candidates
  unfold applyEvent
  generalize coordinator.planner.planOnce random event coordinator.candidates = outcome at planned ⊢
  obtain ⟨planner, result⟩ := outcome
  cases planned with
  | refused known other => rfl
  | repeated known => rfl
  | failed fresh raised => rfl
  -- A run is opened beside the schedule, and the plans are handed out.
  | resolved fresh made => exact congrArg Prod.fst (assignPlans_register _ _ _)

/-- Applying due events leaves the schedule. -/
theorem applyDue_schedule (events : List NewsShockEvent) :
    (coordinator.applyDue random events).1.schedule = coordinator.schedule := by
  induction events generalizing coordinator with
  | nil => rfl
  | cons event later ih =>
    have first := coordinator.applyEvent_schedule random event
    unfold applyDue
    generalize coordinator.applyEvent random event = applied at first ⊢
    obtain ⟨next, outcome⟩ := applied
    -- The rest of the events is left alone after a failure.
    cases outcome with
    | error error => exact first
    | ok applied => exact (ih next).trans first

/-- Applying a market event leaves the schedule. -/
theorem applyMarketEvent_schedule (eventId : CodePoints) (symbol direction impact label source : String)
    (tick : Int) :
    (coordinator.applyMarketEvent random eventId symbol direction impact label source tick).1.schedule
      = coordinator.schedule := by
  -- The event is new, or it is known, or it is refused.
  rcases applyMarketEvent_cases random coordinator eventId symbol direction impact label source tick
    with ⟨created, _, _, applied⟩ | ⟨existing, _, applied⟩ | ⟨error, _, refused⟩
  · rw [applied]
    exact applyEvent_schedule random _ created
  · rw [applied]
    exact applyEvent_schedule random coordinator existing
  · rw [refused]

/-- Late orders are dropped without any change of the register. -/
theorem dropLateOrders_register (elapsedMs tick : Int) :
    (coordinator.dropLateOrders elapsedMs tick).register = coordinator.register := by
  have one : ∀ (next : EventCoordinator) (userId : String),
      (dropLateOrdersOf elapsedMs tick next userId).register = next.register := by
    intro next userId
    unfold dropLateOrdersOf
    -- A trader that follows an event may drop orders.
    split
    · simp only
      split_ifs <;> rfl
    · rfl
  exact Machine.foldl_keeps one _ coordinator

/-- Completed runs do not matter to the register. -/
theorem maybeComplete_register (eventIds : List CodePoints) :
    (eventIds.foldl maybeComplete coordinator).register = coordinator.register := by
  have one : ∀ (next : EventCoordinator) (eventId : CodePoints),
      (next.maybeComplete eventId).register = next.register := fun _ _ => rfl
  exact Machine.foldl_keeps one eventIds coordinator

/-- The calls of the traders do not change the register. -/
theorem nextIntents_register (userId : String) (tick : Int) (snapshot : BookSnapshot) :
    (coordinator.nextIntents userId tick snapshot).1.register = coordinator.register := by
  unfold nextIntents
  split <;> rfl

/-- A report leaves the register of events. -/
theorem afterSubmit_register (intent : OrderIntent) (submitted : Bool) (tick now : Int) :
    (coordinator.afterSubmit intent submitted tick now).register = coordinator.register := by
  unfold afterSubmit
  split
  · rfl
  · split_ifs <;> rfl

/-- A coordinator before a tick, once the due events are taken and applied. -/
def applied (now : Int) : EventCoordinator × List (Except ValueError Applied) :=
  applyDue random
    { coordinator with
      source := (coordinator.source.dueEvents (now - coordinator.startedMs)).1 }
    (coordinator.source.dueEvents (now - coordinator.startedMs)).2

/-- Nothing else happens to the register before a tick. -/
theorem beforeTick_register (tick now : Int) :
    (coordinator.beforeTick random tick now).1.register =
        (coordinator.applied random now).1.register ∧
      (coordinator.beforeTick random tick now).2 = (coordinator.applied random now).2 := by
  -- Neither dropping late orders nor completing runs touches it.
  unfold beforeTick
  simp only
  split_ifs
  · exact ⟨rfl, rfl⟩
  · exact ⟨(maybeComplete_register _ _).trans (dropLateOrders_register _ _ _), rfl⟩

/-- Before a tick the events that are due by then are taken. -/
theorem beforeTick_schedule (tick now : Int) :
    (coordinator.beforeTick random tick now).1.schedule =
      ((coordinator.source.dueEvents (now - coordinator.startedMs)).1, coordinator.startedMs,
        coordinator.tickIntervalMs, coordinator.planner.tickIntervalMs) :=
  (congrArg Prod.fst (beforeTick_register random coordinator tick now).1).trans
    (applyDue_schedule random _ _)

/-- No other call takes an event. -/
theorem call_schedule (request : CoordinatorCall) :
    (coordinator.call random request).1.schedule =
      match request with
      | .beforeTick _ now => ((coordinator.source.dueEvents (now - coordinator.startedMs)).1,
          coordinator.startedMs, coordinator.tickIntervalMs, coordinator.planner.tickIntervalMs)
      | _ => coordinator.schedule := by
  -- Events are taken from the schedule before a tick, and at no other time.
  cases request with
  | beforeTick tick now => exact beforeTick_schedule random coordinator tick now
  | marketEvent event tick => exact applyMarketEvent_schedule random coordinator _ _ _ _ _ _ _
  | nextIntents userId tick snapshot =>
    exact congrArg Prod.fst (coordinator.nextIntents_register userId tick snapshot)
  | afterSubmit intent submitted tick now =>
    exact congrArg Prod.fst (coordinator.afterSubmit_register intent submitted tick now)

end Schedule

section Settings

variable {G : Type} (random : RandomSource G) (coordinator : EventCoordinator)

/-- The settings of the traders, by their users. -/
def settingsOf (userId : String) : Option TraderSettings :=
  (coordinator.traders.get? userId).map EventReactiveTrader.settings

/-- What a trader becomes has its settings. -/
theorem settingsOf_set {userId : String} {trader later : EventReactiveTrader}
    (found : coordinator.traders.get? userId = some trader)
    (same : later.settings = trader.settings) :
    { coordinator with traders := coordinator.traders.set userId later }.settingsOf =
      coordinator.settingsOf := by
  funext other
  simp only [settingsOf, Dict.get?_set]
  -- The trader is stored with the same settings, and the others are left alone.
  split_ifs with own
  · rw [own, found, Option.map_some, Option.map_some, same]
  · rfl

/-- The settings of the traders are not changed by the plans that they are handed. -/
theorem assignPlans_settings (eventId : CodePoints) (reactions : List ResolvedReactionPlan) :
    (assignPlans eventId coordinator reactions).1.settingsOf = coordinator.settingsOf := by
  induction reactions generalizing coordinator with
  | nil => rfl
  | cons reaction others ih =>
    -- Giving up a previous event touches the runs alone, as does an activation.
    have abandoned : ∀ trader userId,
        (coordinator.abandonPreviousEvent trader userId).1.traders = coordinator.traders := by
      intro trader userId
      unfold abandonPreviousEvent
      simp only
      split
      · rfl
      · split_ifs <;> rfl
    have activated : ∀ next : EventCoordinator,
        (next.activate eventId reaction).settingsOf = next.settingsOf := by
      intro next
      unfold activate
      split_ifs <;> rfl
    unfold assignPlans
    split
    · exact ih coordinator
    · rename_i trader found
      -- The trader takes its plan over, with the settings it has.
      have given_up := abandoned trader reaction.userId
      simp only
      split
      · unfold settingsOf
        rw [given_up]
      · -- The trader of the first reaction takes its plan up, and keeps its settings.
        rename_i applied taken
        refine (ih _).trans ((activated _).trans ?_)
        rw [settingsOf_set _ (given_up ▸ found) (EventReactiveTrader.applyPlan_ok taken).2.2.1]
        unfold settingsOf
        rw [given_up]

/-- Applying an event leaves the settings of the traders. -/
theorem applyEvent_settings (event : NewsShockEvent) :
    (coordinator.applyEvent random event).1.settingsOf = coordinator.settingsOf := by
  have planned := planOnce_planned random coordinator.planner event coordinator.candidates
  unfold applyEvent
  generalize coordinator.planner.planOnce random event coordinator.candidates = outcome at planned ⊢
  obtain ⟨planner, result⟩ := outcome
  cases planned with
  | refused known other => rfl
  | repeated known => rfl
  | failed fresh raised => rfl
  -- A run is opened beside the traders, and the plans are handed out.
  | resolved fresh made => exact assignPlans_settings _ _ _

/-- Applying due events leaves the settings of the traders. -/
theorem applyDue_settings (events : List NewsShockEvent) :
    (coordinator.applyDue random events).1.settingsOf = coordinator.settingsOf := by
  -- The events are applied one by one, until one of them fails.
  induction events generalizing coordinator with
  | nil => rfl
  | cons event later ih =>
    have first := coordinator.applyEvent_settings random event
    unfold applyDue
    generalize coordinator.applyEvent random event = applied at first ⊢
    obtain ⟨next, outcome⟩ := applied
    cases outcome with
    | error error => exact first
    | ok applied => exact (ih next).trans first

/-- The events that are due before a tick do not change the settings either. -/
theorem applied_settings (now : Int) :
    (coordinator.applied random now).1.settingsOf = coordinator.settingsOf :=
  applyDue_settings random _ _

/-- Applying a market event leaves the settings of the traders. -/
theorem applyMarketEvent_settings (eventId : CodePoints)
    (symbol direction impact label source : String) (tick : Int) :
    (coordinator.applyMarketEvent random eventId symbol direction impact label source
      tick).1.settingsOf = coordinator.settingsOf := by
  -- The event is new, or it is known, or it is refused.
  rcases applyMarketEvent_cases random coordinator eventId symbol direction impact label source tick
    with ⟨created, _, _, applied⟩ | ⟨existing, _, applied⟩ | ⟨error, _, refused⟩
  · rw [applied]
    exact applyEvent_settings random _ created
  · rw [applied]
    exact applyEvent_settings random coordinator existing
  · rw [refused]

/-- Traders that drop late orders keep their settings. -/
theorem dropLateOrders_settings (elapsedMs tick : Int) :
    (coordinator.dropLateOrders elapsedMs tick).settingsOf = coordinator.settingsOf := by
  -- Dropping for one trader keeps the settings of all.
  have one : ∀ (next : EventCoordinator) (userId : String),
      (dropLateOrdersOf elapsedMs tick next userId).settingsOf = next.settingsOf := by
    intro next userId
    unfold dropLateOrdersOf
    split
    · rename_i trader eventId found assigned
      have kept := fun schedulerMs lag => settingsOf_set next found
        (trader.dropLateOrders_spec schedulerMs next.tickIntervalMs lag).1
      simp only
      split_ifs
      · exact kept _ _
      · exact kept _ _
      · exact kept _ _
      · exact kept _ _
    · rfl
  exact Machine.foldl_keeps one _ coordinator

/-- No call changes the settings of the traders. -/
theorem call_settings (request : CoordinatorCall) :
    (coordinator.call random request).1.settingsOf = coordinator.settingsOf := by
  cases request with
  | beforeTick tick now =>
    show (coordinator.beforeTick random tick now).1.settingsOf = _
    have events := (coordinator.applied random now).1.dropLateOrders_settings
      (now - coordinator.startedMs) tick
    have due := applied_settings random coordinator now
    -- Completing a run concerns no trader.
    have completed := fun (next : EventCoordinator) (eventIds : List CodePoints) =>
      Machine.foldl_keeps (fun (next : EventCoordinator) eventId =>
        (rfl : (next.maybeComplete eventId).settingsOf = next.settingsOf)) eventIds next
    unfold beforeTick
    simp only
    split_ifs
    · exact due
    · exact (completed _ _).trans (events.trans due)
  | marketEvent event tick => exact applyMarketEvent_settings random coordinator _ _ _ _ _ _ _
  -- The trader is stored again with its own settings.
  | nextIntents userId tick snapshot =>
    show (coordinator.nextIntents userId tick snapshot).1.settingsOf = _
    unfold nextIntents
    split
    · rfl
    · rename_i trader found
      exact settingsOf_set coordinator found (trader.nextIntents_spec tick snapshot).1
  | afterSubmit intent submitted tick now =>
    show (coordinator.afterSubmit intent submitted tick now).settingsOf = _
    unfold afterSubmit
    split
    · rfl
    · split_ifs <;> rfl

end Settings

section Attempts

variable {G : Type} (random : RandomSource G)

/-- The scheduled events that a call applies, each with what becomes of it. -/
def attempt (coordinator : EventCoordinator) (request : CoordinatorCall) :
    EventCoordinator × List (NewsShockEvent × Except ValueError Applied) :=
  let (next, reply) := coordinator.call random request
  (next, match request with
    | .beforeTick _ now =>
      (coordinator.source.dueEvents (now - coordinator.startedMs)).2.zip reply.outcomes
    | _ => [])

/-- The scheduled events that are applied in a number of calls, call by call. -/
def attempts (coordinator : EventCoordinator) (calls : List CoordinatorCall) :
    List (List (NewsShockEvent × Except ValueError Applied)) :=
  (Machine.runTotal (attempt random) coordinator calls).2

/-- Whether the time of an event has come in a call before a tick. -/
def reaches (startedMs : Int) (event : NewsShockEvent) : CoordinatorCall → Bool
  | .beforeTick _ now => event.startsAfterMs ≤ now - startedMs
  | _ => false

/-- What all traders would be as candidates, whether they have something left to do or not. -/
def allCandidates (coordinator : EventCoordinator) : List ReactionCandidate :=
  coordinator.traders.items.map fun item => item.2.reactionCandidate

/-- Whether the planner knows another event under the id of this one, or cannot make its seeds. -/
def unplannable (coordinator : EventCoordinator) (event : NewsShockEvent) : Bool :=
  coordinator.conflicts event ∨ ¬ event.Seedable coordinator.allCandidates

/-- Whether no event is due after one that cannot be planned. -/
def unplannableLast (coordinator : EventCoordinator) : CoordinatorCall → Bool
  | .beforeTick _ now =>
    (coordinator.source.dueEvents (now - coordinator.startedMs)).2.dropLast.all fun event =>
      ¬ coordinator.unplannable event
  | _ => true

end Attempts

section Applied

variable {G : Type} {random : RandomSource G} {held : Holdings} {coordinator : EventCoordinator}

/-- The planner's memory is changed under the id of the applied event only. -/
theorem applyEvent_processed (ok : Coordinated held coordinator) {event other : NewsShockEvent}
    (differs : other.eventId ≠ event.eventId) :
    (coordinator.applyEvent random event).1.planner.processedEvents.get? other.eventId =
      coordinator.planner.processedEvents.get? other.eventId := by
  have applied := applyEvent_applied random ok event
  generalize coordinator.applyEvent random event = outcome at applied ⊢
  obtain ⟨next, result⟩ := outcome
  cases applied with
  | failed other => rfl
  | deduplicated known => rfl
  -- The planner notes the event itself and no other one.
  | planned about fresh coordinated balanced processed live untouched =>
    simp only at processed ⊢
    rw [processed, Dict.get?_set, if_neg differs]

/-- Applying an event makes no conflict for an event with another id. -/
theorem applyEvent_conflicts (ok : Coordinated held coordinator) {event other : NewsShockEvent}
    (differs : other.eventId ≠ event.eventId) :
    (coordinator.applyEvent random event).1.conflicts other = coordinator.conflicts other := by
  unfold conflicts
  rw [applyEvent_processed ok differs]

/-- A candidate is what some trader would be as one. -/
theorem mem_allCandidates {candidate : ReactionCandidate} :
    candidate ∈ coordinator.allCandidates ↔ ∃ userId trader,
      coordinator.traders.get? userId = some trader ∧ trader.reactionCandidate = candidate := by
  -- A trader is found under its user exactly if it is one of the items.
  unfold allCandidates
  rw [List.mem_map]
  constructor
  · rintro ⟨⟨userId, trader⟩, member, rfl⟩
    exact ⟨userId, trader, Dict.get?_eq_some_iff.mpr member, rfl⟩
  · rintro ⟨userId, trader, found, rfl⟩
    exact ⟨(userId, trader), Dict.get?_eq_some_iff.mp found, rfl⟩

/-- Whether the seeds can be made for all traders depends on their settings only. -/
theorem seedable_congr {next : EventCoordinator} (same : next.settingsOf = coordinator.settingsOf)
    {event : NewsShockEvent} (seedable : event.Seedable coordinator.allCandidates) :
    event.Seedable next.allCandidates := by
  refine ⟨seedable.1, seedable.2, fun candidate member => ?_⟩
  -- Each trader has the settings that it had before.
  obtain ⟨userId, later, found, rfl⟩ := mem_allCandidates.mp member
  have alike := congrFun same userId
  rw [settingsOf, settingsOf, found, Option.map_some, eq_comm, Option.map_eq_some_iff] at alike
  obtain ⟨trader, stored, own⟩ := alike
  have candidates : later.reactionCandidate = trader.reactionCandidate := by
    unfold EventReactiveTrader.reactionCandidate
    simp only [own]
  exact candidates ▸ seedable.3 _ (mem_allCandidates.mpr ⟨userId, trader, stored, rfl⟩)

/-- Seeds that can be made for all traders can be made for the candidates. -/
theorem seedable_candidates {event : NewsShockEvent}
    (seedable : event.Seedable coordinator.allCandidates) :
    event.Seedable coordinator.candidates := by
  refine ⟨seedable.1, seedable.2, fun candidate member => ?_⟩
  obtain ⟨trader, idle, rfl⟩ := List.mem_map.mp member
  obtain ⟨item, stored, rfl⟩ := List.mem_map.mp (List.mem_filter.mp idle).1
  exact seedable.3 _ (List.mem_map.mpr ⟨item, stored, rfl⟩)

/-- An event that can be planned is not refused. -/
theorem refuses_of_plannable {event : NewsShockEvent}
    (plannable : coordinator.unplannable event = false) : coordinator.refuses event = false := by
  -- The seeds of some of the traders can be made if those of all can.
  unfold unplannable at plannable
  unfold refuses
  rw [decide_eq_false_iff_not, not_or] at plannable ⊢
  rw [not_not] at plannable
  exact ⟨plannable.1, fun ⟨_, unseeded⟩ => unseeded (seedable_candidates plannable.2)⟩

/-- Applying an event keeps the events with other ids from becoming impossible to plan. -/
theorem applyEvent_plannable (ok : Coordinated held coordinator) {event other : NewsShockEvent}
    (differs : other.eventId ≠ event.eventId)
    (plannable : coordinator.unplannable other = false) :
    (coordinator.applyEvent random event).1.unplannable other = false := by
  unfold unplannable at plannable ⊢
  rw [decide_eq_false_iff_not, not_or, not_not] at plannable ⊢
  rw [applyEvent_conflicts ok differs]
  exact ⟨plannable.1, seedable_congr (applyEvent_settings random coordinator event) plannable.2⟩

/-- All due events are applied when each but the last one can be planned. -/
theorem applyDue_length (sound : random.Sound) (events : List NewsShockEvent) :
    ∀ {held : Holdings} {coordinator : EventCoordinator}, Coordinated held coordinator →
      (events.map NewsShockEvent.eventId).Nodup →
      (∀ event ∈ events.dropLast, coordinator.unplannable event = false) →
      (coordinator.applyDue random events).2.length = events.length := by
  induction events with
  | nil => exact fun _ _ _ => rfl
  | cons event later ih =>
    intro held coordinator ok distinct clear
    -- An event fails exactly when it is refused, and only the last one may be.
    have raises := applyEvent_raises_iff sound ok event
    have handled := (applyEvent_applied random ok event).handled ok
    have same : ∀ other, other.eventId ≠ event.eventId →
        coordinator.unplannable other = false →
          (coordinator.applyEvent random event).1.unplannable other = false :=
      fun other differs => applyEvent_plannable ok differs
    unfold applyDue
    generalize coordinator.applyEvent random event = applied at raises handled same ⊢
    obtain ⟨next, outcome⟩ := applied
    rw [List.map_cons, List.nodup_cons] at distinct
    cases later with
    -- A last event is applied, and it does not matter whether it fails.
    | nil => cases outcome <;> rfl
    | cons second rest =>
      rw [List.dropLast_cons_cons] at clear
      cases outcome with
      | error error =>
        -- The event can be planned, and so it does not fail.
        have refused := raises.mp ⟨error, rfl⟩
        rw [refuses_of_plannable (clear event List.mem_cons_self)] at refused
        cases refused
      | ok applied =>
        -- What could be planned still can, since the later events have other ids.
        refine congrArg Nat.succ (ih handled.coordinated distinct.2 fun other inside => ?_)
        refine same other (fun named => distinct.1 ?_) (clear other (List.mem_cons_of_mem _ inside))
        exact named ▸ List.mem_map_of_mem (List.mem_of_mem_dropLast inside)

/-- What one call does with a scheduled event. -/
theorem attempt_spec (sound : random.Sound) (ok : Coordinated held coordinator)
    (timetable : coordinator.source.Timetable) (request : CoordinatorCall)
    (last : coordinator.unplannableLast request = true) (event : NewsShockEvent) :
    if event ∈ coordinator.source.pending ∧ reaches coordinator.startedMs event request = true then
      (∃ outcome, (coordinator.attempt random request).2.filter (fun made => made.1 = event) =
        [(event, outcome)]) ∧ event ∉ (coordinator.attempt random request).1.source.pending
    else
      (coordinator.attempt random request).2.filter (fun made => made.1 = event) = [] ∧
      (event ∈ (coordinator.attempt random request).1.source.pending ↔
        event ∈ coordinator.source.pending) := by
  -- Only a call before a tick takes anything.
  have scheduled : (coordinator.attempt random request).1.source = _ :=
    congrArg Prod.fst (call_schedule random coordinator request)
  rw [scheduled]
  cases request with
  | beforeTick tick now =>
    let elapsedMs := now - coordinator.startedMs
    -- The time of an event has come exactly when it is taken.
    have due : event ∈ (coordinator.source.dueEvents elapsedMs).2 ↔ _ :=
      timetable.ordered.mem_dueEvents
    have taken : event ∈ (coordinator.source.dueEvents elapsedMs).2 ↔
        event ∈ coordinator.source.pending ∧
          reaches coordinator.startedMs event (.beforeTick tick now) = true := by
      rw [due, reaches, decide_eq_true_eq]
    have split := coordinator.source.dueEvents_append elapsedMs
    have distinct := timetable.distinct
    rw [← split, List.map_append] at distinct
    -- The coordinator is as it was, but for its schedule.
    have known : Coordinated held { coordinator with
        source := (coordinator.source.dueEvents elapsedMs).1 } :=
      ⟨ok.named, ok.follows, ok.assigned, ok.listed, ok.lagged⟩
    have lengths := applyDue_length sound _ known distinct.of_append_left fun other inside =>
      Bool.not_eq_true _ ▸ of_decide_eq_true (List.all_eq_true.mp last other inside)
    change (coordinator.applied random now).2.length = _ at lengths
    rw [← (beforeTick_register random coordinator tick now).2] at lengths
    split_ifs with reached
    · rw [← taken] at reached
      -- The event is taken and stands once among the due ones.
      exact ⟨zip_filter_mem distinct.of_append_left.of_map lengths reached,
        fun left => absurd (due.mp reached).2
          (Int.not_le.mpr (timetable.ordered.mem_pending left).2)⟩
    · rw [← taken] at reached
      -- Only due events are applied, and what is not due is left.
      refine ⟨List.filter_eq_nil_iff.mpr fun pair inside paired =>
        reached (of_decide_eq_true paired ▸ (List.of_mem_zip inside).1), ?_⟩
      rw [← split, List.mem_append]
      exact (or_iff_right reached).symm
  | marketEvent other tick =>
    rw [if_neg (by simp [reaches])]
    exact ⟨rfl, Iff.rfl⟩
  | nextIntents userId tick snapshot =>
    rw [if_neg (by simp [reaches])]
    exact ⟨rfl, Iff.rfl⟩
  | afterSubmit intent submitted tick now =>
    rw [if_neg (by simp [reaches])]
    exact ⟨rfl, Iff.rfl⟩

/-- A call leaves a timetable, and the time of the start. -/
theorem attempt_timetable (random : RandomSource G) (timetable : coordinator.source.Timetable)
    (request : CoordinatorCall) :
    (coordinator.attempt random request).1.source.Timetable ∧
      (coordinator.attempt random request).1.startedMs = coordinator.startedMs := by
  have scheduled := call_schedule random coordinator request
  have source : (coordinator.attempt random request).1.source = _ := congrArg Prod.fst scheduled
  have started : (coordinator.attempt random request).1.startedMs = _ :=
    congrArg (Prod.fst ∘ Prod.snd) scheduled
  rw [source, started]
  -- Only the tick moves the cursor of the source.
  cases request with
  | beforeTick tick now => exact ⟨timetable.dueEvents _, rfl⟩
  | marketEvent event tick => exact ⟨timetable, rfl⟩
  | nextIntents userId tick snapshot => exact ⟨timetable, rfl⟩
  | afterSubmit intent submitted tick now => exact ⟨timetable, rfl⟩

/-- Each pending event is applied once, in the first call that its time has come in. -/
theorem attempts_once (sound : random.Sound) (calls : List CoordinatorCall) :
    ∀ {held : Holdings} {coordinator : EventCoordinator}, Coordinated held coordinator →
      coordinator.source.Timetable →
      Machine.throughout (callTotal random) unplannableLast coordinator calls = true →
      ∀ event, ∀ index < calls.length,
        ∃ made, (coordinator.attempts random calls)[index]? = some made ∧
          if event ∈ coordinator.source.pending ∧
              calls.findIdx? (reaches coordinator.startedMs event) = some index then
            ∃ outcome, made.filter (fun attempt => attempt.1 = event) = [(event, outcome)]
          else made.filter (fun attempt => attempt.1 = event) = [] := by
  induction calls with
  | nil => exact fun _ _ _ _ index within => absurd within (Nat.not_lt_zero index)
  | cons first later ih =>
    intro held coordinator ok timetable meets event index within
    -- An attempt makes the call and leaves its state.
    have stepped : callTotal random coordinator first =
        .ok ((coordinator.attempt random first).1, (coordinator.call random first).2) := rfl
    obtain ⟨last, meets⟩ := (Machine.throughout_cons stepped).mp meets
    have spec := attempt_spec sound ok timetable first last event
    obtain ⟨next_timetable, started⟩ := attempt_timetable random timetable first
    have called : Coordinated _ (coordinator.attempt random first).1 :=
      (call_called random ok first).coordinated
    have unfolded : coordinator.attempts random (first :: later) =
      (coordinator.attempt random first).2 ::
        (coordinator.attempt random first).1.attempts random later := rfl
    rw [unfolded, List.findIdx?_cons]
    -- The first call does what it does, and later ones do it in the state that it leaves.
    cases index with
    | zero =>
      refine ⟨_, rfl, ?_⟩
      cases reached : reaches coordinator.startedMs event first with
      | true =>
        -- The time has come in the first call.
        simp only [reached, and_true, if_true] at spec ⊢
        split_ifs at spec ⊢
        · exact spec.1
        · exact spec.1
      | false =>
        -- The first call is too early for the event.
        simp only [reached, and_false, Bool.false_eq_true, if_false] at spec ⊢
        rw [if_neg (by simp)]
        exact spec.1
    | succ index =>
      obtain ⟨made, at_index, once⟩ :=
        ih called next_timetable meets event index (Nat.lt_of_succ_lt_succ within)
      refine ⟨made, at_index, ?_⟩
      rw [started] at once
      cases reached : reaches coordinator.startedMs event first with
      | true =>
        -- Whoever was taken by the first call is gone.
        have gone : event ∉ (coordinator.attempt random first).1.source.pending := by
          simp only [reached, and_true] at spec
          split_ifs at spec with waiting
          · exact spec.2
          · exact spec.2.not.mpr waiting
        rw [if_neg fun both => gone both.1] at once
        rw [if_pos rfl, if_neg (by simp)]
        exact once
      | false =>
        -- The event is as pending as before, and waits for a later call.
        simp only [reached, and_false, Bool.false_eq_true, if_false] at spec ⊢
        simp only [spec.2] at once
        simpa using once

/--
Each scheduled event is applied once, in the first call before a tick that its time has come in.

This holds as long as no event is due in one call after another one that cannot be applied. What is
applied is received or deduplicated, unless its own application fails.
-/
theorem scheduled_once (sound : random.Sound) {events : List NewsShockEvent}
    {participants : List TraderSettings} {tickIntervalMs now : Int}
    (distinct : (events.map NewsShockEvent.eventId).Nodup)
    (made : create events participants tickIntervalMs now = .ok coordinator)
    (calls : List CoordinatorCall)
    (meets : Machine.throughout (callTotal random) unplannableLast coordinator calls = true) :
    ∀ event ∈ events, ∀ index < calls.length,
      ∃ applied, (coordinator.attempts random calls)[index]? = some applied ∧
        if calls.findIdx? (reaches now event) = some index then
          ∃ outcome, applied.filter (fun attempt => attempt.1 = event) = [(event, outcome)]
        else applied.filter (fun attempt => attempt.1 = event) = [] := by
  intro event member index within
  -- The events are put in order when the coordinator is made, and none is taken.
  obtain ⟨source, started⟩ : coordinator.source = .create events ∧ coordinator.startedMs = now := by
    obtain ⟨_, made⟩ := passed made
    cases made
    exact ⟨rfl, rfl⟩
  have timetable : coordinator.source.Timetable :=
    source ▸ SyntheticEventSource.create_timetable distinct
  have waiting : event ∈ coordinator.source.pending := by
    rw [source]
    exact (List.mem_insertionSort _).mpr member
  obtain ⟨applied, at_index, once⟩ :=
    attempts_once sound calls (create_coordinated made).1 timetable meets event index within
  rw [started] at once
  simp only [waiting, true_and] at once
  exact ⟨applied, at_index, once⟩

end Applied

end EventCoordinator

/-- Two panics that are due at the same time. -/
def twoPanics : List NewsShockEvent :=
  [panicNews firstId 0 firstNews_present, panicNews newsId 0 news_present]

/-- News that comes before the first tick, under an id that a panic may have as well. -/
def earlyNews (eventId : CodePoints) : CoordinatorCall :=
  .marketEvent ⟨eventId, "005930", "DISCLOSURE", "BUY", 1, "high", "fixture", "up"⟩ 1

/-- The first panic is applied, as only the second one has the id of the news. -/
theorem scheduled_once_twoPanics : ∃ applied,
    ((reactorCoordinator twoPanics).attempts .least [earlyNews newsId, .beforeTick 1 0])[1]? =
      some applied ∧
    ∃ outcome, applied.filter (fun attempt => attempt.1 = panicNews firstId 0 firstNews_present) =
      [(panicNews firstId 0 firstNews_present, outcome)] :=
  have made : EventCoordinator.create twoPanics [reactor] 1000 0 =
    .ok (reactorCoordinator twoPanics) := rfl
  EventCoordinator.scheduled_once least_sound (by decide) made
    [earlyNews newsId, .beforeTick 1 0] (by decide +kernel) _ List.mem_cons_self 1 (by decide)

/-- The second panic is never applied, though it could be. -/
theorem second_panic_lost :
    ((reactorCoordinator twoPanics).attempts .least [earlyNews firstId, .beforeTick 1 0,
      .beforeTick 2 1000]).map (fun applied => applied.map fun attempt =>
        (attempt.1.eventId, attempt.2.toOption.isSome)) = [[], [(firstId, false)], []] ∧
    ((reactorCoordinator twoPanics).reachedBy .least [earlyNews firstId]).refuses
      (panicNews newsId 0 news_present) = false := by
  decide +kernel

end StockMarket
