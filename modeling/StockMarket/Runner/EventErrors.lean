import StockMarket.Runner.CoordinatorCalls

/-! Which events cannot be applied, and what is left of them in the coordinator. -/

namespace StockMarket

namespace EventCoordinator

/-- Whether the planner has processed another event under the id of this one. -/
def conflicts (coordinator : EventCoordinator) (event : NewsShockEvent) : Bool :=
  (coordinator.planner.processedEvents.get? event.eventId).any fun previous => previous ≠ event

/-- Whether an event cannot be applied: by its id another one is known, or its seeds are not made. -/
def refuses (coordinator : EventCoordinator) (event : NewsShockEvent) : Bool :=
  coordinator.conflicts event ∨
    coordinator.planner.processedEvents.get? event.eventId = none ∧
      ¬ event.Seedable coordinator.candidates

/-- The event that a market event is made into, if its arguments pass the checks. -/
def marketEventOf (coordinator : EventCoordinator) (eventId : CodePoints)
    (symbol direction impact label source : String) (tick : Int) : Option NewsShockEvent :=
  if tick < 1 then none
  else do
    let directionHint ← directionHints.lookup direction
    let preset ← presetByImpact.lookup impact
    (NewsShockEvent.create eventId symbol (tick * coordinator.tickIntervalMs) preset directionHint
      label source 42).toOption

/-- Whether a valid market event comes under a new id, and cannot be applied. -/
def recordsRefused (coordinator : EventCoordinator) (eventId : CodePoints)
    (symbol direction impact label source : String) (tick : Int) : Bool :=
  (coordinator.liveEvents.get? eventId).isNone &&
    (coordinator.marketEventOf eventId symbol direction impact label source tick).any
      coordinator.refuses

section Errors

variable {G : Type} {random : RandomSource G} {held : Holdings} {coordinator : EventCoordinator}

/-- The candidates have distinct users, since each trader is stored under its own. -/
theorem candidates_unique (ok : Coordinated held coordinator) :
    (coordinator.candidates.map ReactionCandidate.userId).Nodup := by
  -- The traders are kept under their own users, which are distinct keys.
  have users : (coordinator.traders.items.map Prod.snd).map EventReactiveTrader.userId =
      coordinator.traders.keys := by
    rw [List.map_map, Dict.keys]
    refine List.map_congr_left fun item member => ?_
    exact ok.named (Dict.get?_eq_some_iff.mpr member)
  have distinct := coordinator.traders.keys_nodup
  rw [← users] at distinct
  unfold candidates
  rw [List.map_map]
  exact distinct.sublist (List.filter_sublist.map _)

/-- An event that cannot be applied leaves the coordinator as it was. -/
theorem applyEvent_error (ok : Coordinated held coordinator) {event : NewsShockEvent}
    {error : ValueError} (raised : (coordinator.applyEvent random event).2 = .error error) :
    (coordinator.applyEvent random event).1 = coordinator := by
  -- Of the three outcomes, only a failure raises.
  have applied := applyEvent_applied random ok event
  generalize coordinator.applyEvent random event = outcome at applied raised ⊢
  obtain ⟨next, result⟩ := outcome
  cases applied with
  | failed other => rfl
  | deduplicated known => cases raised
  | planned about fresh coordinated balanced processed live untouched => cases raised

/--
An event cannot be applied exactly when the planner knows another one under its id, or knows none
and cannot make the seeds.
-/
theorem applyEvent_raises_iff (sound : random.Sound) (ok : Coordinated held coordinator)
    (event : NewsShockEvent) :
    (∃ error, (coordinator.applyEvent random event).2 = .error error) ↔
      coordinator.refuses event = true := by
  have planned := planOnce_planned random coordinator.planner event coordinator.candidates
  unfold refuses conflicts
  rw [decide_eq_true_eq]
  unfold applyEvent
  generalize coordinator.planner.planOnce random event coordinator.candidates = outcome
    at planned ⊢
  obtain ⟨planner, result⟩ := outcome
  cases planned with
  | refused known other =>
    rw [known]
    exact iff_of_true ⟨_, rfl⟩ (.inl (decide_eq_true other))
  | repeated known =>
    rw [known]
    refine iff_of_false ?_ ?_
    · rintro ⟨_, raised⟩
      cases raised
    · rintro (differs | ⟨absent, _⟩)
      · exact of_decide_eq_true differs rfl
      · cases absent
  | failed fresh raised =>
    -- An event with seeds is always resolved for candidates with distinct users.
    refine iff_of_true ⟨_, rfl⟩ (.inr ⟨fresh, fun seedable => ?_⟩)
    obtain ⟨plan, resolved, _⟩ :=
      resolve_spec sound coordinator.planner.tickIntervalMs_pos event (candidates_unique ok) seedable
    rw [resolved] at raised
    cases raised
  | resolved fresh made =>
    -- The planner has noted the event, and the traders are as they were.
    have known : Coordinated held { coordinator with
        planner := { coordinator.planner with
          processedEvents := coordinator.planner.processedEvents.set event.eventId event } } :=
      ⟨ok.named, ok.follows, ok.assigned, ok.listed, ok.lagged⟩
    obtain ⟨_, none_dropped, _⟩ :=
      assignPlans_candidates known (resolve_ok made).2 event.eventId
    rw [fresh]
    refine iff_of_false ?_ ?_
    · simp only at none_dropped ⊢
      rw [none_dropped]
      rintro ⟨_, raised⟩
      cases raised
    · rintro (differs | ⟨_, unseeded⟩)
      · exact Bool.false_ne_true differs
      · exact unseeded (RandomSource.seedable_of_resolve made)

/-- A market event is recorded and applied, applied as it is known, or refused by a check. -/
theorem applyMarketEvent_cases (random : RandomSource G) (coordinator : EventCoordinator)
    (eventId : CodePoints) (symbol direction impact label source : String) (tick : Int) :
    (∃ created, coordinator.liveEvents.get? eventId = none ∧
      coordinator.marketEventOf eventId symbol direction impact label source tick = some created ∧
      coordinator.applyMarketEvent random eventId symbol direction impact label source tick =
        { coordinator with
          liveEvents := coordinator.liveEvents.set eventId created
          liveEventIds := insert eventId coordinator.liveEventIds }.applyEvent random created) ∨
    (∃ existing, coordinator.liveEvents.get? eventId = some existing ∧
      coordinator.applyMarketEvent random eventId symbol direction impact label source tick =
        coordinator.applyEvent random existing) ∨
    ∃ error, ((coordinator.liveEvents.get? eventId).isSome = true ∨
        coordinator.marketEventOf eventId symbol direction impact label source tick = none) ∧
      coordinator.applyMarketEvent random eventId symbol direction impact label source tick =
        (coordinator, .error error) := by
  unfold marketEventOf applyMarketEvent
  -- The checks come in the order of the code: the tick, the direction, the impact.
  by_cases early : tick < 1
  · rw [if_pos early, if_pos early]
    exact .inr (.inr ⟨_, .inr rfl, rfl⟩)
  · rw [if_neg early, if_neg early]
    cases hinted : directionHints.lookup direction with
    | none => exact .inr (.inr ⟨_, .inr rfl, rfl⟩)
    | some directionHint =>
      cases chosen : presetByImpact.lookup impact with
      | none => exact .inr (.inr ⟨_, .inr rfl, rfl⟩)
      | some preset =>
        simp only [Option.bind_eq_bind, Option.bind_some]
        cases found : coordinator.liveEvents.get? eventId with
        | some existing =>
          -- A known identifier must come with the same payload.
          by_cases same : samePayload existing symbol preset directionHint label source = true
          · exact .inr (.inl ⟨existing, rfl, if_neg (not_not_intro same)⟩)
          · exact .inr (.inr ⟨_, .inl rfl, if_pos same⟩)
        | none =>
          cases constructed : NewsShockEvent.create eventId symbol
              (tick * coordinator.tickIntervalMs) preset directionHint label source 42 with
          | error error => exact .inr (.inr ⟨error, .inr rfl, rfl⟩)
          | ok created => exact .inl ⟨created, rfl, rfl, rfl⟩

/--
A market event that cannot be applied leaves the coordinator as it was, with one exception.

The exception is a valid event under a new id that the planner refuses, because it has processed
another event under that id or cannot make the seeds: it is recorded before that.
-/
theorem marketEvent_atomic_iff (sound : random.Sound) {events : List NewsShockEvent}
    {participants : List TraderSettings} {tickIntervalMs now : Int}
    (made : create events participants tickIntervalMs now = .ok coordinator)
    (calls : List CoordinatorCall) (eventId : CodePoints)
    (symbol direction impact label source : String) (tick : Int) :
    ((∃ error, ((coordinator.reachedBy random calls).applyMarketEvent random eventId symbol
        direction impact label source tick).2 = .error error) →
      ((coordinator.reachedBy random calls).applyMarketEvent random eventId symbol direction
        impact label source tick).1 = coordinator.reachedBy random calls) ↔
      (coordinator.reachedBy random calls).recordsRefused eventId symbol direction impact label
        source tick = false := by
  have ok := (run_called random calls (create_coordinated made).1).1
  change Coordinated _ (coordinator.reachedBy random calls) at ok
  generalize coordinator.reachedBy random calls = reached at ok ⊢
  unfold recordsRefused
  rcases applyMarketEvent_cases random reached eventId symbol direction impact label source tick with
    ⟨event, fresh, created, applied⟩ | ⟨existing, live, applied⟩ | ⟨error, known, refused⟩
  · rw [applied, fresh, created, Option.isNone_none, Bool.true_and, Option.any_some]
    have recorded := ok.receive eventId event
    have raises := applyEvent_raises_iff sound recorded event
    change _ ↔ reached.refuses event = true at raises
    cases refused : reached.refuses event with
    | false =>
      refine iff_of_true (fun raised => ?_) rfl
      exact absurd (refused.symm.trans (raises.mp raised)) Bool.false_ne_true
    -- The planner refuses the event, which the live tables already hold.
    | true =>
      refine iff_of_false (fun unchanged => ?_) (Ne.symm Bool.false_ne_true)
      obtain ⟨error, raised⟩ := raises.mpr refused
      -- The event is live afterwards, and was not before.
      have same := (applyEvent_error recorded raised).symm.trans (unchanged ⟨error, raised⟩)
      have live := congrArg (fun state => state.liveEvents.get? eventId) same
      simp only [Dict.get?_set, if_true, fresh] at live
      cases live
  · rw [applied, live]
    refine iff_of_true ?_ rfl
    rintro ⟨error, raised⟩
    exact applyEvent_error ok raised
  · rw [refused]
    refine iff_of_true (fun _ => rfl) ?_
    rcases known with live | unmade
    · rw [Option.isNone_eq_false_iff.mpr live, Bool.false_and]
    · rw [unmade, Option.any_none, Bool.and_false]

end Errors

end EventCoordinator

/-- The id by which news comes twice. -/
def newsId : CodePoints := codePoints "news"

/-- The id of the news is not blank. -/
theorem news_present : newsId.isBlank = false := by decide

/-- A coordinator that has applied a scheduled panic, under the id by which news comes later. -/
def panicked : EventCoordinator :=
  (reactorCoordinator [panicNews newsId 0 news_present]).reachedBy .least [.beforeTick 1 0]

/-- News with an unknown direction is refused without any trace. -/
theorem marketEvent_atomic_other :
    (panicked.applyMarketEvent .least (codePoints "other") "005930" "UP" "high" "" "fixture" 1).2 =
        .error ⟨"market event direction is invalid"⟩ ∧
      (panicked.applyMarketEvent .least (codePoints "other") "005930" "UP" "high" "" "fixture" 1).1 =
        panicked := by
  have made : EventCoordinator.create [panicNews newsId 0 news_present] [reactor] 1000 0 =
      .ok (reactorCoordinator [panicNews newsId 0 news_present]) := rfl
  have refused :
      (panicked.applyMarketEvent .least (codePoints "other") "005930" "UP" "high" "" "fixture" 1).2 =
        .error ⟨"market event direction is invalid"⟩ := rfl
  -- The condition is met, as the direction is not known.
  exact ⟨refused, (EventCoordinator.marketEvent_atomic_iff least_sound made [.beforeTick 1 0]
    (codePoints "other") "005930" "UP" "high" "" "fixture" 1).mpr (by decide +kernel) ⟨_, refused⟩⟩

/-- The refused news changes how many orders of the panic are late. -/
theorem refused_news_remembered :
    (panicked.applyMarketEvent .least newsId "005930" "BUY" "high" "" "fixture" 1).2.toOption.isNone =
      true ∧
    newsId ∉ panicked.liveEventIds ∧
    newsId ∈ (panicked.applyMarketEvent .least newsId "005930" "BUY" "high" "" "fixture"
      1).1.liveEventIds ∧
    (panicked.beforeTick .least 2 10000).1.reactionsDropped = 2 ∧
    ((panicked.applyMarketEvent .least newsId "005930" "BUY" "high" "" "fixture" 1).1.beforeTick
      .least 2 10000).1.reactionsDropped = 1 := by
  decide +kernel

end StockMarket
