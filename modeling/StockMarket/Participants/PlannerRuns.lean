import StockMarket.Library.Machine
import StockMarket.Participants.PlanShape

/-! A planner plans each event once, whatever it is asked for and in whatever order. -/

namespace StockMarket

section Order

variable {G : Type} (source : RandomSource G) (event : NewsShockEvent)
  {first second : List ReactionCandidate}

/-- The eligible candidates are the same in every order of candidates with distinct users. -/
theorem eligible_congr (unique : (first.map ReactionCandidate.userId).Nodup)
    (same : (first.filter fun candidate => candidate.symbol = event.symbol).Perm
      (second.filter fun candidate => candidate.symbol = event.symbol)) :
    event.eligible first = event.eligible second := by
  have total : Std.Total fun first second : ReactionCandidate => first.userId ≤ second.userId :=
    ⟨fun one other => String.le_total one.userId other.userId⟩
  have trans : IsTrans ReactionCandidate fun first second => first.userId ≤ second.userId :=
    ⟨fun one other third => String.le_trans⟩
  have perm : (event.eligible first).Perm (event.eligible second) :=
    ((eligible_perm event first).trans same).trans (eligible_perm event second).symm
  -- Both lists are sorted by users, and no two of their candidates share one.
  refine List.Perm.eq_of_pairwise (fun one other inside inside' less more => ?_)
    (List.pairwise_insertionSort _ _) (List.pairwise_insertionSort _ _) perm
  have users : one.userId = other.userId := String.le_antisymm less more
  exact List.inj_on_of_nodup_map (eligible_unique event unique) inside
    (perm.symm.subset inside') users

/-- Candidates of the same users for the symbol are resolved to the same plan. -/
theorem resolve_congr (tickIntervalMs : Int)
    (unique : (first.map ReactionCandidate.userId).Nodup)
    (unique' : (second.map ReactionCandidate.userId).Nodup)
    (same : (first.filter fun candidate => candidate.symbol = event.symbol).Perm
      (second.filter fun candidate => candidate.symbol = event.symbol)) :
    source.resolve tickIntervalMs event first = source.resolve tickIntervalMs event second := by
  have eligible := eligible_congr event unique same
  unfold NewsShockEvent.eligible at eligible
  unfold RandomSource.resolve
  rw [if_neg (not_not.mpr unique), if_neg (not_not.mpr unique'), eligible]

end Order

namespace ReactionPlanner

variable {G : Type}

/-- A planner that has not planned anything. -/
def fresh (tickIntervalMs : Int) (positive : 1 ≤ tickIntervalMs) : ReactionPlanner :=
  ⟨tickIntervalMs, .empty, positive⟩

/-- A new planner resolves whatever it is asked for. -/
theorem planOnce_fresh (source : RandomSource G) {tickIntervalMs : Int}
    (positive : 1 ≤ tickIntervalMs) (event : NewsShockEvent) (candidates : List ReactionCandidate) :
    ((fresh tickIntervalMs positive).planOnce source event candidates).2 =
      (source.resolve tickIntervalMs event candidates).map some := by
  -- Nothing has been planned yet, so the event is resolved.
  have absent : (fresh tickIntervalMs positive).processedEvents.get? event.eventId = none := rfl
  have timed : (fresh tickIntervalMs positive).tickIntervalMs = tickIntervalMs := rfl
  simp only [planOnce, absent, timed]
  cases source.resolve tickIntervalMs event candidates <;> rfl

/--
The plan of an event depends neither on the order of the candidates nor on those of other symbols.

The digest and the generators are arbitrary, so that two candidates may have one rank.
-/
theorem plan_order_independent (source : RandomSource G) {tickIntervalMs : Int}
    (positive : 1 ≤ tickIntervalMs) (event : NewsShockEvent) (candidates : List ReactionCandidate)
    (unique : (candidates.map ReactionCandidate.userId).Nodup) :
    (∀ shuffled : List ReactionCandidate, shuffled.Perm candidates →
      (fresh tickIntervalMs positive).planOnce source event shuffled =
        (fresh tickIntervalMs positive).planOnce source event candidates) ∧
    ∀ pool : List ReactionCandidate, (pool.map ReactionCandidate.userId).Nodup →
      (pool.filter fun candidate => candidate.symbol = event.symbol).Perm
        (candidates.filter fun candidate => candidate.symbol = event.symbol) →
      (fresh tickIntervalMs positive).planOnce source event pool =
        (fresh tickIntervalMs positive).planOnce source event candidates := by
  have same_plan : ∀ pool : List ReactionCandidate, (pool.map ReactionCandidate.userId).Nodup →
      (pool.filter fun candidate => candidate.symbol = event.symbol).Perm
        (candidates.filter fun candidate => candidate.symbol = event.symbol) →
      (fresh tickIntervalMs positive).planOnce source event pool =
        (fresh tickIntervalMs positive).planOnce source event candidates := by
    -- The plan is resolved from equal plans, so the two answers are the same.
    intro pool unique' same
    have resolved : source.resolve (fresh tickIntervalMs positive).tickIntervalMs event pool =
        source.resolve (fresh tickIntervalMs positive).tickIntervalMs event candidates :=
      resolve_congr source event tickIntervalMs unique' unique same
    unfold planOnce
    rw [resolved]
  refine ⟨fun shuffled perm => same_plan shuffled ?_ (perm.filter _), same_plan⟩
  -- A shuffled list has the same users and the same candidates for the symbol.
  rw [(perm.map _).nodup_iff]
  exact unique

/-- Two traders of the symbol in either order, and a third one of another symbol or without it. -/
theorem plan_order_independent_panic :
    (fresh 1000 (by decide)).planOnce .least (panicNews firstId 500 firstNews_present)
        [bystander, rival, (EventReactiveTrader.dormant reactor).reactionCandidate] =
      (fresh 1000 (by decide)).planOnce .least
        (panicNews firstId 500 firstNews_present)
        [(EventReactiveTrader.dormant reactor).reactionCandidate, rival, bystander] ∧
    (fresh 1000 (by decide)).planOnce .least (panicNews firstId 500 firstNews_present)
        [rival, (EventReactiveTrader.dormant reactor).reactionCandidate] =
      (fresh 1000 (by decide)).planOnce .least
        (panicNews firstId 500 firstNews_present)
        [(EventReactiveTrader.dormant reactor).reactionCandidate, rival, bystander] := by
  have positive : (1 : Int) ≤ 1000 := by decide
  have independent := plan_order_independent .least positive
    (panicNews firstId 500 firstNews_present)
    [(EventReactiveTrader.dormant reactor).reactionCandidate, rival, bystander] (by decide)
  -- Both other orders are permutations of the candidates.
  have reversed := List.reverse_perm
    [(EventReactiveTrader.dormant reactor).reactionCandidate, rival, bystander]
  exact ⟨independent.1 _ reversed, independent.2 _ (by decide)
    (List.Perm.swap _ _ _)⟩

/-- An answer of a planner, with the event that it was asked for. -/
structure PlanAnswer where
  event : NewsShockEvent
  result : Except ValueError (Option ResolvedEventPlan)

/-- Ask a planner for an event with some candidates. -/
def ask (source : RandomSource G) (planner : ReactionPlanner)
    (asked : NewsShockEvent × List ReactionCandidate) : ReactionPlanner × PlanAnswer :=
  let (planner, result) := planner.planOnce source asked.1 asked.2
  (planner, ⟨asked.1, result⟩)

/-- The events for which a plan was returned, in order. -/
def planned (answers : List PlanAnswer) : List NewsShockEvent :=
  answers.filterMap fun answer =>
    match answer.result with
    | .ok (some _) => some answer.event
    | _ => none

/-- A planner remembers the events that it has returned plans for, and no others. -/
structure Remembering (tickIntervalMs : Int) (answers : List PlanAnswer)
    (planner : ReactionPlanner) : Prop where
  tickIntervalMs_eq : planner.tickIntervalMs = tickIntervalMs
  known : ∀ event ∈ planned answers, planner.processedEvents.get? event.eventId = some event
  unknown : ∀ eventId, eventId ∉ (planned answers).map NewsShockEvent.eventId →
    planner.processedEvents.get? eventId = none
  distinct : ((planned answers).map NewsShockEvent.eventId).Nodup

section Asking

variable {source : RandomSource G} {tickIntervalMs : Int} {answers : List PlanAnswer}
  {planner : ReactionPlanner}

/-- Events of the first answers are planned first. -/
theorem planned_append (first second : List PlanAnswer) :
    planned (first ++ second) = planned first ++ planned second := List.filterMap_append

/-- One more question keeps the planner's memory right. -/
theorem Remembering.ask (remembering : Remembering tickIntervalMs answers planner)
    (source : RandomSource G) (asked : NewsShockEvent × List ReactionCandidate) :
    Remembering tickIntervalMs (answers ++ [(planner.ask source asked).2])
      (planner.ask source asked).1 := by
  obtain ⟨event, candidates⟩ := asked
  have outcome := planOnce_planned source planner event candidates
  unfold ReactionPlanner.ask
  generalize planner.planOnce source event candidates = answered at outcome
  obtain ⟨next, result⟩ := answered
  -- Without a plan, neither the memory nor the list of planned events changes.
  have unchanged : planned [⟨event, result⟩] = [] → next = planner →
      Remembering tickIntervalMs (answers ++ [⟨event, result⟩]) next := by
    rintro nothing rfl
    have same : planned (answers ++ [⟨event, result⟩]) = planned answers := by
      rw [planned_append, nothing, List.append_nil]
    exact ⟨remembering.tickIntervalMs_eq, same ▸ remembering.known, same ▸ remembering.unknown,
      same ▸ remembering.distinct⟩
  cases outcome with
  | refused known other => exact unchanged rfl rfl
  | repeated known => exact unchanged rfl rfl
  | failed fresh raised => exact unchanged rfl rfl
  -- A plan was made, so the event is remembered and listed.
  | @resolved plan fresh made =>
    have more : planned (answers ++ [⟨event, .ok (some plan)⟩]) = planned answers ++ [event] :=
      planned_append _ _
    have new : event.eventId ∉ (planned answers).map NewsShockEvent.eventId := by
      intro member
      obtain ⟨earlier, inside, same⟩ := List.mem_map.mp member
      rw [← same, remembering.known earlier inside] at fresh
      cases fresh
    refine ⟨remembering.tickIntervalMs_eq, ?_, ?_, ?_⟩
    · -- Known events keep their entries, as the new one has another id.
      rw [more]
      intro earlier inside
      rw [Dict.get?_set]
      rcases List.mem_append.mp inside with before | now
      · have differs : earlier.eventId ≠ event.eventId :=
          fun same => new (same ▸ List.mem_map_of_mem before)
        rw [if_neg differs]
        exact remembering.known earlier before
      · rw [List.mem_singleton.mp now, if_pos rfl]
    · -- An id that is not listed now was not listed before.
      rw [more, List.map_append]
      intro eventId absent
      rw [List.mem_append, not_or] at absent
      have differs : eventId ≠ event.eventId := fun same => absent.2 (by simp [same])
      rw [Dict.get?_set, if_neg differs]
      exact remembering.unknown eventId absent.1
    · -- The new id is added once.
      rw [more, List.map_append]
      exact List.nodup_append'.mpr ⟨remembering.distinct, List.nodup_singleton _,
        fun eventId before now => new (List.mem_singleton.mp now ▸ before)⟩

/-- After a plan, the same event gives nothing and another one under its id is refused. -/
theorem Remembering.after (remembering : Remembering tickIntervalMs answers planner)
    (source : RandomSource G) {first : NewsShockEvent} (member : first ∈ planned answers)
    {event : NewsShockEvent} (same_id : event.eventId = first.eventId)
    (candidates : List ReactionCandidate) : planner.planOnce source event candidates =
      (planner, if event = first then .ok none
        else .error ⟨"event_id was already used with a different payload"⟩) := by
  rw [planOnce, same_id, remembering.known first member]
  -- The stored event is compared with the one that is asked for.
  by_cases same : event = first
  · rw [if_pos same]
    simp [same]
  · rw [if_neg same]
    simp [Ne.symm same]

/-- Before a plan, the planner answers like a new one. -/
theorem Remembering.before (remembering : Remembering tickIntervalMs answers planner)
    (source : RandomSource G) (positive : 1 ≤ tickIntervalMs) {event : NewsShockEvent}
    (absent : event.eventId ∉ (planned answers).map NewsShockEvent.eventId)
    (candidates : List ReactionCandidate) : (planner.planOnce source event candidates).2 =
      ((fresh tickIntervalMs positive).planOnce source event candidates).2 := by
  rw [planOnce_fresh, planOnce, remembering.unknown _ absent]
  simp only [remembering.tickIntervalMs_eq]
  cases source.resolve tickIntervalMs event candidates <;> rfl

/-- An error leaves the planner as it was. -/
theorem planOnce_error {event : NewsShockEvent} {candidates : List ReactionCandidate}
    {error : ValueError} (raised : (planner.planOnce source event candidates).2 = .error error) :
    (planner.planOnce source event candidates).1 = planner := by
  -- Only refusals and failures are errors, and both keep the planner.
  have outcome := planOnce_planned source planner event candidates
  rw [raised] at outcome
  generalize (planner.planOnce source event candidates).1 = next at outcome
  cases outcome with
  | refused known other => rfl
  | failed fresh raised => rfl

/--
Whatever a new planner has been asked for, it has returned at most one plan for each id. An event
whose id has a plan is then answered by nothing or by an error, and changes nothing. Any other event
is answered as by a new planner, with a plan when the candidates are valid and the seeds can be made;
errors change nothing.
-/
theorem planned_once (sound : source.Sound) (positive : 1 ≤ tickIntervalMs)
    (asked : List (NewsShockEvent × List ReactionCandidate)) :
    ∃ planner answers,
      Machine.runTotal (ReactionPlanner.ask source) (fresh tickIntervalMs positive) asked =
        (planner, answers) ∧
      ((planned answers).map NewsShockEvent.eventId).Nodup ∧
      ∀ event candidates,
        (∀ first ∈ planned answers, event.eventId = first.eventId →
          planner.planOnce source event candidates =
            (planner, if event = first then .ok none
              else .error ⟨"event_id was already used with a different payload"⟩)) ∧
        (event.eventId ∉ (planned answers).map NewsShockEvent.eventId →
          (planner.planOnce source event candidates).2 =
            ((fresh tickIntervalMs positive).planOnce source event candidates).2 ∧
          ((∃ plan, (planner.planOnce source event candidates).2 = .ok (some plan)) ↔
            (candidates.map ReactionCandidate.userId).Nodup ∧ event.Seedable candidates)) ∧
        ∀ error, (planner.planOnce source event candidates).2 = .error error →
          (planner.planOnce source event candidates).1 = planner := by
  -- Nothing has been planned at the start, and every question keeps the memory right.
  have start : Remembering tickIntervalMs [] (fresh tickIntervalMs positive) :=
    ⟨rfl, fun _ member => absurd member List.not_mem_nil, fun _ _ => rfl, List.nodup_nil⟩
  have remembering := Machine.runTotal_history (Remembering tickIntervalMs)
    (fun _ _ question held => held.ask source question) asked [] _ start
  rw [List.nil_append] at remembering
  refine ⟨_, _, rfl, remembering.distinct, fun event candidates => ⟨?_, ?_, ?_⟩⟩
  · exact fun first member same_id => remembering.after source member same_id candidates
  · -- An unknown id is answered as by a new planner.
    intro absent
    have like_new := remembering.before source positive absent candidates
    refine ⟨like_new, ?_⟩
    rw [like_new, planOnce_fresh]
    constructor
    · -- A resolved plan excludes duplicates among the candidates, and seeds that cannot be made.
      rintro ⟨plan, returned⟩
      obtain ⟨made, resolved, _⟩ := Outcome.map_eq_ok returned
      refine ⟨?_, RandomSource.seedable_of_resolve resolved⟩
      by_contra shared
      rw [RandomSource.resolve_duplicates _ shared] at resolved
      cases resolved
    · rintro ⟨unique, seedable⟩
      obtain ⟨plan, resolved, _⟩ := resolve_spec sound positive event unique seedable
      exact ⟨plan, by rw [resolved]; rfl⟩
  · exact fun error raised => planOnce_error raised

/-- A panic with one candidate twice, which raises, and then with the candidate once. -/
def askedTwice : List (NewsShockEvent × List ReactionCandidate) :=
  let candidate := (EventReactiveTrader.dormant reactor).reactionCandidate
  [(panicNews firstId 500 firstNews_present, [candidate, candidate]),
    (panicNews firstId 500 firstNews_present, [candidate])]

/-- The same event asked twice, and planned once. -/
theorem planned_once_asked_twice : ∃ planner answers,
    Machine.runTotal (ReactionPlanner.ask .least) (fresh 1000 (by decide)) askedTwice =
      (planner, answers) ∧
    ((planned answers).map NewsShockEvent.eventId).Nodup ∧
    ∀ event candidates,
      (∀ first ∈ planned answers, event.eventId = first.eventId →
        planner.planOnce .least event candidates =
          (planner, if event = first then .ok none
            else .error ⟨"event_id was already used with a different payload"⟩)) ∧
      (event.eventId ∉ (planned answers).map NewsShockEvent.eventId →
        (planner.planOnce .least event candidates).2 =
          ((fresh 1000 (by decide)).planOnce .least event candidates).2 ∧
        ((∃ plan, (planner.planOnce .least event candidates).2 = .ok (some plan)) ↔
          (candidates.map ReactionCandidate.userId).Nodup ∧ event.Seedable candidates)) ∧
      ∀ error, (planner.planOnce .least event candidates).2 = .error error →
        (planner.planOnce .least event candidates).1 = planner :=
  planned_once least_sound (by decide) askedTwice

end Asking

end ReactionPlanner

end StockMarket
