import StockMarket.Participants.PlanShape

/-! The reaction of a trader does not depend on who else may react. -/

namespace StockMarket

/-- The reaction of a trader, if the plan has one. -/
def ResolvedEventPlan.reaction? (plan : ResolvedEventPlan) (userId : String) :
    Option ResolvedReactionPlan :=
  plan.reactions.find? fun reaction => reaction.userId = userId

/-- The only reaction of a trader is the one that is found. -/
theorem ResolvedEventPlan.reaction?_eq {plan : ResolvedEventPlan} {reaction : ResolvedReactionPlan}
    (member : reaction ∈ plan.reactions) : plan.reaction? reaction.userId = some reaction := by
  have unique := plan.userIds_unique
  unfold reaction?
  cases found : plan.reactions.find? fun other => other.userId = reaction.userId with
  | none =>
    -- The search cannot miss the reaction itself.
    have missed := List.find?_eq_none.mp found reaction member
    simp at missed
  | some other =>
    have same : other.userId = reaction.userId := by simpa using List.find?_some found
    rw [List.inj_on_of_nodup_map unique (List.mem_of_find?_eq_some found) member same]

section Ranks

variable {G : Type} (source : RandomSource G) (event : NewsShockEvent)

/-- The candidates are ranked by their keys, and by their users where two have one key. -/
def RandomSource.RanksBefore (first second : ReactionCandidate) : Prop :=
  seedOf (source.activationKey event first) < seedOf (source.activationKey event second) ∨
    seedOf (source.activationKey event first) = seedOf (source.activationKey event second) ∧
      first.userId < second.userId

/-- Ranks are compared by numbers and names. -/
instance : DecidableRel (source.RanksBefore event) := fun _ _ => inferInstanceAs (Decidable (_ ∨ _))

/-- No two candidates rank before each other. -/
theorem ranksBefore_asymm (first second : ReactionCandidate) :
    source.RanksBefore event first second → ¬ source.RanksBefore event second first := by
  -- Keys are compared first, and users only if the keys are the same.
  rintro (less | ⟨same, earlier⟩) (greater | ⟨equal, later⟩)
  · exact lt_asymm less greater
  · exact less.ne' equal
  · exact greater.ne' same
  · exact String.lt_asymm earlier later

/-- The eligible candidates are strictly ordered by their users. -/
theorem eligible_ordered {candidates : List ReactionCandidate}
    (unique : (candidates.map ReactionCandidate.userId).Nodup) :
    (event.eligible candidates).Pairwise fun first second => first.userId < second.userId := by
  have total : Std.Total fun first second : ReactionCandidate => first.userId ≤ second.userId :=
    ⟨fun one other => String.le_total one.userId other.userId⟩
  have trans : IsTrans ReactionCandidate fun first second => first.userId ≤ second.userId :=
    ⟨fun one other third => String.le_trans⟩
  have sorted : (event.eligible candidates).Pairwise fun first second =>
      first.userId ≤ second.userId := List.pairwise_insertionSort _ _
  have distinct := List.pairwise_map.mp (eligible_unique event unique)
  -- Two users in order that are not the same are strictly in order.
  refine (sorted.and distinct).imp fun {first second} both => ?_
  exact String.not_le.mp fun more => both.2 (String.le_antisymm both.1 more)

/-- A candidate is chosen exactly when few of the eligible ones rank before it. -/
theorem activated_iff {candidates : List ReactionCandidate}
    (unique : (candidates.map ReactionCandidate.userId).Nodup) {candidate : ReactionCandidate}
    (member : candidate ∈ event.eligible candidates) :
    candidate.userId ∈ source.activatedIds event (event.eligible candidates) ↔
      ((event.eligible candidates).countP fun other => source.RanksBefore event other candidate) <
        (activationCount (event.eligible candidates).length
          (source.activationRatio event).1).toNat := by
  unfold RandomSource.activatedIds
  generalize (activationCount (event.eligible candidates).length
    (source.activationRatio event).1).toNat = count
  generalize ranking : ((event.eligible candidates).insertionSort fun first second =>
    RandomSource.seedOf (source.activationKey event first) ≤
      RandomSource.seedOf (source.activationKey event second)) = ranked
  have perm : ranked.Perm (event.eligible candidates) := ranking ▸ List.perm_insertionSort _ _
  -- The sort is stable, so that the order of the users decides between equal keys.
  have ordered : ranked.Pairwise (source.RanksBefore event) := by
    rw [← ranking]
    exact insertionSort_stable (fun _ _ _ => String.lt_trans) (eligible_ordered event unique)
  have distinct : (ranked.map ReactionCandidate.userId).Nodup := by
    rw [(perm.map _).nodup_iff]
    exact eligible_unique event unique
  have inside : candidate ∈ ranked := perm.symm.subset member
  rw [← perm.countP_eq, ← mem_take_iff_countP (ranksBefore_asymm source event) ordered inside]
  constructor
  · intro chosen
    obtain ⟨other, first, same⟩ := List.mem_map.mp chosen
    rwa [← List.inj_on_of_nodup_map distinct (List.mem_of_mem_take first) inside same]
  · exact List.mem_map_of_mem

/-- No more candidates are chosen than there are. -/
theorem activationCount_le (count : Nat) (ratio : Int) :
    (activationCount count ratio).toNat ≤ count := by
  unfold activationCount
  split_ifs <;> omega

end Ranks

section Pools

variable {G : Type} {source : RandomSource G} {tickIntervalMs : Int} {event : NewsShockEvent}
  {candidates : List ReactionCandidate} {plan : ResolvedEventPlan}

/-- A plan has the reactions of the eligible candidates, one by one. -/
theorem resolve_reactions (resolved : source.resolve tickIntervalMs event candidates = .ok plan) :
    (candidates.map ReactionCandidate.userId).Nodup ∧
      List.Forall₂ (fun candidate reaction =>
        source.reactionOf event tickIntervalMs (event.eligible candidates) candidate = .ok reaction)
        (event.eligible candidates) plan.reactions := by
  -- Two candidates of one user would have been refused.
  by_cases unique : (candidates.map ReactionCandidate.userId).Nodup
  · have seedable := RandomSource.seedable_of_resolve resolved
    rw [RandomSource.resolve_eq _ unique seedable] at resolved
    obtain ⟨reactions, mapped, created⟩ := Outcome.bind_eq_ok resolved
    obtain ⟨_, same⟩ := ResolvedEventPlan.create_ok created
    exact ⟨unique, same ▸ Outcome.mapM_eq_ok_iff.mp mapped⟩
  · rw [RandomSource.resolve_duplicates _ unique] at resolved
    cases resolved

/-- Each eligible candidate has a reaction, which is active exactly when it was chosen. -/
theorem reaction?_of_eligible
    (resolved : source.resolve tickIntervalMs event candidates = .ok plan)
    {candidate : ReactionCandidate} (member : candidate ∈ event.eligible candidates) :
    ∃ reaction, plan.reaction? candidate.userId = some reaction ∧
      source.reactionOf event tickIntervalMs (event.eligible candidates) candidate = .ok reaction ∧
      reaction.activated =
        decide (candidate.userId ∈ source.activatedIds event (event.eligible candidates)) := by
  obtain ⟨_, made⟩ := resolve_reactions resolved
  obtain ⟨reaction, inside, own⟩ := Outcome.exists_right made member
  obtain ⟨user, _, chosen⟩ := resolveCandidate_ok own
  exact ⟨reaction, user ▸ ResolvedEventPlan.reaction?_eq inside, own, chosen⟩

/-- As many traders react as the count for the ratio says. -/
theorem activatedTraderCount_eq
    (resolved : source.resolve tickIntervalMs event candidates = .ok plan) :
    plan.activatedTraderCount =
      (activationCount (event.eligible candidates).length (source.activationRatio event).1).toNat := by
  obtain ⟨unique, made⟩ := resolve_reactions resolved
  have chosen := made.imp fun _ _ own => (resolveCandidate_ok own).2.2
  -- The reactions count those who were chosen, and no more are chosen than there are.
  rw [ResolvedEventPlan.activatedTraderCount, countP_activated chosen,
    chosen_length source event (eligible_unique event unique)]
  exact Nat.min_eq_left (activationCount_le _ _)

/--
The reaction of a candidate depends on the others only through whether it is chosen to react.

Adding candidates makes none of the earlier ones react, unless it changes how many do.
-/
theorem reaction_pool_independent {first second : List ReactionCandidate}
    {plan plan' : ResolvedEventPlan}
    (resolved : source.resolve tickIntervalMs event first = .ok plan)
    (resolved' : source.resolve tickIntervalMs event second = .ok plan') :
    (∀ candidate ∈ first, candidate ∈ second → candidate.symbol = event.symbol →
      ∃ reaction reaction', plan.reaction? candidate.userId = some reaction ∧
        plan'.reaction? candidate.userId = some reaction' ∧
        (reaction.activated = reaction'.activated → reaction = reaction')) ∧
    (first ⊆ second → plan.activatedTraderCount = plan'.activatedTraderCount →
      ∀ candidate ∈ first, candidate.symbol = event.symbol →
        ∀ reaction reaction', plan.reaction? candidate.userId = some reaction →
          plan'.reaction? candidate.userId = some reaction' →
          reaction.activated = false → reaction'.activated = false) := by
  constructor
  · intro candidate inside inside' traded
    obtain ⟨reaction, found, made, chosen⟩ :=
      reaction?_of_eligible resolved (mem_eligible.mpr ⟨inside, traded⟩)
    obtain ⟨reaction', found', made', chosen'⟩ :=
      reaction?_of_eligible resolved' (mem_eligible.mpr ⟨inside', traded⟩)
    refine ⟨reaction, reaction', found, found', fun same => ?_⟩
    -- Besides the choice, a reaction is made of the event and of the candidate alone.
    rw [chosen, chosen'] at same
    unfold RandomSource.reactionOf at made made'
    rw [same, made'] at made
    exact (Except.ok.inj made).symm
  · intro more counts candidate inside traded reaction reaction' found found' dormant
    have eligible := mem_eligible.mpr ⟨inside, traded⟩
    have eligible' := mem_eligible.mpr ⟨more inside, traded⟩
    obtain ⟨_, same, _, chosen⟩ := reaction?_of_eligible resolved eligible
    obtain ⟨_, same', _, chosen'⟩ := reaction?_of_eligible resolved' eligible'
    rw [found] at same
    rw [found'] at same'
    cases same
    cases same'
    obtain ⟨unique, _⟩ := resolve_reactions resolved
    obtain ⟨unique', _⟩ := resolve_reactions resolved'
    rw [activatedTraderCount_eq resolved, activatedTraderCount_eq resolved'] at counts
    -- A dormant candidate has enough candidates ahead of it, and a larger pool does not lose them.
    rw [dormant, eq_comm, decide_eq_false_iff_not, activated_iff source event unique eligible,
      Nat.not_lt] at chosen
    rw [chosen', decide_eq_false_iff_not, activated_iff source event unique' eligible',
      Nat.not_lt, ← counts]
    -- Whoever ranked before the candidate still does.
    have nodup : (event.eligible first).Nodup := (eligible_unique event unique).of_map
    have part : (event.eligible first).Subperm (event.eligible second) :=
      nodup.subperm fun other member =>
        have ⟨known, own⟩ := mem_eligible.mp member
        mem_eligible.mpr ⟨more known, own⟩
    exact chosen.trans (part.countP_le _)

end Pools

/-- News of which a tenth of the traders take notice, and one of them at least. -/
def minorNews : NewsShockEvent :=
  { panicNews firstId 500 firstNews_present with preset := .minorNews }

/-- The name of the newcomer is not blank. -/
theorem newcomer_present : isBlank "newcomer" = false := by decide

/-- A third trader of the symbol, which ranks before the other two when all keys are the same. -/
def newcomer : ReactionCandidate :=
  { rival with userId := "newcomer", userId_present := newcomer_present }

/-- Minor news can be seeded for traders whose numbers are short. -/
theorem minorNews_seedable {candidates : List ReactionCandidate}
    (short : ∀ candidate ∈ candidates, isUnwritable candidate.seed = false) :
    minorNews.Seedable candidates :=
  ⟨CodePoints.isEncodable_codePoints "first",
    show isUnwritable 1 = false from writable_of_small (by decide),
    fun candidate inside _ => short candidate inside⟩

/-- A trader that stays dormant next to one other does so next to a newcomer, with the same plan. -/
theorem reaction_pool_independent_rival : ∃ plan plan' reaction,
    RandomSource.least.resolve 1000 minorNews
      [rival, (EventReactiveTrader.dormant reactor).reactionCandidate] = .ok plan ∧
    RandomSource.least.resolve 1000 minorNews
      [rival, newcomer, (EventReactiveTrader.dormant reactor).reactionCandidate] = .ok plan' ∧
    plan.activatedTraderCount = plan'.activatedTraderCount ∧
    plan.reaction? "rival" = some reaction ∧ plan'.reaction? "rival" = some reaction ∧
    reaction.activated = false := by
  have positive : (1 : Int) ≤ 1000 := by decide
  obtain ⟨plan, resolved, _⟩ := resolve_spec least_sound positive minorNews
    (by decide : ([rival, (EventReactiveTrader.dormant reactor).reactionCandidate].map
      ReactionCandidate.userId).Nodup) (minorNews_seedable (by decide))
  obtain ⟨plan', resolved', _⟩ := resolve_spec least_sound positive minorNews
    (by decide : ([rival, newcomer, (EventReactiveTrader.dormant reactor).reactionCandidate].map
      ReactionCandidate.userId).Nodup) (minorNews_seedable (by decide))
  obtain ⟨alone, joined⟩ := reaction_pool_independent resolved resolved'
  -- One trader takes notice in either pool.
  have counts : plan.activatedTraderCount = plan'.activatedTraderCount := by
    rw [activatedTraderCount_eq resolved, activatedTraderCount_eq resolved']
    decide +kernel
  obtain ⟨reaction, reaction', found, found', same⟩ := alone rival List.mem_cons_self
    List.mem_cons_self rfl
  -- The first trader by name is chosen, which is not this one.
  have dormant : reaction.activated = false := by
    obtain ⟨other, other_found, _, chosen⟩ := reaction?_of_eligible resolved
      (mem_eligible.mpr ⟨List.mem_cons_self, rfl⟩ : rival ∈ minorNews.eligible
        [rival, (EventReactiveTrader.dormant reactor).reactionCandidate])
    rw [found] at other_found
    cases other_found
    rw [chosen]
    decide +kernel
  have dormant' := joined (by simp) counts rival List.mem_cons_self rfl reaction reaction' found
    found' dormant
  refine ⟨plan, plan', reaction, resolved, resolved', counts, found, ?_, dormant⟩
  rw [same (dormant.trans dormant'.symm)]
  exact found'

end StockMarket
