import Mathlib.Data.Int.CardIntervalMod
import StockMarket.Deployment.Routing

/-! Ownership, lookup, and routing are three views of one partition of the tickers. -/

namespace StockMarket

section Slices

variable {tickers owned : List String} {shard count : Nat}

/-- A shard keeps the order of the tickers. -/
theorem ownedTickers_sublist (slice : ownedTickers tickers shard count = .ok owned) :
    owned.Sublist tickers := by
  unfold ownedTickers at slice
  split at slice
  · cases slice
  · split at slice
    · cases slice
    · split at slice
      · cases slice
        exact .refl _
      · -- Positions are dropped after the filter has looked at them.
        cases slice
        have kept : (tickers.zipIdx.map Prod.fst) = tickers := List.zipIdx_map_fst _ _
        conv_rhs => rw [← kept]
        exact List.filter_sublist.map _

/-- Among the first positions, those of one shard are counted by their remainder. -/
theorem length_filter_zipIdx (tickers : List String) (shard count : Nat) :
    (tickers.zipIdx.filter fun item => item.2 % count = shard).length =
      tickers.length.count fun position => position % count = shard := by
  -- The induction appends the last position, where both counts look at the same remainder.
  induction tickers using List.reverseRecOn with
  | nil => rfl
  | append_singleton tickers ticker ih =>
    rw [List.zipIdx_append, List.filter_append, List.length_append, ih, List.length_append,
      List.length_singleton, Nat.count_succ]
    simp only [List.zipIdx_singleton, Nat.zero_add]
    by_cases same : tickers.length % count = shard <;> simp [same]

/-- A shard has the whole part of the average, and one more while the remainder lasts. -/
theorem ownedTickers_length (inside : shard < count)
    (slice : ownedTickers tickers shard count = .ok owned) :
    owned.length = tickers.length / count + if shard < tickers.length % count then 1 else 0 := by
  have positive : ¬ count < 1 := by omega
  have counted : owned.length = tickers.length.count fun position => position % count = shard := by
    rw [ownedTickers, if_neg positive, if_neg (not_not_intro inside)] at slice
    split at slice
    · -- A single shard has every position.
      rename_i single
      cases slice
      have every : (fun position : Nat => position % count = shard) = fun _ => True := by
        funext position
        rw [single, Nat.mod_one, eq_iff_iff, iff_true]
        omega
      simp only [every, Nat.count_true]
    · cases slice
      rw [List.length_map, ← length_filter_zipIdx]
      congr 2
      funext item
      simp only [matcherShard, if_neg positive, Except.ok.injEq]
  -- The positions of a shard are those with its remainder.
  have residue := Nat.count_modEq_card (b := tickers.length) (by omega : 0 < count) shard
  simp only [Nat.ModEq, Nat.mod_eq_of_lt inside] at residue
  rw [counted, residue]

/-- The sizes of two shards differ by at most one. -/
theorem ownedTickers_balanced {shard' : Nat} {owned' : List String} (inside : shard < count)
    (inside' : shard' < count) (slice : ownedTickers tickers shard count = .ok owned)
    (slice' : ownedTickers tickers shard' count = .ok owned') :
    owned.length ≤ owned'.length + 1 := by
  rw [ownedTickers_length inside slice, ownedTickers_length inside' slice']
  split <;> split <;> omega

/-- A ticker outside the tickers is assigned to no shard. -/
theorem shardForTicker_eq_none {ticker : String} (foreign : ticker ∉ tickers) :
    shardForTicker tickers ticker count = none := by
  rw [shardForTicker, if_neg foreign]

end Slices

section Routes

variable {request : HttpRequest} {tickers : List String} {count : Nat} {route : Route}

/-- A route to an indexed shard names no symbol. -/
theorem routeForIndexedShard_symbol {method : Method} {path : List Char}
    (routed : routeForIndexedShard method path count = .ok (some route)) : route.symbol = none := by
  -- A shard is named by metrics and readiness paths, and neither has a symbol.
  unfold routeForIndexedShard at routed
  split at routed
  · cases routed
  · split at routed
    · rename_i raw _
      -- The number has to be that of a shard.
      cases index : requireShardIndex raw count with
      | error failure => simp [index, Bind.bind, Except.bind] at routed
      | ok shard =>
        simp only [index, Bind.bind, Except.bind, Pure.pure, Except.pure, Except.ok.injEq,
          Option.some.injEq] at routed
        rw [← routed]
    · split at routed
      · rename_i raw _
        cases index : requireShardIndex raw count with
        | error failure => simp [index, Bind.bind, Except.bind] at routed
        | ok shard =>
          simp only [index, Bind.bind, Except.bind, Pure.pure, Except.pure, Except.ok.injEq,
            Option.some.injEq] at routed
          rw [← routed]
      · cases routed

/-- With at least one shard, a request is routed by its path, and else by its symbol. -/
theorem routeRequest_eq (positive : 1 ≤ count) : routeRequest request tickers count =
    match routeForIndexedShard request.method request.normalizedPath count with
    | .error failure => .error failure
    | .ok (some route) => .ok route
    | .ok none =>
      if Path.isDefaultShard request.normalizedPath = true then .ok ⟨0, none, none⟩
      else
        match symbolFromRequest request request.normalizedPath with
        | .error failure => .error failure
        | .ok symbol =>
          match shardForTicker tickers symbol count with
          | none => .error (.routingError 400 "symbol is not in the current simulation set")
          | some shard => .ok ⟨shard, some symbol, none⟩ := by
  -- Both sides take the same branches, once the count is known to be positive.
  have enough : ¬ count < 1 := by omega
  simp only [routeRequest, if_neg enough, Bind.bind, Except.bind, Pure.pure, Except.pure]
  cases routeForIndexedShard request.method request.normalizedPath count with
  | error failure => rfl
  | ok indexed =>
    cases indexed with
    | some route => rfl
    | none =>
      by_cases first : Path.isDefaultShard request.normalizedPath = true
      · simp only [first, if_true]
      · simp only [first]
        cases symbolFromRequest request request.normalizedPath with
        | error failure => rfl
        | ok symbol => cases shardForTicker tickers symbol count <;> rfl

/-- A request routed by a symbol goes to the shard that the symbol is assigned to. -/
theorem routeRequest_shard {symbol : String} (positive : 1 ≤ count)
    (routed : routeRequest request tickers count = .ok route) (named : route.symbol = some symbol) :
    shardForTicker tickers symbol count = some route.shardIndex := by
  rw [routeRequest_eq positive] at routed
  split at routed
  · cases routed
  · -- An indexed shard is chosen without a symbol.
    rename_i indexed
    cases routed
    rw [routeForIndexedShard_symbol indexed] at named
    cases named
  · split at routed
    · cases routed
      cases named
    · split at routed
      · cases routed
      · split at routed
        · cases routed
        · rename_i assigned
          cases routed
          cases named
          exact assigned

end Routes

/-- Every ticker has one shard, which all views name; shards keep the order and have equal sizes. -/
structure Partitioned (tickers : List String) (count : Nat) : Prop where
  slices : ∀ shard < count, ∃ owned, ownedTickers tickers shard count = .ok owned ∧
    owned.Sublist tickers
  unique : ∀ ticker ∈ tickers, ∃ shard < count, shardForTicker tickers ticker count = some shard ∧
    ∀ shard' < count, ∀ owned, ownedTickers tickers shard' count = .ok owned →
      (ticker ∈ owned ↔ shard' = shard)
  balanced : ∀ shard < count, ∀ shard' < count, ∀ owned owned',
    ownedTickers tickers shard count = .ok owned → ownedTickers tickers shard' count = .ok owned' →
      owned.length ≤ owned'.length + 1
  foreign : ∀ ticker, ticker ∉ tickers → shardForTicker tickers ticker count = none ∧
    ∀ shard owned, ownedTickers tickers shard count = .ok owned → ticker ∉ owned
  routed : ∀ request route symbol, routeRequest request tickers count = .ok route →
    route.symbol = some symbol → route.shardIndex < count ∧
      ∀ shard < count, ∀ owned, ownedTickers tickers shard count = .ok owned →
        (symbol ∈ owned ↔ shard = route.shardIndex)

/-- Tickers without duplicates are partitioned among any positive number of shards. -/
theorem sharding_partitions (tickers : List String) (distinct : tickers.Nodup) (count : Nat)
    (positive : 1 ≤ count) : Partitioned tickers count := by
  -- Slices and assignments are about the same positions, shard by shard.
  have owned_iff : ∀ {ticker shard shard' owned}, shardForTicker tickers ticker count = some shard →
      ownedTickers tickers shard' count = .ok owned → (ticker ∈ owned ↔ shard' = shard) := by
    intro ticker shard shard' owned assigned slice
    rw [owned_iff_shardForTicker distinct slice, assigned, Option.some.injEq, eq_comm]
  -- The parts follow in the order of the structure's fields.
  refine ⟨?_, ?_, ?_, ?_, ?_⟩
  · intro shard inside
    have slices : ∃ owned, ownedTickers tickers shard count = .ok owned := ownedTickers_ok inside
    obtain ⟨owned, slice⟩ := slices
    exact ⟨owned, slice, ownedTickers_sublist slice⟩
  · intro ticker member
    have assigned := (shardForTicker_eq_some_iff positive).mpr ⟨member, rfl⟩
    exact ⟨_, shardForTicker_lt assigned, assigned, fun _ _ _ => owned_iff assigned⟩
  · exact fun shard inside shard' inside' owned owned' => ownedTickers_balanced inside inside'
  · intro ticker absent
    refine ⟨shardForTicker_eq_none absent, fun shard owned slice member => ?_⟩
    exact absent ((ownedTickers_sublist slice).subset member)
  · intro request route symbol routed named
    -- A route that names a symbol has the shard of the symbol.
    have assigned := routeRequest_shard positive routed named
    exact ⟨shardForTicker_lt assigned, fun _ _ _ => owned_iff assigned⟩

/-- Three tickers in two shards. -/
theorem sharding_partitions_pair :
    Partitioned ["000660", "005930", "009150"] 2 :=
  sharding_partitions ["000660", "005930", "009150"] (by decide) 2 (by decide)

end StockMarket
