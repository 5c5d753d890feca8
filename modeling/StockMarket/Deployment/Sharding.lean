import Mathlib.Data.List.Nodup
import Mathlib.Data.List.Basic

/-! Deterministic assignment of symbols to matcher shards. -/

namespace StockMarket

/-- Exceptions of the shard assignment. -/
inductive ShardError where
  | valueError (message : String)
  deriving DecidableEq, Repr

/-- The shard of a position in the universe, which counts from zero. -/
def matcherShard (position shardCount : Nat) : Except ShardError Nat :=
  if shardCount < 1 then .error (.valueError "shard_count must be at least 1")
  else .ok (position % shardCount)

/-- Every `shardCount`-th ticker, starting with the one at the shard's own index. -/
def ownedTickers (tickers : List String) (shardIndex shardCount : Nat) :
    Except ShardError (List String) :=
  if shardCount < 1 then .error (.valueError "shard_count must be at least 1")
  else if ¬ shardIndex < shardCount then
    .error (.valueError "shard_index must be in range(shard_count)")
  else if shardCount = 1 then .ok tickers
  else .ok ((tickers.zipIdx.filter fun item =>
    matcherShard item.2 shardCount = .ok shardIndex).map Prod.fst)

/-- The shard of a ticker in an ordered universe, found by its first position. -/
def shardForTicker (tickers : List String) (ticker : String) (shardCount : Nat) : Option Nat :=
  if ticker ∈ tickers then
    match matcherShard (tickers.idxOf ticker) shardCount with
    | .ok shard => some shard
    | .error _ => none
  else none

variable {tickers owned : List String} {ticker : String} {shard count : Nat}

/-- With at least one shard, a ticker is assigned by its first position modulo the shard count. -/
theorem shardForTicker_eq_some_iff (positive : 1 ≤ count) :
    shardForTicker tickers ticker count = some shard ↔
      ticker ∈ tickers ∧ tickers.idxOf ticker % count = shard := by
  simp only [shardForTicker, matcherShard, if_neg (Nat.not_lt.mpr positive)]
  -- Only membership can fail, because the shard count was checked.
  by_cases member : ticker ∈ tickers <;> simp [member]

/-- A shard that a ticker is assigned to exists. -/
theorem shardForTicker_lt (found : shardForTicker tickers ticker count = some shard) :
    shard < count := by
  by_cases positive : 1 ≤ count
  · obtain ⟨_, rfl⟩ := (shardForTicker_eq_some_iff positive).mp found
    exact Nat.mod_lt _ positive
  · -- Without shards every assignment fails.
    have none_left : count < 1 := by omega
    simp [shardForTicker, matcherShard, none_left] at found

/-- A shard owns the tickers that stand at its positions. -/
theorem mem_ownedTickers_iff (slice : ownedTickers tickers shard count = .ok owned) :
    ticker ∈ owned ↔ ∃ position, tickers[position]? = some ticker ∧ position % count = shard := by
  unfold ownedTickers at slice
  split at slice
  · cases slice
  · rename_i positive
    split at slice
    · cases slice
    · rename_i inside
      split at slice
      · -- A single shard owns every position.
        rename_i single
        cases slice
        rw [List.mem_iff_getElem?]
        refine exists_congr fun position => ?_
        have only : position % count = shard := by
          rw [single, Nat.mod_one]
          omega
        simp [only]
      · cases slice
        simp only [List.mem_map, List.mem_filter, decide_eq_true_eq, matcherShard, if_neg positive,
          Except.ok.injEq, Prod.exists, exists_and_right, exists_eq_right,
          List.mem_zipIdx_iff_getElem?]

/-- A valid shard index always has a slice. -/
theorem ownedTickers_ok (inside : shard < count) : ∃ owned,
    ownedTickers tickers shard count = .ok owned := by
  -- The index is less than the count, and so neither of the checks fails.
  have positive : ¬ count < 1 := by omega
  rw [ownedTickers, if_neg positive, if_neg (not_not_intro inside)]
  split
  · exact ⟨_, rfl⟩
  · exact ⟨_, rfl⟩

/-- The shard that a ticker is assigned to owns it. -/
theorem owned_of_shardForTicker (found : shardForTicker tickers ticker count = some shard)
    (slice : ownedTickers tickers shard count = .ok owned) : ticker ∈ owned := by
  have inside := shardForTicker_lt found
  obtain ⟨member, position⟩ := (shardForTicker_eq_some_iff (by omega)).mp found
  refine (mem_ownedTickers_iff slice).mpr ⟨tickers.idxOf ticker, ?_, position⟩
  exact List.getElem?_idxOf member

/-- In a universe without duplicates, a ticker is owned by the shard it is assigned to and no other. -/
theorem owned_iff_shardForTicker (distinct : tickers.Nodup)
    (slice : ownedTickers tickers shard count = .ok owned) :
    ticker ∈ owned ↔ shardForTicker tickers ticker count = some shard := by
  refine ⟨fun member => ?_, fun found => owned_of_shardForTicker found slice⟩
  have positive : 1 ≤ count := by
    by_contra none_left
    have fewer : count < 1 := by omega
    rw [ownedTickers, if_pos fewer] at slice
    cases slice
  obtain ⟨position, here, assigned⟩ := (mem_ownedTickers_iff slice).mp member
  obtain ⟨bound, rfl⟩ := List.getElem?_eq_some_iff.mp here
  -- The position found is the first one, because there is no other.
  refine (shardForTicker_eq_some_iff positive).mpr ⟨List.getElem_mem bound, ?_⟩
  rw [distinct.idxOf_getElem position bound]
  exact assigned

end StockMarket
