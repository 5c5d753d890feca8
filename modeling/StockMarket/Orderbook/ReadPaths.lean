import Mathlib.Data.List.Dedup
import StockMarket.Orderbook.EagerExpiry
import StockMarket.Orderbook.Uncrossed

/-! The reads of a book made at one clock reading, and what they say about the same orders. -/

namespace StockMarket

/-- The calls that read a book. -/
inductive BookQuery where
  | snapshot
  | totalQuantity (side : OrderSide)
  | bestPrice (side : OrderSide)
  | getOpenOrder (orderId : UUID)
  | openOrders (side : OrderSide)
  | openOrderCount
  deriving DecidableEq, Repr

/-- What the caller of a read sees. -/
inductive QueryReply where
  | reply (reply : BookReply)
  | count (count : Nat)
  deriving DecidableEq, Repr

/-- The operation behind a read; counting the open orders takes no clock reading. -/
def BookQuery.op (now : ℚ) : BookQuery → Option BookOp
  | .snapshot => some (.snapshot now)
  | .totalQuantity side => some (.totalQuantity side now)
  | .bestPrice side => some (.bestPrice side now)
  | .getOpenOrder orderId => some (.getOpenOrder orderId now)
  | .openOrders side => some (.openOrders side now)
  | .openOrderCount => none

/-- Carry out one read at a clock reading. -/
def OrderBook.query (now : ℚ) (book : OrderBook) (query : BookQuery) :
    Except Fault (OrderBook × QueryReply) :=
  match query.op now with
  | some op => (book.perform op).map fun (book, reply, _) => (book, .reply reply)
  | none => .ok (book, .count book.openOrderCount)

/-- The prices of a list of orders with the quantity that is left at each. -/
def levelsOf (orders : List OpenOrder) : List BookLevel :=
  (orders.map (·.order.price)).dedup.map fun price =>
    ⟨price, ((orders.filter (·.order.price = price)).map (·.remainingQuantity)).sum⟩

/-- What a read says, when the open orders of the two sides are the given ones. -/
def Agrees (symbol : String) (orders : OrderSide → List OpenOrder) : BookQuery → QueryReply → Prop
  | .snapshot, answer =>
    answer = .reply (.snapshot ⟨symbol, levelsOf (orders .buy), levelsOf (orders .sell)⟩)
  | .totalQuantity side, answer =>
    answer = .reply (.quantity ((orders side).map (·.remainingQuantity)).sum)
  | .bestPrice side, answer =>
    answer = .reply (.price ((orders side).head?.map (·.order.price)))
  | .getOpenOrder orderId, answer => ∃ found, answer = .reply (.openOrder found) ∧
    ∀ item, found = some item ↔
      (item ∈ orders .buy ∨ item ∈ orders .sell) ∧ item.order.orderId = orderId
  | .openOrders side, answer => answer = .reply (.openOrders (orders side))
  | .openOrderCount, answer =>
    answer = .count ((orders .buy).length + (orders .sell).length)

/-- Some order at rest is due at a clock reading. -/
def OrderBook.Overdue (book : OrderBook) (now : ℚ) : Prop :=
  book.config.maxAgeSeconds ≠ 0 ∧
    ∃ rested ∈ book.plain.allResting, rested.restedAt ≤ book.config.cutoff now

/-- The open orders of a plain book. -/
def PlainBook.listed (book : PlainBook) (side : OrderSide) : List OpenOrder :=
  (book.resting side).map (·.asOpenOrder)

section Levels

/-- A newcomer at the price of a list's first level raises only that level. -/
theorem levelsOf_cons (first : OpenOrder) (rest : List OpenOrder) :
    levelsOf (first :: rest) =
      (if first.order.price ∈ rest.map (·.order.price) then levelsOf rest
        else ⟨first.order.price, 0⟩ :: levelsOf rest).map fun level =>
          if level.price = first.order.price then
            { level with quantity := first.remainingQuantity + level.quantity }
          else level := by
  -- Each price keeps its place, and only the newcomer's own price gains quantity.
  have raised : ∀ price, (⟨price, (((first :: rest).filter (·.order.price = price)).map
      (·.remainingQuantity)).sum⟩ : BookLevel) =
        if price = first.order.price then
          ⟨price, first.remainingQuantity + ((rest.filter (·.order.price = price)).map
            (·.remainingQuantity)).sum⟩
        else ⟨price, ((rest.filter (·.order.price = price)).map (·.remainingQuantity)).sum⟩ := by
    intro price
    by_cases same : price = first.order.price
    · simp [same]
    · simp [same, Ne.symm same]
  unfold levelsOf
  -- Either the price has a level already, or it opens one in front.
  by_cases known : first.order.price ∈ rest.map (·.order.price)
  · rw [if_pos known, List.map_cons, List.dedup_cons_of_mem known, List.map_map]
    exact List.map_congr_left fun price _ => raised price
  · have nothing : rest.filter (·.order.price = first.order.price) = [] :=
      List.filter_eq_nil_iff.mpr fun other member same =>
        known (List.mem_map.mpr ⟨other, member, of_decide_eq_true same⟩)
    rw [if_neg known, List.map_cons, List.dedup_cons_of_notMem known, List.map_cons, List.map_cons,
      List.map_map, raised]
    congr 1
    · simp [nothing]
    · exact List.map_congr_left fun price _ => raised price

/-- Raising the level at a price does nothing to levels at other prices. -/
theorem raise_eq_self {levels : List BookLevel} {price quantity : Int}
    (apart : ∀ level ∈ levels, level.price ≠ price) :
    (levels.map fun level =>
      if level.price = price then { level with quantity := quantity + level.quantity }
      else level) = levels :=
  (List.map_congr_left fun level member => if_neg (apart level member)).trans (List.map_id levels)

/-- The levels of a side are the prices of its orders with the quantity left at each. -/
theorem priceLevels_eq_levelsOf {side : OrderSide} {resting : List Rested}
    (ranked : resting.Pairwise (Ahead side)) :
    priceLevels resting = levelsOf (resting.map (·.asOpenOrder)) := by
  -- The induction adds one order in front, which joins the first level or opens one of its own.
  induction resting with
  | nil => rfl
  | cons first rest ih =>
    obtain ⟨ahead, ranked'⟩ := List.pairwise_cons.mp ranked
    have sorted := priceLevels_sorted ranked'
    have front := priceLevels_head rest
    have later := ih ranked'
    have prices : (rest.map (·.asOpenOrder)).map (·.order.price) = rest.map (·.order.price) := by
      rw [List.map_map]
      rfl
    rw [List.map_cons, levelsOf_cons, ← later, prices, priceLevels]
    show _ = List.map (fun level : BookLevel => if level.price = first.order.price then
      { level with quantity := first.remainingQuantity + level.quantity } else level)
        (if first.order.price ∈ rest.map (·.order.price) then _ else _)
    cases levels : priceLevels rest with
    | nil =>
      have empty : rest = [] := by
        cases rest with
        | nil => rfl
        | cons => rw [levels] at front; simp at front
      simp [empty, Rested.asOpenOrder]
    | cons level others =>
      rw [levels] at front sorted
      obtain ⟨next, next_first, priced⟩ := Option.map_eq_some_iff.mp front.symm
      have next_mem := List.mem_of_head? next_first
      have behind := (List.pairwise_cons.mp sorted).1
      -- The newcomer is at the price of the first level, or it opens a level in front.
      by_cases same : level.price = first.order.price
      · have known : first.order.price ∈ rest.map (·.order.price) :=
          List.mem_map.mpr ⟨next, next_mem, priced.trans same⟩
        have apart : ∀ other ∈ others, other.price ≠ first.order.price :=
          fun other member equal => by
            have less := behind other member
            rw [equal, same] at less
            exact lt_irrefl _ less
        rw [if_pos known, List.map_cons, raise_eq_self apart]
        simp [same]
      · -- An order at the newcomer's price would come before the next one.
        have better : side.key first.order.price < side.key next.order.price :=
          (ahead next next_mem).resolve_right fun equal => same (priced.symm.trans equal.1.symm)
        have apart : ∀ other ∈ level :: others, other.price ≠ first.order.price := by
          intro other member equal
          have reached : side.key level.price ≤ side.key other.price := by
            rcases List.mem_cons.mp member with rfl | member
            · exact le_refl _
            · exact (behind other member).le
          rw [equal, ← show next.order.price = level.price from priced] at reached
          exact absurd better (not_lt.mpr reached)
        have unknown : first.order.price ∉ rest.map (·.order.price) := by
          intro known
          obtain ⟨other, member, equal⟩ := List.mem_map.mp known
          obtain ⟨more, rfl⟩ := List.head?_eq_some_iff.mp next_first
          have reached : side.key next.order.price ≤ side.key other.order.price := by
            rcases List.mem_cons.mp member with rfl | member
            · exact le_refl _
            · exact ((List.pairwise_cons.mp ranked').1 other member).elim le_of_lt
                fun tied => by rw [tied.1]
          rw [equal] at reached
          exact absurd better (not_lt.mpr reached)
        rw [if_neg unknown, List.map_cons, raise_eq_self apart]
        simp [same, Rested.asOpenOrder]

end Levels

section Queries

variable {book : OrderBook} {now : ℚ}

/-- A well-formed book whose orders came to rest in the order of their arrival. -/
structure Settled (book : OrderBook) : Prop where
  ok : BookOk book
  ascend : book.config.maxAgeSeconds ≠ 0 → book.plain.StampsAscend

/-- Every order at rest is indexed once. -/
theorem openOrderCount_eq (ok : BookOk book) :
    book.openOrderCount = book.plain.allResting.length := by
  -- The keys of the index are the identifiers at rest.
  have same : book.index.keys.Perm book.plain.ids := by
    refine (List.perm_ext_iff_of_nodup book.index.keys_nodup ok.plain_ok.named).mpr fun orderId => ?_
    rw [Dict.mem_keys_iff]
    exact indexed_iff ok.core
  have lengths := same.length_eq
  rwa [Dict.keys, List.length_map, PlainBook.ids, List.length_map] at lengths

/-- An operation that only reads expires what is due and answers from what is left. -/
theorem Settled.perform_read (settled : Settled book) {op : BookOp} (brings : op.newIds = [])
    (visible : op.expiresAt book.symbol = some now)
    (reads : ∀ plain : PlainBook, (plain.act op).1 = plain) : ∃ book' calls,
      book.perform op = .ok (book', ((book.plain.expireAt now).act op).2, calls) ∧
        Settled book' ∧ book'.plain = book.plain.expireAt now := by
  obtain ⟨book', reply, calls, gone, expired, ran, done⟩ :=
    perform_spec settled.ok op fun orderId member => by simp [brings] at member
  have expiry := done.expiry
  have visible' : op.expiresAt book.plain.config.symbol = some now := visible
  rw [ExpiryOf, visible'] at expiry
  -- In a book of ascending stamps the walk removes all that is due.
  obtain rfl := expiry.eq_expireAt settled.ok.plain_ok settled.ascend
  have plain : book'.plain = book.plain.expireAt now := done.plain_eq.trans (reads _)
  refine ⟨book', calls, done.reply_eq ▸ ran, ⟨done.ok, fun aged => ?_⟩, plain⟩
  rw [plain]
  have ascend := settled.ascend (done.config_eq ▸ aged)
  exact fun first member second member' =>
    ascend first (expireAt_sub member) second (expireAt_sub member')

/-- The identifiers of the open orders are distinct. -/
theorem listed_find_iff {plain : PlainBook} (ok : PlainOk plain) {orderId : UUID}
    {item : OpenOrder} : (plain.find? orderId).map (·.asOpenOrder) = some item ↔
      (item ∈ plain.listed .buy ∨ item ∈ plain.listed .sell) ∧ item.order.orderId = orderId := by
  -- The two listings together are the orders at rest.
  have listed : (item ∈ plain.listed .buy ∨ item ∈ plain.listed .sell) ↔
      ∃ rested ∈ plain.allResting, rested.asOpenOrder = item := by
    rw [← List.mem_append, PlainBook.listed, PlainBook.listed, ← List.map_append]
    exact List.mem_map
  rw [listed]
  constructor
  · intro found
    obtain ⟨rested, search, rfl⟩ := Option.map_eq_some_iff.mp found
    have named : rested.order.orderId = orderId := of_decide_eq_true (List.find?_some search :)
    exact ⟨⟨rested, List.mem_of_find?_eq_some search, rfl⟩, named⟩
  · rintro ⟨⟨rested, member, rfl⟩, named⟩
    cases search : plain.find? orderId with
    | none =>
      have differs := List.find?_eq_none.mp search rested member
      rw [decide_eq_true_eq] at differs
      exact absurd named differs
    | some other =>
      have same : other.order.orderId = orderId := of_decide_eq_true (List.find?_some search :)
      have inside := List.mem_of_find?_eq_some search
      rw [List.inj_on_of_nodup_map ok.named inside member (same.trans named.symm)]
      rfl

/-- Every read but the count expires what is due and says what is left. -/
theorem Settled.query_spec (settled : Settled book) {query : BookQuery}
    (clocked : query ≠ .openOrderCount) : ∃ book' answer,
      book.query now query = .ok (book', answer) ∧ Settled book' ∧
        book'.plain = book.plain.expireAt now ∧
        Agrees book.symbol (book.plain.expireAt now).listed query answer := by
  -- Every read but the count is an operation of the book.
  have answered : ∀ op, query.op now = some op → op.newIds = [] →
      op.expiresAt book.symbol = some now → (∀ plain : PlainBook, (plain.act op).1 = plain) →
      Agrees book.symbol (book.plain.expireAt now).listed query
        (.reply ((book.plain.expireAt now).act op).2) → ∃ book' answer,
      book.query now query = .ok (book', answer) ∧ Settled book' ∧
        book'.plain = book.plain.expireAt now ∧
        Agrees book.symbol (book.plain.expireAt now).listed query answer := by
    intro op same brings visible reads agrees
    obtain ⟨book', calls, ran, settled', plain⟩ := settled.perform_read brings visible reads
    refine ⟨book', _, ?_, settled', plain, agrees⟩
    simp only [OrderBook.query, same, ran, Except.map]
  have expired_ok := settled.ok.plain_ok.expireAt now
  have symbol : (book.plain.expireAt now).config.symbol = book.symbol := by
    rw [expireAt_config]
    rfl
  cases query with
  | openOrderCount => exact absurd rfl clocked
  | snapshot =>
    refine answered _ rfl rfl rfl (fun _ => rfl) ?_
    simp only [Agrees, PlainBook.act, PlainBook.listed, symbol,
      priceLevels_eq_levelsOf (expired_ok.priority _)]
  | totalQuantity side =>
    refine answered _ rfl rfl rfl (fun _ => rfl) ?_
    simp only [Agrees, PlainBook.act, PlainBook.listed, supply, List.map_map]
    rfl
  | bestPrice side =>
    refine answered _ rfl rfl rfl (fun _ => rfl) ?_
    simp only [Agrees, PlainBook.act, PlainBook.listed, List.head?_map, Option.map_map]
    rfl
  | getOpenOrder orderId =>
    exact answered _ rfl rfl rfl (fun _ => rfl) ⟨_, rfl, fun _ => listed_find_iff expired_ok⟩
  | openOrders side => exact answered _ rfl rfl rfl (fun _ => rfl) rfl

/-- A book that has only expired orders is still for the same symbol. -/
theorem symbol_of_plain {book' : OrderBook} (plain : book'.plain = book.plain.expireAt now) :
    book'.symbol = book.symbol := by
  have config := congrArg PlainBook.config plain
  rw [expireAt_config] at config
  exact congrArg BookConfig.symbol config

/-- Expiry takes nothing away when nothing is due. -/
theorem expireAt_eq_self (current : ¬ book.Overdue now) : book.plain.expireAt now = book.plain := by
  unfold PlainBook.expireAt
  split
  · rfl
  · rename_i aged
    -- Every order rests since a time after the cut-off.
    have young : ∀ side, ∀ rested ∈ book.plain.resting side,
        decide (book.plain.config.cutoff now < rested.restedAt) = true :=
      fun side rested member => decide_eq_true (lt_of_not_ge fun due =>
        current ⟨aged, rested, PlainBook.mem_allResting.mpr ⟨side, member⟩, due⟩)
    simp only [PlainBook.expireBefore, PlainBook.keep]
    congr 1
    funext side
    exact List.filter_eq_self.mpr (young side)

/-- Expiry takes something away when something is due. -/
theorem expireAt_length_lt (overdue : book.Overdue now) :
    (book.plain.expireAt now).allResting.length < book.plain.allResting.length := by
  -- The order that is due is one that the filter drops.
  obtain ⟨aged, rested, member, due⟩ := overdue
  have aged' : ¬ book.plain.config.maxAgeSeconds = 0 := aged
  rw [PlainBook.expireAt, if_neg aged', PlainBook.expireBefore, keep_allResting]
  refine List.length_filter_lt_length_iff_exists.mpr ⟨rested, member, ?_⟩
  rw [decide_eq_true_eq]
  exact not_lt.mpr due

/-- Reads at one clock reading never fail, and all but a first count say the same. -/
theorem Settled.run_queries (now : ℚ) {left : PlainBook} (queries : List BookQuery)
    (settled : Settled book)
    (same : book.plain.expireAt now = left) : ∃ last answers,
      Machine.run (OrderBook.query now) book queries = .ok (last, answers) ∧
        List.Forall₂ (fun query answer => book.plain = left ∨ query ≠ .openOrderCount →
          Agrees book.symbol left.listed query answer) queries answers := by
  -- The books that are met all expire to the same one.
  induction queries generalizing book with
  | nil => exact ⟨book, [], rfl, .nil⟩
  | cons query later ih =>
    by_cases counts : query = .openOrderCount
    · -- Counting leaves the book alone.
      subst counts
      obtain ⟨last, answers, ran, agree⟩ := ih settled same
      have stepped : book.query now .openOrderCount = .ok (book, .count book.openOrderCount) := rfl
      refine ⟨last, _, by rw [Machine.run_cons stepped, ran]; rfl, .cons (fun current => ?_) agree⟩
      have current := current.resolve_right (not_not_intro rfl)
      rw [openOrderCount_eq settled.ok, current, Agrees]
      simp [PlainBook.allResting, PlainBook.listed]
    · obtain ⟨book', answer, stepped, settled', plain, agrees⟩ := settled.query_spec counts
      have same' : book'.plain.expireAt now = left := by
        rw [plain, expireAt_expireAt (le_refl now), same]
      obtain ⟨last, answers, ran, agree⟩ := ih settled' same'
      refine ⟨last, answer :: answers, by rw [Machine.run_cons stepped, ran]; rfl,
        .cons (fun _ => same ▸ agrees) (agree.imp fun query answer told _ => ?_)⟩
      exact symbol_of_plain plain ▸ told (.inl (plain.trans same))

/-- Lists related in two ways relate each element of the first in both ways to one element. -/
theorem forall₂_both {α β : Type} {one other : α → β → Prop} {first : List α} {second : List β}
    {a : α} (related : List.Forall₂ one first second) (also : List.Forall₂ other first second)
    (member : a ∈ first) : ∃ b, one a b ∧ other a b := by
  -- The induction follows the first relation, which keeps the lists in step.
  induction related with
  | nil => cases member
  | cons here _ ih =>
    cases also with
    | cons here' later' =>
      rcases List.mem_cons.mp member with rfl | member
      · exact ⟨_, here, here'⟩
      · exact ih later' member

/-- The reads of a settled book agree unless they start by counting orders that are due. -/
theorem Settled.queries_agree_iff (now : ℚ) (settled : Settled book) {queries : List BookQuery}
    (complete : ∀ side, .openOrders side ∈ queries) : ∃ last answers,
      Machine.run (OrderBook.query now) book queries = .ok (last, answers) ∧
        ((∃ orders, List.Forall₂ (Agrees book.symbol orders) queries answers) ↔
          (queries.head? = some .openOrderCount → ¬ book.Overdue now)) := by
  -- Only a count that comes first can see an order that is due.
  by_cases overdue : book.Overdue now
  · cases queries with
    | nil => cases complete .buy
    | cons first later =>
      by_cases counts : first = .openOrderCount
      · -- The count still has the orders that are due, which the later reads do not show.
        subst counts
        obtain ⟨last, answers, ran, agree⟩ := settled.run_queries now later rfl
        have stepped : book.query now .openOrderCount = .ok (book, .count book.openOrderCount) := rfl
        refine ⟨last, _, by rw [Machine.run_cons stepped, ran]; rfl,
          iff_of_false ?_ fun current => current rfl overdue⟩
        rintro ⟨orders, told⟩
        cases told with
        | cons counted told =>
          have listed : ∀ side, orders side = (book.plain.expireAt now).listed side := fun side => by
            have inside := (List.mem_cons.mp (complete side)).resolve_left BookQuery.noConfusion
            obtain ⟨answer, said, shown⟩ := forall₂_both told agree inside
            have shown := shown (.inr BookQuery.noConfusion)
            rw [Agrees] at said shown
            injection said.symm.trans shown with same
            injection same
          injection counted with counted
          have fewer := expireAt_length_lt overdue
          rw [openOrderCount_eq settled.ok, listed, listed] at counted
          rw [counted] at fewer
          simp [PlainBook.allResting, PlainBook.listed] at fewer
      · obtain ⟨book', answer, stepped, settled', plain, agrees⟩ := settled.query_spec counts
        have again : book'.plain.expireAt now = book'.plain := by
          rw [plain, expireAt_expireAt (le_refl now)]
        obtain ⟨last, answers, ran, agree⟩ := settled'.run_queries now later again
        refine ⟨last, answer :: answers, by rw [Machine.run_cons stepped, ran]; rfl,
          iff_of_true ⟨_, .cons agrees (agree.imp fun query answer told => ?_)⟩
            fun first_counts => absurd (Option.some_inj.mp first_counts) counts⟩
        exact plain ▸ symbol_of_plain plain ▸ told (.inl rfl)
  · obtain ⟨last, answers, ran, agree⟩ := settled.run_queries now queries (expireAt_eq_self overdue)
    exact ⟨last, answers, ran, iff_of_true
      ⟨_, agree.imp fun query answer told => told (.inl rfl)⟩ fun _ => overdue⟩

end Queries

/-- The clock that a reached book has seen has put its orders in the order of their arrival. -/
theorem run_settled (config : BookConfig) (ops : List BookOp)
    (distinct : (ops.flatMap BookOp.newIds).Nodup)
    (clock : (ops.flatMap BookOp.readings).Pairwise (· ≤ ·)) : ∃ book outputs,
      Machine.run OrderBook.perform (OrderBook.new config) ops = .ok (book, outputs) ∧
        book.config = config ∧ Settled book := by
  obtain ⟨book, outputs, ran, clocked, same⟩ := Machine.run_invariant
    (fun book later => Clocked book later ∧ book.config = config)
    (fun book op later held => by
      obtain ⟨book', reply, calls, _, _, ran, done, clocked⟩ := held.1.step
      exact ⟨book', (reply, calls), ran, clocked, done.config_eq.trans held.2⟩)
    ops _ ⟨new_clocked config distinct clock, rfl⟩
  -- What the clock has read gives the order of the stamps.
  refine ⟨book, outputs, ran, same, clocked.ready.ok, fun aged => ?_⟩
  obtain ⟨_, timed, _⟩ := clocked.timed aged
  exact timed.ascend

/-- All reads made at one reading agree, in any order, unless they start by counting overdue orders. -/
theorem reads_agree_iff (config : BookConfig) (ops : List BookOp) (now : ℚ)
    (queries : List BookQuery) (distinct : (ops.flatMap BookOp.newIds).Nodup)
    (clock : (ops.flatMap BookOp.readings).Pairwise (· ≤ ·))
    (complete : ∀ side, .openOrders side ∈ queries) : ∃ book outputs last answers,
      Machine.run OrderBook.perform (OrderBook.new config) ops = .ok (book, outputs) ∧
        Machine.run (OrderBook.query now) book queries = .ok (last, answers) ∧
        ((∃ orders, List.Forall₂ (Agrees config.symbol orders) queries answers) ↔
          (queries.head? = some .openOrderCount → ¬ book.Overdue now)) := by
  obtain ⟨book, outputs, ran, same, settled⟩ := run_settled config ops distinct clock
  obtain ⟨last, answers, read, agree⟩ := settled.queries_agree_iff now complete
  have symbol : book.symbol = config.symbol := congrArg BookConfig.symbol same
  exact ⟨book, outputs, last, answers, ran, read, symbol ▸ agree⟩

/-- Every read of a book with one known order, the count first. -/
def everyQuery : List BookQuery :=
  [.openOrderCount, .snapshot, .totalQuantity .buy, .totalQuantity .sell, .bestPrice .buy,
    .bestPrice .sell, .getOpenOrder 1, .openOrders .buy, .openOrders .sell]

/-- Every query on a book with an order that is too old. -/
theorem reads_agree_iff_minute : ∃ book outputs last answers,
    Machine.run OrderBook.perform (OrderBook.new minuteBook) minuteOps = .ok (book, outputs) ∧
      Machine.run (OrderBook.query 70) book everyQuery = .ok (last, answers) ∧
      ((∃ orders, List.Forall₂ (Agrees minuteBook.symbol orders) everyQuery answers) ↔
        (everyQuery.head? = some .openOrderCount → ¬ book.Overdue 70)) :=
  reads_agree_iff minuteBook minuteOps 70 everyQuery (by decide) (by decide +kernel)
    fun side => by cases side <;> decide

/-- An order that is due is still counted by the first call that is made after its time. -/
theorem openOrderCount_stale : ∃ answers,
    ((Machine.run OrderBook.perform (OrderBook.new minuteBook) [.submit fiveOffered 0 0]).bind
      fun (book, _) => (Machine.run (OrderBook.query 61) book everyQuery).map Prod.snd) =
        .ok answers ∧
      ¬ ∃ orders, List.Forall₂ (Agrees minuteBook.symbol orders) everyQuery answers := by
  refine ⟨[.count 1, .reply (.snapshot ⟨"005930", [], []⟩), .reply (.quantity 0),
    .reply (.quantity 0), .reply (.price none), .reply (.price none), .reply (.openOrder none),
    .reply (.openOrders []), .reply (.openOrders [])], by decide +kernel, ?_⟩
  -- The count says one order and the listings say none.
  rintro ⟨orders, told⟩
  simp only [everyQuery, List.forall₂_cons, Agrees, QueryReply.reply.injEq,
    BookReply.openOrders.injEq, QueryReply.count.injEq] at told
  obtain ⟨counted, _, _, _, _, _, _, bought, sold, _⟩ := told
  rw [← bought, ← sold] at counted
  cases counted

end StockMarket
