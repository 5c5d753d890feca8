import StockMarket.Orderbook.EagerExpiry

/-! What a book calls back is what happened to its orders. -/

namespace StockMarket

/-- The identifier of an order that a reply leaves with a remaining quantity. -/
def BookReply.restingIds : BookReply → List UUID
  | .matched result => if result.remainingQuantity = 0 then [] else [result.orderId]
  | _ => []

/-- Every call made back in a run, in order. -/
def callsIn (outputs : Outputs) : List Callback := outputs.flatMap Prod.snd

/-- Every closing is reported after the order was reported as coming to rest. -/
def Preceded (calls : List Callback) : Prop :=
  ∀ front orderId reason back, calls = front ++ .close orderId reason :: back →
    .rest orderId ∈ front

/-- At a call boundary the calls made back tell which orders are in the book. -/
structure Reported (outputs : Outputs) (book : OrderBook) : Prop where
  once : (restedIn outputs).Nodup
  rested_eq : restedIn outputs = outputs.flatMap fun output => output.1.restingIds
  preceded : Preceded (callsIn outputs)
  closed_once : (closedIn .expired outputs ++ closedIn .filled outputs).Nodup
  canceled_silent : ∀ orderId ∈ canceledIn outputs,
    orderId ∉ closedIn .expired outputs ∧ orderId ∉ closedIn .filled outputs
  boundary : ∀ orderId, (∃ ref, book.index.get? orderId = some ref) ↔
    orderId ∈ restedIn outputs ∧ orderId ∉ closedIn .expired outputs ∧
      orderId ∉ closedIn .filled outputs ∧ orderId ∉ canceledIn outputs

/-- The calls made back in one operation tell what it did to each order. -/
structure TellsTruth (book : OrderBook) (op : BookOp) (book' : OrderBook) (reply : BookReply)
    (calls : List Callback) : Prop where
  rests : ∀ orderId, .rest orderId ∈ calls ↔
    orderId ∈ op.newIds ∧ ∃ ref, book'.index.get? orderId = some ref
  closes : ∀ orderId reason, .close orderId reason ∈ calls →
    orderId ∉ op.newIds ∧ orderId ∉ reply.canceledIds ∧
      ∃ rested ∈ book.plain.allResting, rested.order.orderId = orderId
  filled : ∀ rested ∈ book.plain.allResting, .close rested.order.orderId .filled ∈ calls ↔
    tradedOf rested.order.orderId reply.executions = rested.remainingQuantity
  expired : ∀ rested ∈ book.plain.allResting, .close rested.order.orderId .expired ∈ calls ↔
    ∃ now, op.expiresAt book.symbol = some now ∧ book.config.maxAgeSeconds ≠ 0 ∧
      rested.restedAt ≤ book.config.cutoff now

section Lists

/-- The identifiers reported as coming to rest are those that the calls name. -/
@[simp] theorem mem_restedIds {calls : List Callback} {orderId : UUID} :
    orderId ∈ restedIds calls ↔ .rest orderId ∈ calls := by
  -- Of the calls, only those of this kind name such an identifier.
  simp only [restedIds, List.mem_filterMap]
  constructor
  · rintro ⟨call, member, named⟩
    cases call with
    | rest other => exact Option.some_inj.mp named ▸ member
    | close => cases named
  · exact fun member => ⟨_, member, rfl⟩

/-- The identifiers reported as closed are those that the calls name with the reason. -/
@[simp] theorem mem_closedIds {calls : List Callback} {orderId : UUID} {reason : CloseReason} :
    orderId ∈ closedIds reason calls ↔ .close orderId reason ∈ calls := by
  simp only [closedIds, List.mem_filterMap]
  constructor
  · -- A call back that names an order is a close for the given reason.
    rintro ⟨call, member, named⟩
    cases call with
    | rest => cases named
    | close other because =>
      simp only [Option.ite_none_right_eq_some, Option.some_inj] at named
      obtain ⟨rfl, rfl⟩ := named
      exact member
  · exact fun member => ⟨_, member, by simp⟩

/-- Nobody holds less than nothing. -/
theorem heldOf_nonneg {resting : List Rested} (orderId : UUID)
    (positive : ∀ rested ∈ resting, 1 ≤ rested.remainingQuantity) : 0 ≤ heldOf orderId resting := by
  refine List.sum_nonneg fun value member => ?_
  obtain ⟨rested, inside, rfl⟩ := List.mem_map.mp member
  have := positive rested inside
  split <;> omega

/-- An order at rest holds something. -/
theorem heldOf_pos {resting : List Rested} {orderId : UUID}
    (positive : ∀ rested ∈ resting, 1 ≤ rested.remainingQuantity)
    (member : orderId ∈ resting.map fun rested => rested.order.orderId) :
    1 ≤ heldOf orderId resting := by
  obtain ⟨rested, inside, named⟩ := List.mem_map.mp member
  -- The sum is cut at the order, and what stands around it adds nothing negative.
  obtain ⟨front, back, rfl⟩ := List.append_of_mem inside
  have ahead := heldOf_nonneg orderId fun other listed =>
    positive other (List.mem_append_left _ listed)
  have behind := heldOf_nonneg orderId fun other listed =>
    positive other (List.mem_append_right front (List.mem_cons_of_mem _ listed))
  have here := positive rested inside
  have parts : heldOf orderId (front ++ rested :: back) =
      heldOf orderId front + (rested.remainingQuantity + heldOf orderId back) := by
    simp [heldOf, named]
  omega

/-- An order that holds alone what a list holds under its identifier. -/
theorem heldOf_eq {resting : List Rested} {rested : Rested} (member : rested ∈ resting)
    (named : (resting.map fun other => other.order.orderId).Nodup) :
    heldOf rested.order.orderId resting = rested.remainingQuantity := by
  -- Identifiers are distinct, so neither side of the list holds anything of the order.
  obtain ⟨front, back, rfl⟩ := List.append_of_mem member
  rw [List.map_append, List.map_cons, List.nodup_append'] at named
  obtain ⟨_, behind, apart⟩ := named
  have ahead_free : heldOf rested.order.orderId front = 0 := heldOf_eq_zero fun other listed same =>
    apart (List.mem_map_of_mem listed) (same ▸ List.mem_cons_self)
  have behind_free : heldOf rested.order.orderId back = 0 := heldOf_eq_zero fun other listed same =>
    (List.nodup_cons.mp behind).1 (same ▸ List.mem_map_of_mem listed)
  have parts : heldOf rested.order.orderId (front ++ rested :: back) =
      heldOf rested.order.orderId front +
        (rested.remainingQuantity + heldOf rested.order.orderId back) := by
    simp [heldOf]
  omega

end Lists

section Step

variable {book book' : OrderBook} {op : BookOp} {reply : BookReply} {calls : List Callback}
  {gone : List Rested} {expired : PlainBook}

/-- A reply reports a cancelled order that was at rest, with its whole quantity. -/
theorem act_canceledIds {book : PlainBook} {op : BookOp} {orderId : UUID}
    (member : orderId ∈ (book.act op).2.canceledIds) : ∃ rested ∈ book.allResting,
      rested.order.orderId = orderId ∧
        (book.act op).2.canceledOf orderId = rested.remainingQuantity := by
  cases op with
  | submit order now restAt =>
    simp only [PlainBook.act] at member
    split at member <;> cases member
  -- Only a cancel that finds its order answers with what it took out.
  | cancel named now =>
    simp only [PlainBook.act, PlainBook.takeOut] at member ⊢
    cases found : book.find? named with
    | none => simp [found, BookReply.ofResult, BookReply.canceledIds] at member
    | some rested =>
      simp only [found, BookReply.ofResult, BookReply.canceledIds, List.mem_singleton,
        Rested.asOpenOrder] at member
      refine ⟨rested, List.mem_of_find?_eq_some found, member.symm, ?_⟩
      simp [BookReply.ofResult, BookReply.canceledOf, Rested.asOpenOrder, member]
  | recentTrades limit =>
    simp only [PlainBook.act] at member
    split at member <;> cases member
  | getOpenOrder | openOrders | snapshot | totalQuantity | bestPrice => cases member

/-- A reply cancels nothing of an order that it does not name. -/
theorem canceledOf_eq_zero {reply : BookReply} {orderId : UUID}
    (absent : orderId ∉ reply.canceledIds) : reply.canceledOf orderId = 0 := by
  -- Only the reply to a cancel names an order.
  cases reply with
  | canceled taken =>
    refine if_neg fun same => absent ?_
    rw [← same]
    exact List.mem_singleton_self _
  | _ => rfl

/-- The orders reported as expired are those that are gone by expiry. -/
theorem Performed.gone_ids (done : Performed book op book' reply calls gone expired) :
    closedIds .expired calls = gone.map fun rested => rested.order.orderId := by
  rw [done.calls_eq, closedIds_append, closedIds_expired, callsOf_expired, List.append_nil]

/-- The replies that leave a remaining quantity are those whose order is reported as resting. -/
theorem Performed.restedIds_eq (done : Performed book op book' reply calls gone expired) :
    restedIds calls = reply.restingIds := by
  rw [done.calls_eq, done.reply_eq, restedIds_append, restedIds_expired, List.nil_append]
  -- The calls made by expiry name no resting order, so only the operation itself is left.
  cases op with
  | submit order now restAt =>
    simp only [PlainBook.callsOf, PlainBook.act]
    split
    · rfl
    · rw [restedIds_append, restedIds_filled, List.nil_append]
      -- What the makers left of the order decides both the call and the reply.
      by_cases exhausted : (expired.taken order).left = 0
      · simp only [BookReply.restingIds, PlainBook.place, if_pos exhausted]
        rfl
      · simp only [BookReply.restingIds, PlainBook.place, if_neg exhausted]
        rfl
  | cancel orderId now =>
    simp only [PlainBook.callsOf, PlainBook.act]
    cases (expired.takeOut orderId).2 <;> rfl
  | recentTrades limit =>
    simp only [PlainBook.callsOf, PlainBook.act]
    split <;> rfl
  | getOpenOrder | openOrders | snapshot | totalQuantity | bestPrice => rfl

/-- Only orders that were at rest before an operation are closed by it. -/
theorem Performed.closed_before (done : Performed book op book' reply calls gone expired)
    (ok : BookOk book) {orderId : UUID} {reason : CloseReason}
    (closed : orderId ∈ closedIds reason calls) : orderId ∈ book.plain.ids := by
  have split := (done.split ok).map fun rested => rested.order.orderId
  rw [List.map_append] at split
  refine split.mem_iff.mpr (List.mem_append.mpr ?_)
  cases reason with
  -- Expired orders are exactly those that the pass before the operation took out.
  | expired => exact .inl (done.gone_ids ▸ closed)
  -- Only a submitted order fills others; no other operation trades.
  | filled =>
    rw [done.calls_eq, closedIds_append, closedIds_filled_expired, List.nil_append] at closed
    cases op with
    | submit order now restAt =>
      simp only [PlainBook.callsOf] at closed
      split at closed
      · cases closed
      · -- The makers that were filled stood within reach of the order.
        have silent : closedIds .filled (if (expired.taken order).left = 0 then [] else
            [Callback.rest order.orderId]) = [] := by split <;> rfl
        rw [closedIds_append, closedIds_filled, silent, List.append_nil] at closed
        obtain ⟨fill, listed, named⟩ := List.mem_map.mp closed
        have reached := (List.takeWhile_sublist _).subset
          (consume_fill_mem (List.mem_of_mem_filter listed))
        exact .inr (List.mem_map.mpr ⟨fill.1, PlainBook.mem_allResting.mpr ⟨_, reached⟩, named⟩)
    | _ => cases closed

/-- Only orders that were at rest before an operation are cancelled by it. -/
theorem Performed.canceled_before (done : Performed book op book' reply calls gone expired)
    (ok : BookOk book) {orderId : UUID} (canceled : orderId ∈ reply.canceledIds) :
    orderId ∈ book.plain.ids := by
  -- The cancelled order was at rest after expiry, and expiry brings no order in.
  rw [done.reply_eq] at canceled
  obtain ⟨rested, member, named, _⟩ := act_canceledIds canceled
  have whole := (done.split ok).mem_iff.mpr (List.mem_append_right gone member)
  exact List.mem_map.mpr ⟨rested, whole, named⟩

/-- Every order leaves an operation for one reason only. -/
theorem Performed.exits_nodup (done : Performed book op book' reply calls gone expired)
    (ok : BookOk book) (fresh : ∀ orderId ∈ op.newIds, book.index.get? orderId = none) :
    (closedIds .expired calls ++ closedIds .filled calls ++ reply.canceledIds ++
      book'.plain.ids).Nodup := by
  refine (done.exits ok).nodup_iff.mp (List.nodup_append'.mpr ⟨ok.plain_ok.named, ?_, ?_⟩)
  · -- The identifiers that come in are new, and those at rest are distinct.
    refine done.rested_sub.nodup ?_
    cases op with
    | submit => exact List.nodup_singleton _
    | _ => exact .nil
  · intro orderId rests arrives
    -- A new identifier would have to be in the index if an order rested under it.
    have absent := fresh orderId (done.rested_sub.subset arrives)
    obtain ⟨rested, member, named⟩ := List.mem_map.mp rests
    exact (unindexed_iff ok.core).mp absent rested member named

/-- An order is reported as resting when it arrived in the call and is in the book after it. -/
theorem Performed.rests_iff (done : Performed book op book' reply calls gone expired)
    (ok : BookOk book) (fresh : ∀ orderId ∈ op.newIds, book.index.get? orderId = none)
    (orderId : UUID) : orderId ∈ restedIds calls ↔
      orderId ∈ op.newIds ∧ ∃ ref, book'.index.get? orderId = some ref := by
  have absent : orderId ∈ op.newIds → orderId ∉ book.plain.ids := fun arrives rests => by
    obtain ⟨ref, found⟩ := (indexed_iff ok.core).mpr rests
    rw [fresh orderId arrives] at found
    cases found
  -- Every identifier that was there or came to rest is accounted for afterwards.
  have moved := (done.exits ok).mem_iff (a := orderId)
  rw [List.mem_append, List.mem_append, List.mem_append, List.mem_append] at moved
  rw [indexed_iff done.ok.core]
  constructor
  · -- An order that came to rest is new, so it did not leave in this call.
    intro rests
    have arrives := done.rested_sub.subset rests
    refine ⟨arrives, ?_⟩
    rcases moved.mp (.inr rests) with ((closed | closed) | canceled) | stays
    · exact absurd (done.closed_before ok closed) (absent arrives)
    · exact absurd (done.closed_before ok closed) (absent arrives)
    · exact absurd (done.canceled_before ok canceled) (absent arrives)
    · exact stays
  · -- An order that arrived and is still there cannot have been there before.
    rintro ⟨arrives, stays⟩
    exact (moved.mpr (.inr stays)).resolve_left (absent arrives)

/-- An order is reported as filled when the trades of the call take all that was left of it. -/
theorem Performed.filled_iff (done : Performed book op book' reply calls gone expired)
    (ok : BookOk book) (fresh : ∀ orderId ∈ op.newIds, book.index.get? orderId = none)
    {rested : Rested} (member : rested ∈ book.plain.allResting) :
    rested.order.orderId ∈ closedIds .filled calls ↔
      tradedOf rested.order.orderId reply.executions = rested.remainingQuantity := by
  -- What the order held is traded, cancelled, expired, or still at rest.
  set orderId := rested.order.orderId
  have ledger := done.ledger ok fresh orderId
  have held : heldOf orderId book.plain.allResting = rested.remainingQuantity :=
    heldOf_eq member ok.plain_ok.named
  have named : orderId ∈ book.plain.ids := List.mem_map_of_mem member
  -- An order that rests is not the one that comes in.
  have brought : book.plain.broughtOf orderId op = 0 := by
    cases op with
    | submit order now restAt =>
      refine if_neg fun own => ?_
      have absent := fresh order.orderId (List.mem_singleton_self _)
      exact (unindexed_iff ok.core).mp absent rested member own.2.symm
    | _ => rfl
  have gone_positive : ∀ other ∈ gone, 1 ≤ other.remainingQuantity := fun other inside =>
    ok.plain_ok.positive other ((done.split ok).mem_iff.mpr (List.mem_append_left _ inside))
  have left_positive := done.ok.plain_ok.positive
  -- No order leaves the book in two ways.
  have nodup := done.exits_nodup ok fresh
  rw [List.append_assoc, List.append_assoc, List.nodup_append', List.nodup_append'] at nodup
  obtain ⟨_, ⟨_, _, apart_filled⟩, apart_expired⟩ := nodup
  have canceled_pos : orderId ∈ reply.canceledIds → 1 ≤ reply.canceledOf orderId := by
    rw [done.reply_eq]
    -- A cancelled order held at least one share, so it was not used up by trades.
    intro listed
    obtain ⟨other, inside, _, whole⟩ := act_canceledIds listed
    have := (done.expired_ok ok).positive other inside
    omega
  have canceled_nonneg : 0 ≤ reply.canceledOf orderId := by
    by_cases listed : orderId ∈ reply.canceledIds
    · have := canceled_pos listed
      omega
    · exact (canceledOf_eq_zero listed).ge
  have gone_nonneg := heldOf_nonneg orderId gone_positive
  have left_nonneg := heldOf_nonneg orderId left_positive
  constructor
  · -- A filled order left by filling alone: nothing of it expired, was cancelled, or stays.
    intro filled
    have not_gone : heldOf orderId gone = 0 := heldOf_eq_zero fun other inside same =>
      apart_expired (done.gone_ids ▸ same ▸ List.mem_map_of_mem inside)
        (List.mem_append_left _ filled)
    have not_left : heldOf orderId book'.plain.allResting = 0 := heldOf_eq_zero
      fun other inside same => apart_filled filled
        (List.mem_append_right _ (same ▸ List.mem_map_of_mem inside))
    have not_canceled : reply.canceledOf orderId = 0 := canceledOf_eq_zero fun canceled =>
      apart_filled filled (List.mem_append_left _ canceled)
    omega
  · -- An order that is used up by trades leaves nothing for any other way out.
    intro traded
    have leaves := (done.exits ok).mem_iff.mp (List.mem_append_left _ named)
    rw [List.mem_append, List.mem_append, List.mem_append] at leaves
    rcases leaves with ((closed | filled) | canceled) | stays
    · have := heldOf_pos gone_positive (done.gone_ids ▸ closed)
      omega
    · exact filled
    · have := canceled_pos canceled
      omega
    · have := heldOf_pos left_positive stays
      omega

/-- An order is reported as expired when it was due at the reading that the call expired at. -/
theorem Performed.expired_iff (done : Performed book op book' reply calls gone expired)
    (ok : BookOk book) (ascend : book.config.maxAgeSeconds ≠ 0 → book.plain.StampsAscend)
    {rested : Rested} (member : rested ∈ book.plain.allResting) :
    rested.order.orderId ∈ closedIds .expired calls ↔
      ∃ now, op.expiresAt book.symbol = some now ∧ book.config.maxAgeSeconds ≠ 0 ∧
        rested.restedAt ≤ book.config.cutoff now := by
  have split := (done.split ok).mem_iff (a := rested)
  rw [List.mem_append] at split
  have gone_iff : rested.order.orderId ∈ closedIds .expired calls ↔ rested ∈ gone := by
    rw [done.gone_ids]
    -- Identifiers are distinct, so an expired identifier is that of this very order.
    refine ⟨fun named => ?_, fun inside => List.mem_map_of_mem inside⟩
    obtain ⟨other, inside, same⟩ := List.mem_map.mp named
    have rests := (done.split ok).mem_iff.mpr (List.mem_append_left _ inside)
    exact List.inj_on_of_nodup_map ok.plain_ok.named rests member same ▸ inside
  rw [gone_iff]
  have expiry := done.expiry
  unfold ExpiryOf at expiry
  split at expiry
  · -- The call reads the clock, so every order due at the reading is gone.
    rename_i now visible
    constructor
    · intro inside
      refine ⟨now, visible, fun disabled => ?_, expiry.due rested inside⟩
      rw [expiry.disabled disabled] at inside
      cases inside
    · rintro ⟨now', visible', aged, due⟩
      obtain rfl : now = now' := Option.some_inj.mp (visible.symm.trans visible')
      refine (split.mp member).resolve_right fun stays => ?_
      exact absurd due (not_le.mpr (expiry.thorough aged (ascend aged) rested stays))
  · -- The call does not read the clock, and nothing expires in it.
    rename_i silent
    rw [expiry.1]
    constructor
    · intro inside
      cases inside
    · rintro ⟨now, visible, _⟩
      cases silent.symm.trans visible

end Step

/-- A book about to take a call is told the truth about by the calls it makes back. -/
theorem Clocked.tellsTruth {book book' : OrderBook} {op : BookOp} {later : List BookOp}
    {reply : BookReply} {calls : List Callback} {gone : List Rested} {expired : PlainBook}
    (clocked : Clocked book (op :: later))
    (done : Performed book op book' reply calls gone expired) :
    TellsTruth book op book' reply calls := by
  have ok := clocked.ready.ok
  -- What the operation brings is not at rest yet.
  have fresh : ∀ orderId ∈ op.newIds, book.index.get? orderId = none := fun orderId member =>
    clocked.ready.fresh orderId (by rw [List.flatMap_cons]; exact List.mem_append_left _ member)
  have ascend : book.config.maxAgeSeconds ≠ 0 → book.plain.StampsAscend := fun aged => by
    obtain ⟨_, timed, _⟩ := clocked.timed aged
    exact timed.ascend
  refine ⟨fun orderId => ?_, fun orderId reason closed => ?_, fun rested member => ?_,
    fun rested member => ?_⟩
  · -- An order is said to rest if and only if it is new and at rest now.
    rw [← mem_restedIds]
    exact done.rests_iff ok fresh orderId
  · -- A closed order was at rest before; it neither arrives nor is cancelled in the call.
    rw [← mem_closedIds] at closed
    have before := done.closed_before ok closed
    refine ⟨fun arrives => ?_, fun canceled => ?_, List.mem_map.mp before⟩
    · obtain ⟨ref, found⟩ := (indexed_iff ok.core).mpr before
      rw [fresh orderId arrives] at found
      cases found
    · have nodup := done.exits_nodup ok fresh
      rw [List.nodup_append'] at nodup
      refine (List.nodup_append'.mp nodup.1).2.2 (List.mem_append.mpr ?_) canceled
      cases reason with
      | expired => exact .inl closed
      | filled => exact .inr closed
  · -- Fills and expiries are told by the amounts and the due times.
    rw [← mem_closedIds]
    exact done.filled_iff ok fresh member
  · rw [← mem_closedIds]
    exact done.expired_iff ok ascend member

/-- Whatever calls are made in one operation, those before them came earlier. -/
theorem Preceded.append {past calls : List Callback} (preceded : Preceded past)
    (later : ∀ orderId reason, .close orderId reason ∈ calls → .rest orderId ∈ past) :
    Preceded (past ++ calls) := by
  intro front orderId reason back split
  -- The close is made either among the earlier calls or in the new ones.
  rcases List.append_eq_append_iff.mp split with ⟨middle, rfl, same⟩ | ⟨middle, rfl, same⟩
  · exact List.mem_append_left _
      (later orderId reason (same ▸ List.mem_append_right _ List.mem_cons_self))
  · cases middle with
    | nil =>
      rw [List.nil_append] at same
      have called := later orderId reason (same ▸ List.mem_cons_self)
      rwa [List.append_nil] at called
    | cons first rest =>
      rw [List.cons_append] at same
      obtain ⟨rfl, rfl⟩ := List.cons.inj same
      exact preceded front orderId reason rest rfl

/-- What a run has called back so far is true, and its book goes on under the clock. -/
structure Candid (outputs : Outputs) (book : OrderBook) (later : List BookOp) : Prop where
  clocked : Clocked book later
  fresh : (restedIn outputs ++ later.flatMap BookOp.newIds).Nodup
  accounted : Accounted outputs book
  rested_eq : restedIn outputs = outputs.flatMap fun output => output.1.restingIds
  preceded : Preceded (callsIn outputs)

/-- What a run has called back tells which orders are in its book. -/
theorem Candid.reported {outputs : Outputs} {book : OrderBook} {later : List BookOp}
    (candid : Candid outputs book later) : Reported outputs book := by
  -- Every order that rested left in one way, or is still there.
  have accounted := candid.accounted
  have nodup := accounted.whereabouts.nodup_iff.mp accounted.once
  have whereabouts := fun orderId => accounted.whereabouts.mem_iff (a := orderId)
  simp only [List.nodup_append'] at nodup
  obtain ⟨⟨⟨expired_once, filled_once, apart⟩, _, apart_canceled⟩, _, apart_left⟩ := nodup
  refine ⟨accounted.once, candid.rested_eq, candid.preceded,
    List.nodup_append'.mpr ⟨expired_once, filled_once, apart⟩, fun orderId canceled => ?_,
    fun orderId => ?_⟩
  · -- A cancelled order was neither expired nor filled.
    exact ⟨fun closed => apart_canceled (List.mem_append_left _ closed) canceled,
      fun closed => apart_canceled (List.mem_append_right _ closed) canceled⟩
  · -- The orders in the book are those that rested and have not left.
    rw [indexed_iff candid.clocked.ready.ok.core]
    have here := whereabouts orderId
    simp only [List.mem_append] at here
    constructor
    · intro stays
      refine ⟨here.mpr (.inr stays), fun closed => ?_, fun closed => ?_, fun canceled => ?_⟩
      · exact apart_left (List.mem_append_left _ (List.mem_append_left _ closed)) stays
      · exact apart_left (List.mem_append_left _ (List.mem_append_right _ closed)) stays
      · exact apart_left (List.mem_append_right _ canceled) stays
    · rintro ⟨rests, not_expired, not_filled, not_canceled⟩
      rcases here.mp rests with ((closed | closed) | canceled) | stays
      · exact absurd closed not_expired
      · exact absurd closed not_filled
      · exact absurd canceled not_canceled
      · exact stays

/-- One more operation is reported as truthfully as those before it. -/
theorem Candid.step {past : Outputs} {book : OrderBook} {op : BookOp} {later : List BookOp}
    (candid : Candid past book (op :: later)) : ∃ book' reply calls,
      book.perform op = .ok (book', reply, calls) ∧ TellsTruth book op book' reply calls ∧
        Candid (past ++ [(reply, calls)]) book' later := by
  obtain ⟨book', reply, calls, gone, expired, ran, done, clocked⟩ := candid.clocked.step
  have ready := candid.clocked.ready
  obtain ⟨fresh, accounted⟩ := accounted_step ready candid.fresh candid.accounted done
  refine ⟨book', reply, calls, ran, candid.clocked.tellsTruth done, clocked, fresh, accounted,
    ?_, ?_⟩
  · -- Replies and calls agree on which orders have come to rest.
    have earlier := candid.rested_eq
    simp only [restedIn] at earlier
    simp only [restedIn, List.flatMap_append, List.flatMap_singleton, earlier, done.restedIds_eq]
  · have calls_eq : callsIn (past ++ [(reply, calls)]) = callsIn past ++ calls := by
      simp [callsIn]
    rw [calls_eq]
    refine candid.preceded.append fun orderId reason closed => ?_
    -- An order that closes was in the book, so an earlier call reported that it rested.
    have before := done.closed_before ready.ok (mem_closedIds.mpr closed)
    have rested := candid.accounted.whereabouts.mem_iff.mpr (List.mem_append_right _ before)
    obtain ⟨output, member, inside⟩ := List.mem_flatMap.mp rested
    exact List.mem_flatMap.mpr ⟨output, member, mem_restedIds.mp inside⟩

/-- A run over the first operations has called back the truth. -/
theorem run_candid (config : BookConfig) (before after : List BookOp)
    (distinct : ((before ++ after).flatMap BookOp.newIds).Nodup)
    (clock : ((before ++ after).flatMap BookOp.readings).Pairwise (· ≤ ·)) :
    ∃ book outputs, Machine.run OrderBook.perform (OrderBook.new config) before =
      .ok (book, outputs) ∧ Candid outputs book after := by
  -- Nothing has been called back by an empty book.
  have start : Candid [] (OrderBook.new config) (before ++ after) :=
    ⟨new_clocked config distinct clock, distinct, ⟨.nil, .refl _, rfl⟩, rfl,
      fun front orderId reason back split => by simp [callsIn] at split⟩
  obtain ⟨book, outputs, ran, candid⟩ := Machine.run_history
    (fun past book rest => Candid past book (rest ++ after))
    (fun past book op rest held => by
      obtain ⟨book', reply, calls, ran, _, held'⟩ := held.step
      exact ⟨book', (reply, calls), ran, held'⟩)
    before [] _ start
  exact ⟨book, outputs, ran, by simpa using candid⟩

/-- The calls that a book makes back are true at every call boundary and in every call. -/
theorem run_callbacks (config : BookConfig) (ops : List BookOp)
    (distinct : (ops.flatMap BookOp.newIds).Nodup)
    (clock : (ops.flatMap BookOp.readings).Pairwise (· ≤ ·)) :
    ∃ book outputs, Machine.run OrderBook.perform (OrderBook.new config) ops = .ok (book, outputs) ∧
      Reported outputs book ∧
      ∀ before op after, ops = before ++ op :: after → ∃ middle told next reply calls,
        Machine.run OrderBook.perform (OrderBook.new config) before = .ok (middle, told) ∧
          Reported told middle ∧ middle.perform op = .ok (next, reply, calls) ∧
          TellsTruth middle op next reply calls := by
  obtain ⟨book, outputs, ran, candid⟩ := run_candid config ops []
    (by rwa [List.append_nil]) (by rwa [List.append_nil])
  refine ⟨book, outputs, ran, candid.reported, ?_⟩
  rintro before op after rfl
  -- The part of the run before an operation is a run of its own.
  obtain ⟨middle, told, ran_before, candid'⟩ := run_candid config before (op :: after)
    distinct clock
  obtain ⟨next, reply, calls, stepped, truth, _⟩ := candid'.step
  exact ⟨middle, told, next, reply, calls, ran_before, candid'.reported, stepped, truth⟩

/-- A run with a fill, a cancellation and an expiry. -/
theorem run_callbacks_minute : ∃ book outputs,
    Machine.run OrderBook.perform (OrderBook.new minuteBook) minuteOps = .ok (book, outputs) ∧
      Reported outputs book ∧
      ∀ before op after, minuteOps = before ++ op :: after → ∃ middle told next reply calls,
        Machine.run OrderBook.perform (OrderBook.new minuteBook) before = .ok (middle, told) ∧
          Reported told middle ∧ middle.perform op = .ok (next, reply, calls) ∧
          TellsTruth middle op next reply calls :=
  run_callbacks minuteBook minuteOps (by decide) (by decide +kernel)

end StockMarket
