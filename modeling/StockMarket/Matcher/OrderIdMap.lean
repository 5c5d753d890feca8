import StockMarket.Matcher.Conservation

/-! The map of order identifiers tracks the resting orders, as long as no submit outlives its book. -/

namespace StockMarket

/-- The map lists exactly the orders at rest in the registered books, under their books' symbols. -/
def Registry.Faithful (registry : Registry) : Prop :=
  ∀ orderId symbol, registry.orderSymbols.get? orderId = some symbol ↔
    registry.Holds symbol orderId

/-- A cancel of this order, at a time when the order is not due to expire, returns it. -/
def Registry.Cancelable (registry : Registry) (owned : Ownership) (orderId : UUID) : Prop :=
  ∃ (book : OrderBook) (rested : Rested), registry.bookOf rested.order.symbol = some book ∧
    rested.order.orderId = orderId ∧
    ∀ now, book.config.maxAgeSeconds = 0 ∨ book.config.cutoff now < rested.restedAt →
      ∃ registry', registry.cancel owned orderId now =
        .ok (registry', .ok (.canceled rested.asOpenOrder))

/-- An event after which an order is no longer expected in its book. -/
def Event.ends (orderId : UUID) : Event → Prop
  | .filled other => other = orderId
  | .expired other _ => other = orderId
  | .canceled taken => taken.order.orderId = orderId
  | .cleared => True
  | _ => False

/-- A submit goes on with a book that is still registered for its symbol. -/
def System.current (system : System) : Action → Bool
  | .resume thread _ _ =>
    match system.calls.get? thread with
    | some (.submitting order ref) => system.registry.books.get? order.symbol = some ref
    | _ => true
  | _ => true

/-- The books and the map agree, and every order reported as resting is there unless it has ended. -/
structure Tracking (owned : Ownership) (past : List Event) (system : System) : Prop where
  tracks : Tracks system.registry system.Leaving
  kept : ∀ before order result after, past = before ++ .matched order result :: after →
    result.remainingQuantity ≠ 0 →
      system.registry.Holds order.symbol order.orderId ∨ ∃ event ∈ after, event.ends order.orderId
  owned_books : ∀ symbol ref, system.registry.books.get? symbol = some ref →
    owned.isOwnedSymbol symbol = true

section Step

variable {owned : Ownership} {past events : List Event} {system system' : System} {action : Action}
  {later : List Action}

/-- Sections that leave the held orders and the map alone keep them in agreement. -/
theorem Tracks.same {registry registry' : Registry} {leaving leaving' : UUID → Prop}
    (tracks : Tracks registry leaving)
    (holds : ∀ symbol orderId, registry'.Holds symbol orderId ↔ registry.Holds symbol orderId)
    (symbols : registry'.orderSymbols = registry.orderSymbols)
    (same : ∀ orderId, leaving' orderId ↔ leaving orderId) : Tracks registry' leaving' := by
  refine ⟨fun symbol orderId held => ?_, fun orderId symbol listed => ?_⟩
  · -- An order that is held is listed, before and after.
    rw [symbols]
    exact tracks.tracked symbol orderId ((holds symbol orderId).mp held)
  · rw [symbols] at listed
    rw [holds, same]
    exact tracks.held orderId symbol listed

/-- A section that rests an order does so in a book that is still registered. -/
theorem Section.registered {ref : Nat} {op : BookOp} {reply : BookReply} {calls : List Callback}
    {book book' : OrderBook} {gone : List Rested} {expired : PlainBook}
    (called : Called system.registry system'.registry ref op reply calls book book' gone expired)
    (submitted : ∀ order now restAt, op = .submit order now restAt →
      order.symbol = book.symbol ∧ ∃ thread, action = .resume thread now restAt ∧
        system.calls.get? thread = some (.submitting order ref))
    (current : system.current action = true) (rests : restedIds calls ≠ []) :
    system.registry.books.get? book.symbol = some ref := by
  -- Only a submit rests orders, and its book is the registered one.
  cases op with
  | submit order now restAt =>
    obtain ⟨own, thread, rfl, waits⟩ := submitted order now restAt rfl
    simp only [System.current, waits, decide_eq_true_eq] at current
    exact own ▸ current
  | _ => exact absurd (List.sublist_nil.mp called.done.rested_sub) rests

/-- One section keeps the map and the registered books in agreement. -/
theorem Section.tracks (made : Section owned system action system' events)
    (ok : SystemOk past system (action :: later)) (tracks : Tracks system.registry system.Leaving)
    (current : system.current action = true) : Tracks system'.registry system'.Leaving := by
  cases made with
  | idle objects_eq books_eq symbols_eq leaving =>
    exact tracks.same (holds_congr objects_eq books_eq) symbols_eq leaving
  | got got leaving => exact tracks.same (fun _ _ => got.holds_iff) got.symbols_eq leaving
  | called called leaving away submitted =>
    exact called.tracks ok.registry_ok tracks (Section.registered called submitted current)
      leaving away
  -- Only this identifier is dropped, and no book holds it.
  | @forgot orderId registry_eq leaving nowhere =>
    rw [registry_eq]
    refine tracks.forget nowhere fun other out => ?_
    by_cases same : other = orderId
    · exact .inl same
    · exact .inr ((leaving other out).resolve_right same)
  -- After a rollover neither a book nor an entry of the map is left.
  | rolled rolls objects_eq books_eq symbols_eq =>
    refine ⟨fun symbol orderId held => ?_, fun orderId symbol listed => ?_⟩
    · obtain ⟨ref, _, listed, _⟩ := held
      rw [books_eq] at listed
      cases listed
    · rw [symbols_eq] at listed
      cases listed

/-- A closed order is reported in the events of the call that closed it. -/
theorem ends_of_dropped {book : OrderBook} {op : BookOp} {reply : BookReply}
    {calls : List Callback} {orderId : UUID} (dropped : orderId ∈ droppedIds calls) :
    ∃ event ∈ callEvents book op reply calls, event.ends orderId := by
  -- A closed order has expired or was filled.
  rcases List.mem_append.mp dropped with expired | filled
  · have listed : (orderId, book.remainingOf orderId) ∈
        expiriesOf (callEvents book op reply calls) := by
      rw [expiriesOf_call]
      exact List.mem_map_of_mem expired
    obtain ⟨event, member, found⟩ := List.mem_filterMap.mp listed
    refine ⟨event, member, ?_⟩
    cases event <;> cases found
    exact rfl
  · -- A fill is recorded as the event of its order.
    have listed : orderId ∈ fillsOf (callEvents book op reply calls) := by
      rw [fillsOf_call]
      exact filled
    obtain ⟨event, member, found⟩ := List.mem_filterMap.mp listed
    refine ⟨event, member, ?_⟩
    cases event <;> cases found
    exact rfl

/-- A cancelled order is reported in the events of the call that cancelled it. -/
theorem ends_of_canceled {book : OrderBook} {op : BookOp} {reply : BookReply}
    {calls : List Callback} {orderId : UUID} (canceled : orderId ∈ reply.canceledIds) :
    ∃ event ∈ callEvents book op reply calls, event.ends orderId := by
  -- What is listed as cancelled comes from one of the events.
  rw [← canceledIds_call book op reply calls] at canceled
  obtain ⟨taken, listed, rfl⟩ := List.mem_map.mp canceled
  obtain ⟨event, member, found⟩ := List.mem_filterMap.mp listed
  refine ⟨event, member, ?_⟩
  cases event <;> cases found
  exact rfl

/-- An order in a registered book stays there until an event ends it. -/
theorem Section.holds (made : Section owned system action system' events)
    (ok : SystemOk past system (action :: later)) {symbol : String} {orderId : UUID}
    (held : system.registry.Holds symbol orderId) :
    system'.registry.Holds symbol orderId ∨ ∃ event ∈ events, event.ends orderId := by
  cases made with
  | idle objects_eq books_eq => exact .inl ((holds_congr objects_eq books_eq _ _).mpr held)
  | got got => exact .inl (got.holds_iff.mpr held)
  | @called ref op reply calls book book' gone expired called =>
    obtain ⟨other, object, listed, found, member⟩ := held
    -- Only the book of the call has changed.
    by_cases same : other = ref
    · rw [same, called.found] at found
      cases found
      -- The order stays in that book unless it was closed or cancelled.
      by_cases dropped : orderId ∈ droppedIds calls
      · exact .inr (ends_of_dropped dropped)
      · by_cases canceled : orderId ∈ reply.canceledIds
        · exact .inr (ends_of_canceled canceled)
        · refine .inl ⟨other, book', called.books_eq ▸ listed, ?_, ?_⟩
          · rw [called.object_eq, if_pos same]
          · exact (called.mem_ids ok.registry_ok).mpr ⟨.inl member, dropped, canceled⟩
    · refine .inl ⟨other, object, called.books_eq ▸ listed, ?_, member⟩
      rw [called.object_eq, if_neg same]
      exact found
  | forgot registry_eq =>
    exact .inl ((holds_congr (by rw [registry_eq]; rfl) (by rw [registry_eq]; rfl) _ _).mpr held)
  | rolled rolls objects_eq books_eq symbols_eq announced =>
    -- A rollover is announced, unless no book was there.
    rcases announced with rfl | ⟨_, empty⟩
    · exact .inr ⟨.cleared, List.mem_singleton_self _, trivial⟩
    · obtain ⟨ref, _, listed, _⟩ := held
      have key : symbol ∈ system.registry.books.keys := Dict.mem_keys_iff.mpr ⟨ref, listed⟩
      rw [empty] at key
      exact absurd key List.not_mem_nil

/-- A submit that reports a remaining quantity leaves its order in the registered book. -/
theorem Section.rests (made : Section owned system action system' events)
    (ok : SystemOk past system (action :: later)) (current : system.current action = true)
    {order : Order} {result : MatchResult} (returned : (order, result) ∈ matchesOf events)
    (left : result.remainingQuantity ≠ 0) :
    system'.registry.Holds order.symbol order.orderId := by
  cases made with
  | @called ref op reply calls book book' gone expired called leaving away submitted =>
    have own := fun order now restAt same => (submitted order now restAt same).1
    -- The order of the returned result was reported as resting.
    have rested : order.orderId ∈ restedIds calls := by
      rw [(called.done.matched_parts own).2.2]
      exact List.mem_map.mpr ⟨(order, result), List.mem_filter.mpr ⟨returned, by simpa using left⟩, rfl⟩
    have listed := Section.registered called submitted current (List.ne_nil_of_mem rested)
    have new := called.done.rested_new rested
    -- Only a submit brings the order in.
    cases op with
    | submit order' now restAt =>
      obtain ⟨found, answered⟩ := called.done.matches_eq (own order' now restAt rfl)
      rw [found, List.mem_singleton] at returned
      cases returned
      refine ⟨ref, book', ?_, by rw [called.object_eq, if_pos rfl], ?_⟩
      · rw [called.books_eq, own order now restAt rfl]
        exact listed
      · -- A new order is neither filled nor expired, and a submit cancels nothing.
        refine (called.mem_ids ok.registry_ok).mpr ⟨.inr rested, fun dropped => ?_, ?_⟩
        · have old := called.done.dropped_sub (ok.registry_ok.book_ok called.found) dropped
          exact called.fresh_book order.orderId new old
        · rw [answered]
          exact List.not_mem_nil
    | _ => exact absurd new List.not_mem_nil
  | idle => exact absurd returned List.not_mem_nil
  | got => exact absurd returned List.not_mem_nil
  | forgot => exact absurd returned List.not_mem_nil
  | rolled rolls objects_eq books_eq symbols_eq announced =>
    rcases announced with rfl | ⟨rfl, _⟩ <;> exact absurd returned List.not_mem_nil

/-- Only owned symbols get a book. -/
theorem Section.owned_books (made : Section owned system action system' events)
    (owns : ∀ symbol ref, system.registry.books.get? symbol = some ref →
      owned.isOwnedSymbol symbol = true) (symbol : String) (ref : Nat)
    (listed : system'.registry.books.get? symbol = some ref) :
    owned.isOwnedSymbol symbol = true := by
  -- Sections that leave the registered books alone do not matter.
  cases made with
  | idle objects_eq books_eq => exact owns symbol ref (books_eq ▸ listed)
  | got got => exact (got.books_new symbol ref listed).elim (owns symbol ref) id
  | called called => exact owns symbol ref (called.books_eq ▸ listed)
  | forgot registry_eq => rw [registry_eq] at listed; exact owns symbol ref listed
  | rolled rolls objects_eq books_eq => rw [books_eq] at listed; cases listed

/-- Every section of a submit whose book is still registered keeps track of all resting orders. -/
theorem Tracking.step (tracking : Tracking owned past system)
    (ok : SystemOk past system (action :: later))
    (made : Section owned system action system' events) (current : system.current action = true) :
    Tracking owned (past ++ events) system' := by
  refine ⟨made.tracks ok tracking.tracks current, ?_, made.owned_books tracking.owned_books⟩
  intro before order result after recorded left
  -- The record is cut in this section's events or before them.
  rcases List.append_eq_append_iff.mp recorded with
    ⟨more, before_eq, events_eq⟩ | ⟨more, past_eq, rest_eq⟩
  · -- The submit returned in this section.
    refine .inl (made.rests ok current ?_ left)
    rw [events_eq]
    exact List.mem_filterMap.mpr ⟨.matched order result, by simp, rfl⟩
  · cases more with
    | nil =>
      refine .inl (made.rests ok current ?_ left)
      rw [List.nil_append] at rest_eq
      rw [← rest_eq]
      exact List.mem_filterMap.mpr ⟨.matched order result, by simp, rfl⟩
    | cons head tail =>
      -- The submit returned earlier, and its order is where it was or has ended since.
      rw [List.cons_append, List.cons.injEq] at rest_eq
      obtain ⟨rfl, rfl⟩ := rest_eq
      rcases tracking.kept before order result tail past_eq left with held | ⟨event, member, ended⟩
      · rcases made.holds ok held with still | ⟨event, member, ended⟩
        · exact .inl still
        · exact .inr ⟨event, List.mem_append_right _ member, ended⟩
      · exact .inr ⟨event, List.mem_append_left _ member, ended⟩

end Step

section Runs

variable {owned : Ownership} {past : List Event} {system : System}

/-- When no call is in progress, the map lists exactly the orders in registered books. -/
theorem Tracking.faithful (tracking : Tracking owned past system) (quiet : system.Quiet) :
    system.registry.Faithful := by
  intro orderId symbol
  constructor
  · -- An entry whose order is leaving has a call in progress.
    intro listed
    rcases tracking.tracks.held orderId symbol listed with held | ⟨thread, waits⟩
    · exact held
    · rw [quiet thread] at waits
      cases waits
  · exact tracking.tracks.tracked symbol orderId

/-- An order in a registered book can be cancelled until it is due to expire. -/
theorem Tracking.cancelable (tracking : Tracking owned past system)
    (ok : RegistryOk system.registry) {symbol : String} {orderId : UUID}
    (held : system.registry.Holds symbol orderId) : system.registry.Cancelable owned orderId := by
  obtain ⟨ref, book, listed, found, member⟩ := held
  -- The book is the registered one of the order's own symbol.
  have mapped := tracking.tracks.tracked symbol orderId ⟨ref, book, listed, found, member⟩
  have owns := tracking.owned_books symbol ref listed
  obtain ⟨rested, resting, named⟩ := List.mem_map.mp member
  obtain ⟨object, at_ref, same⟩ := ok.registered symbol ref listed
  rw [found] at at_ref
  cases at_ref
  have own := ok.symbols book (List.mem_of_getElem? found) rested resting
  refine ⟨book, rested, ?_, named, fun now young => ?_⟩
  · rw [Registry.bookOf, own, same, listed]
    exact found
  · -- The cancel is answered with the order, as it is too young to expire.
    obtain ⟨registry', reply, _, _, _, _, ran, called⟩ :=
      cancel_spec ok mapped owns listed found now
    have answered := called.done.cancel_reply (ok.book_ok found) resting named young
    exact ⟨registry'.forget orderId, by rw [ran, answered]⟩

/-- Nothing is tracked at the start. -/
theorem Tracking.new : Tracking owned [] .new := by
  -- There are no books, no orders and no events.
  refine ⟨⟨?_, ?_⟩, ?_, ?_⟩
  · rintro symbol orderId ⟨ref, _, listed, _⟩
    cases listed
  · exact fun orderId symbol listed => nomatch listed
  · exact fun before order result after recorded => by simp at recorded
  · exact fun symbol ref listed => nomatch listed

/--
When every submit goes on with a book that is still registered, the map is faithful in every quiet
state, and every order reported as resting can be cancelled unless an event has ended it since.
-/
theorem run_faithful (owned : Ownership) (actions : List Action)
    (distinct : (actions.flatMap Action.newIds).Nodup)
    (current : Machine.throughout (System.step owned) System.current .new actions = true) :
    ∃ system sections, Machine.run (System.step owned) .new actions = .ok (system, sections) ∧
      (system.Quiet → system.registry.Faithful) ∧
      ∀ before order result after, sections.flatten = before ++ .matched order result :: after →
        result.remainingQuantity ≠ 0 → system.registry.Cancelable owned order.orderId ∨
          ∃ event ∈ after, event.ends order.orderId := by
  -- The map is tracked from action to action, as long as each book is current.
  obtain ⟨system, sections, ran, ok, tracking, _⟩ := Machine.run_history
    (fun past system later => SystemOk past.flatten system later ∧
      Tracking owned past.flatten system ∧
      Machine.throughout (System.step owned) System.current system later = true)
    (fun past system action later held => by
      obtain ⟨ok, tracking, current⟩ := held
      obtain ⟨system', events, stepped, ok', made⟩ := ok.step owned
      obtain ⟨here, beyond⟩ := (Machine.throughout_cons stepped).mp current
      refine ⟨system', events, stepped, ?_, ?_, beyond⟩
      · simpa using ok'
      · simpa using tracking.step ok made here)
    actions [] _ ⟨.new distinct, .new, current⟩
  -- What was kept track of is that the map finds every order that rests.
  refine ⟨system, sections, ran, tracking.faithful, ?_⟩
  intro before order result after recorded left
  exact (tracking.kept before order result after recorded left).imp_left
    (tracking.cancelable ok.registry_ok)

/-- A matcher of one symbol whose orders rest for ever. -/
def lastingOwner : Ownership := ⟨["005930"], 0⟩

/-- A cancel that has found its order's book goes on after the session has changed. -/
def outlivedActions : List Action :=
  [.rollover (some 1), .submit 0 fiveOffered, .resume 0 0 0, .cancel 1 1, .rollover (some 2),
    .submit 2 twoWanted, .resume 1 1 1, .resume 2 1 1, .resume 1 1 1, .resume 1 1 1]

/-- An order outlives its book, and the map is faithful throughout. -/
theorem run_faithful_outlived : ∃ system sections,
    Machine.run (System.step lastingOwner) .new outlivedActions = .ok (system, sections) ∧
      (system.Quiet → system.registry.Faithful) ∧
      ∀ before order result after, sections.flatten = before ++ .matched order result :: after →
        result.remainingQuantity ≠ 0 → system.registry.Cancelable lastingOwner order.orderId ∨
          ∃ event ∈ after, event.ends order.orderId :=
  run_faithful lastingOwner outlivedActions (by decide) (by decide)

/-- A submit has found its book when the session changes, and then rests its order in that book. -/
def staleActions : List Action :=
  [.rollover (some 1), .submit 0 fiveOffered, .rollover (some 2), .resume 0 0 0]

/-- The order of a submit that outlived its book stays in the map, although no book holds it. -/
theorem stale_submit_leaks : (staleActions.flatMap Action.newIds).Nodup ∧ ∃ system sections,
    Machine.run (System.step lastingOwner) .new staleActions = .ok (system, sections) ∧
      system.Quiet ∧ ¬ system.registry.Faithful := by
  refine ⟨by decide, _, _, rfl, fun _ => rfl, fun faithful => ?_⟩
  obtain ⟨ref, _, listed, _⟩ := (faithful 1 "005930").mp rfl
  exact absurd listed nofun

end Runs

end StockMarket
