import StockMarket.Matcher.RegistryLaws

/-! One call on a registered or forgotten book, seen from the whole registry. -/

namespace StockMarket

/-- A call on the book behind a reference, with everything it does. -/
structure Called (registry registry' : Registry) (ref : Nat) (op : BookOp) (reply : BookReply)
    (calls : List Callback) (book book' : OrderBook) (gone : List Rested) (expired : PlainBook) :
    Prop where
  found : registry.objects[ref]? = some book
  fresh : ∀ orderId ∈ op.newIds, orderId ∉ registry.restingIds
  ran : book.perform op = .ok (book', reply, calls)
  done : Performed book op book' reply calls gone expired
  after_eq : registry' = registry.after book.symbol ref book' calls

/-- The map and the registered books agree, apart from orders that are on their way out. -/
structure Tracks (registry : Registry) (leaving : UUID → Prop) : Prop where
  tracked : ∀ symbol orderId, registry.Holds symbol orderId →
    registry.orderSymbols.get? orderId = some symbol
  held : ∀ orderId symbol, registry.orderSymbols.get? orderId = some symbol →
    registry.Holds symbol orderId ∨ leaving orderId

/-- Dropping an order that no registered book holds from the map keeps map and books in agreement. -/
theorem Tracks.forget {registry : Registry} {leaving leaving' : UUID → Prop} {orderId : UUID}
    (tracks : Tracks registry leaving) (nowhere : ∀ symbol, ¬ registry.Holds symbol orderId)
    (others : ∀ other, leaving other → other = orderId ∨ leaving' other) :
    Tracks (registry.forget orderId) leaving' := by
  -- Forgetting touches no book, so the same orders are held as before.
  have holds : ∀ symbol other, (registry.forget orderId).Holds symbol other ↔
      registry.Holds symbol other := holds_congr rfl rfl
  refine ⟨fun symbol other held => ?_, fun other symbol listed => ?_⟩
  · rw [holds] at held
    have differs : other ≠ orderId := fun same => nowhere symbol (same ▸ held)
    rw [Registry.forget, Dict.get?_erase, if_neg differs]
    exact tracks.tracked symbol other held
  · rw [Registry.forget, Dict.get?_erase] at listed
    split at listed
    · cases listed
    · -- Only the forgotten order's own entry is gone.
      rename_i differs
      rw [holds]
      rcases tracks.held other symbol listed with held | out
      · exact .inl held
      · exact .inr ((others other out).resolve_left differs)

/-- A call with a new identifier never fails, whichever book it is on. -/
theorem call_spec {registry : Registry} (ok : RegistryOk registry) {ref : Nat} {book : OrderBook}
    (found : registry.objects[ref]? = some book) (op : BookOp)
    (fresh : ∀ orderId ∈ op.newIds, orderId ∉ registry.restingIds) :
    ∃ registry' reply calls book' gone expired,
      registry.call ref op = .ok (registry', reply, calls) ∧
        Called registry registry' ref op reply calls book book' gone expired := by
  -- The identifiers that are new to the registry are new to the book.
  have new : ∀ orderId ∈ op.newIds, book.index.get? orderId = none := by
    intro orderId member
    rw [unindexed_iff_ids (ok.book_ok found)]
    exact fun rests => fresh orderId member (mem_restingIds.mpr ⟨ref, book, found, rests⟩)
  obtain ⟨book', reply, calls, gone, expired, ran, done⟩ := perform_spec (ok.book_ok found) op new
  refine ⟨_, reply, calls, book', gone, expired, ?_, found, fresh, ran, done, rfl⟩
  simp only [Registry.call, Registry.object, found, ran, Bind.bind, Except.bind, Pure.pure,
    Except.pure]

namespace Called

variable {registry registry' : Registry} {ref : Nat} {op : BookOp} {reply : BookReply}
  {calls : List Callback} {book book' : OrderBook} {gone : List Rested} {expired : PlainBook}

/-- A call does not change the symbol of its book. -/
theorem symbol_eq (called : Called registry registry' ref op reply calls book book' gone expired) :
    book'.symbol = book.symbol := congrArg BookConfig.symbol called.done.config_eq

/-- A call leaves every other book alone. -/
theorem object_eq (called : Called registry registry' ref op reply calls book book' gone expired)
    (other : Nat) : registry'.objects[other]? =
      if other = ref then some book' else registry.objects[other]? := by
  have bound := (List.getElem?_eq_some_iff.mp called.found).1
  rw [called.after_eq]
  show (registry.objects.set ref book')[other]? = _
  rw [List.getElem?_set]
  -- Only the object of the call is written.
  by_cases same : other = ref
  · simp [same, bound]
  · simp [same, Ne.symm same]

/-- A call does not change which books are registered. -/
theorem books_eq (called : Called registry registry' ref op reply calls book book' gone expired) :
    registry'.books = registry.books := by rw [called.after_eq]; rfl

/-- The identifiers that come to rest are new. -/
theorem rested_new (called : Called registry registry' ref op reply calls book book' gone expired)
    {orderId : UUID} (rested : orderId ∈ restedIds calls) : orderId ∉ registry.restingIds :=
  called.fresh orderId (called.done.rested_new rested)

/-- A new identifier is at rest in no single book. -/
theorem fresh_book (called : Called registry registry' ref op reply calls book book' gone expired) :
    ∀ orderId ∈ op.newIds, orderId ∉ book.plain.ids := fun orderId member rests =>
  called.fresh orderId member (mem_restingIds.mpr ⟨ref, book, called.found, rests⟩)

/-- The called book holds what it held or was brought, apart from what left it. -/
theorem mem_ids (called : Called registry registry' ref op reply calls book book' gone expired)
    (ok : RegistryOk registry) {orderId : UUID} : orderId ∈ book'.plain.ids ↔
      (orderId ∈ book.plain.ids ∨ orderId ∈ restedIds calls) ∧
        orderId ∉ droppedIds calls ∧ orderId ∉ reply.canceledIds :=
  called.done.mem_ids (ok.book_ok called.found) called.fresh_book

/-- A call keeps the books in their places and adds only an order submitted in it. -/
theorem grows (called : Called registry registry' ref op reply calls book book' gone expired)
    (ok : RegistryOk registry) : Grows registry registry' op.newIds := by
  -- Only the called book has changed, and it keeps its symbol.
  refine ⟨?_, ?_, ?_⟩
  · intro other object found
    rw [called.object_eq]
    split
    · rename_i same
      rw [same, called.found] at found
      cases found
      exact ⟨book', rfl, called.symbol_eq⟩
    · exact ⟨object, found, rfl⟩
  · intro other object found orderId member
    rw [called.object_eq] at found
    split at found
    · rename_i same
      cases found
      -- What rests now was at rest before, or it is new.
      rcases ((called.mem_ids ok).mp member).1 with old | rested
      · exact .inr ⟨book, same ▸ called.found, called.symbol_eq.symm, old⟩
      · exact .inl (called.done.rested_new rested)
    · exact .inr ⟨object, found, rfl, member⟩
  · intro symbol other listed
    exact .inl (called.books_eq ▸ listed)

/-- A call keeps every book well formed and every identifier in one book. -/
theorem ok (called : Called registry registry' ref op reply calls book book' gone expired)
    (ok : RegistryOk registry) : RegistryOk registry' := by
  have book_ok := ok.book_ok called.found
  have inside : book ∈ registry.objects := List.mem_of_getElem? called.found
  have objects : registry'.objects = registry.objects.set ref book' := by rw [called.after_eq]; rfl
  refine ⟨?_, ?_, ?_, ?_⟩
  · intro object member
    -- Every object is one from before, or the called book.
    rw [objects] at member
    rcases List.mem_or_eq_of_mem_set member with old | rfl
    · exact ok.books_ok object old
    · exact called.done.ok
  · intro object member rested rests
    rw [objects] at member
    rcases List.mem_or_eq_of_mem_set member with old | rfl
    · exact ok.symbols object old rested rests
    · -- An order of the called book was there before or was submitted to it.
      obtain ⟨side, rests⟩ := PlainBook.mem_allResting.mp rests
      rw [called.symbol_eq]
      rcases called.done.origin rests with ⟨before, was, stems⟩ | newcomer
      · rw [stems.order_eq]
        exact ok.symbols book inside before (PlainBook.mem_allResting.mpr ⟨side, was⟩)
      · exact newcomer.submitted.choose_spec.choose_spec.2.1
  · intro symbol other listed
    rw [called.books_eq] at listed
    obtain ⟨object, found, named⟩ := ok.registered symbol other listed
    obtain ⟨object', found', same⟩ := (called.grows ok).kept other object found
    exact ⟨object', found', same.trans named⟩
  · -- Only the called book's part of the list changes, and its newcomers are new everywhere.
    obtain ⟨others, before, after⟩ := objects_split (fun object => object.plain.ids) called.found
    have named : (book.plain.ids ++ others).Nodup := before.nodup_iff.mp ok.named
    rw [List.nodup_append'] at named
    rw [Registry.restingIds, objects, (after book').nodup_iff, List.nodup_append']
    refine ⟨called.done.ok.plain_ok.named, named.2.1, ?_⟩
    intro orderId member other
    rcases ((called.mem_ids ok).mp member).1 with old | rested
    · exact named.2.2 old other
    · exact called.rested_new rested (before.symm.subset (List.mem_append_right _ other))

/-- The map hears of every order that comes to rest and of every one that is filled or expires. -/
theorem get?_map (called : Called registry registry' ref op reply calls book book' gone expired)
    (ok : RegistryOk registry) (orderId : UUID) : registry'.orderSymbols.get? orderId =
      if orderId ∈ restedIds calls then some book.symbol
      else if orderId ∈ droppedIds calls then none else registry.orderSymbols.get? orderId := by
  rw [called.after_eq]
  refine get?_hear registry.orderSymbols orderId fun rested dropped => ?_
  -- What is dropped was at rest, and what comes to rest is new.
  have old := called.done.dropped_sub (ok.book_ok called.found) dropped
  exact called.fresh_book orderId (called.done.rested_new rested) old

/-- A call on a registered book keeps the map and the books in agreement. -/
theorem tracks (called : Called registry registry' ref op reply calls book book' gone expired)
    (ok : RegistryOk registry) {leaving leaving' : UUID → Prop} (tracks : Tracks registry leaving)
    (registered : restedIds calls ≠ [] → registry.books.get? book.symbol = some ref)
    (wider : ∀ orderId, leaving orderId → leaving' orderId)
    (canceled : ∀ orderId ∈ reply.canceledIds, leaving' orderId) : Tracks registry' leaving' := by
  have book_ok := ok.book_ok called.found
  refine ⟨?_, ?_⟩
  · rintro symbol orderId ⟨other, object, listed, found, member⟩
    -- What rests is mapped, in the called book and in the others.
    rw [called.books_eq] at listed
    rw [called.object_eq] at found
    rw [called.get?_map ok]
    split at found
    · -- The order is in the called book, which has the symbol it is registered for.
      rename_i same
      cases found
      obtain ⟨holder, at_ref, named⟩ := ok.registered symbol other listed
      rw [same, called.found] at at_ref
      cases at_ref
      obtain ⟨before, kept, _⟩ := (called.mem_ids ok).mp member
      split
      · rw [named]
      · rename_i unrested
        exact tracks.tracked symbol orderId
          ⟨other, book, listed, same ▸ called.found, before.resolve_right unrested⟩
    · -- The order is in another book, and the call is not about it.
      rename_i differs
      have unrested : orderId ∉ restedIds calls := fun rested =>
        called.rested_new rested (mem_restingIds.mpr ⟨other, object, found, member⟩)
      have kept : orderId ∉ droppedIds calls := fun dropped =>
        differs (ok.same_ref found called.found member (called.done.dropped_sub book_ok dropped))
      rw [if_neg unrested, if_neg kept]
      exact tracks.tracked symbol orderId ⟨other, object, listed, found, member⟩
  · -- What is mapped either rests, or is about to be forgotten.
    intro orderId symbol mapped
    rw [called.get?_map ok] at mapped
    split at mapped
    · rename_i rested
      cases mapped
      by_cases left : orderId ∈ droppedIds calls ∨ orderId ∈ reply.canceledIds
      · rcases left with dropped | away
        · have old := called.done.dropped_sub book_ok dropped
          exact absurd old (called.fresh_book orderId (called.done.rested_new rested))
        · exact .inr (canceled orderId away)
      · rw [not_or] at left
        -- What has come to rest did so in a registered book.
        have listed := registered (List.ne_nil_of_mem rested)
        refine .inl ⟨ref, book', called.books_eq ▸ listed, ?_, ?_⟩
        · rw [called.object_eq, if_pos rfl]
        · exact (called.mem_ids ok).mpr ⟨.inr rested, left.1, left.2⟩
    · split at mapped
      · cases mapped
      · rename_i kept
        rcases tracks.held orderId symbol mapped with ⟨other, object, listed, found, member⟩ | out
        · -- A mapped order that rested before still does, unless the call cancels it.
          by_cases away : orderId ∈ reply.canceledIds
          · exact .inr (canceled orderId away)
          · refine .inl ⟨other, if other = ref then book' else object, called.books_eq ▸ listed,
              ?_, ?_⟩
            · rw [called.object_eq]
              split
              · rfl
              · exact found
            · split
              · rename_i same
                rw [same, called.found] at found
                cases found
                exact (called.mem_ids ok).mpr ⟨.inl member, kept, away⟩
              · exact member
        · exact .inr (wider orderId out)

end Called

section Cancel

variable {registry : Registry}

/-- A registered book of an owned symbol is found as it is. -/
theorem get_present {owned : Ownership} {symbol : String} {ref : Nat}
    (owns : owned.isOwnedSymbol symbol = true) (listed : registry.books.get? symbol = some ref) :
    registry.get owned symbol = (registry, .ok (some ref)) := by
  simp only [Registry.get, owns, not_true_eq_false, if_false, listed]

/-- A cancel of an order in the map calls the book of its symbol and then drops the order. -/
theorem cancel_spec (ok : RegistryOk registry) {owned : Ownership} {symbol : String}
    {orderId : UUID} {ref : Nat} {book : OrderBook}
    (mapped : registry.orderSymbols.get? orderId = some symbol)
    (owns : owned.isOwnedSymbol symbol = true) (listed : registry.books.get? symbol = some ref)
    (found : registry.objects[ref]? = some book) (now : ℚ) :
    ∃ registry' reply calls book' gone expired,
      registry.cancel owned orderId now = .ok (registry'.forget orderId, .ok reply) ∧
        Called registry registry' ref (.cancel orderId now) reply calls book book' gone expired := by
  obtain ⟨registry', reply, calls, book', gone, expired, ran, called⟩ :=
    call_spec ok found (.cancel orderId now) (by simp [BookOp.newIds])
  -- The map says which book to call, and the order is dropped from it afterwards.
  refine ⟨registry', reply, calls, book', gone, expired, ?_, called⟩
  simp only [Registry.cancel, mapped, get_present owns listed, ran, Bind.bind, Except.bind,
    Pure.pure, Except.pure]

/-- A cancel returns a resting order that is not due to expire. -/
theorem Performed.cancel_reply {book book' : OrderBook} {orderId : UUID} {now : ℚ}
    {reply : BookReply} {calls : List Callback} {gone : List Rested} {expired : PlainBook}
    (done : Performed book (.cancel orderId now) book' reply calls gone expired) (ok : BookOk book)
    {rested : Rested} (member : rested ∈ book.plain.allResting)
    (named : rested.order.orderId = orderId)
    (young : book.config.maxAgeSeconds = 0 ∨ book.config.cutoff now < rested.restedAt) :
    reply = .canceled rested.asOpenOrder := by
  have expiry : ExpiryAt now book.plain gone expired := done.expiry
  have spared : rested ∉ gone := by
    intro away
    rcases young with disabled | fresh
    · have none_gone := expiry.disabled disabled
      rw [none_gone] at away
      exact absurd away List.not_mem_nil
    · exact absurd (expiry.due rested away) (not_le.mpr fresh)
  have still := (List.mem_append.mp ((done.split ok).subset member)).resolve_left spared
  -- Identifiers are distinct, so looking the order up finds this one.
  have found : expired.find? orderId = some rested := by
    cases looked : expired.find? orderId with
    | none => exact absurd (List.find?_eq_none.mp looked rested still) (by simp [named])
    | some other =>
      have same : other.order.orderId = orderId := of_decide_eq_true (List.find?_some looked :)
      rw [List.inj_on_of_nodup_map (done.expired_ok ok).named (List.mem_of_find?_eq_some looked) still
        (same.trans named.symm)]
  rw [done.reply_eq]
  simp only [PlainBook.act, PlainBook.takeOut, found, BookReply.ofResult]

end Cancel

end StockMarket
