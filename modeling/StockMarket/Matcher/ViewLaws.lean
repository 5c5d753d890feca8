import StockMarket.Matcher.Conservation
import StockMarket.Matcher.Views

/-! Every request of a matcher is the work of one symbol's book, and leaves all other books alone. -/

namespace StockMarket

/-- Between requests the map and the registered books agree, and only owned symbols have books. -/
structure MatcherOk (settings : MatcherSettings) (registry : Registry) : Prop where
  registry_ok : RegistryOk registry
  tracks : Tracks registry fun _ => False
  owned_books : ∀ symbol ref, registry.books.get? symbol = some ref →
    settings.owned.isOwnedSymbol symbol = true

/-- One symbol's book turns into another, and the books of all other symbols stay. -/
structure Turned (settings : MatcherSettings) (registry registry' : Registry) (symbol : String)
    (book' : OrderBook) (newcomers : List UUID) : Prop where
  ok : MatcherOk settings registry'
  book_eq : registry'.bookOf symbol = some book'
  others : ∀ other, other ≠ symbol → registry'.bookOf other = registry.bookOf other
  resting : ∀ orderId ∈ registry'.restingIds, orderId ∈ newcomers ∨ orderId ∈ registry.restingIds

/-- The construction arguments of a symbol's book. -/
def MatcherSettings.bookConfig (settings : MatcherSettings) (symbol : String)
    (named : isBlank symbol = false) : BookConfig :=
  ⟨symbol, recentTradeCapacityDefault, settings.maxAgeSeconds, named, by decide,
    settings.maxAge_nonneg⟩

/-- The book of a symbol, a new one when there is none yet. -/
def Registry.bookOrNew (registry : Registry) (settings : MatcherSettings) (symbol : String)
    (named : isBlank symbol = false) : OrderBook :=
  (registry.bookOf symbol).getD (.new (settings.bookConfig symbol named))

/-- No maximum age is an allowed one. -/
theorem noAge_nonneg : (0 : ℚ) ≤ 0 := le_refl 0

/-- The symbols that a process matches are its slice of the universe. -/
theorem MatcherSettings.owned_slice (settings : MatcherSettings) :
    ownedTickers settings.tickers settings.shardIndex settings.shardCount =
      .ok settings.owned.tickers := by
  -- The index was checked against the count, so the slice exists.
  have slices : ∃ owned, ownedTickers settings.tickers settings.shardIndex settings.shardCount =
    .ok owned := ownedTickers_ok settings.shard_inside
  obtain ⟨owned, slice⟩ := slices
  simp only [MatcherSettings.owned, slice]

/-- A constructed order has the symbol and the identifier it was given. -/
theorem create_eq {userId symbol : String} {side : OrderSide} {price quantity : Int} {orderId : UUID}
    {order : Order} (created : Order.create userId symbol side price quantity orderId = .ok order) :
    order.symbol = symbol ∧ order.orderId = orderId := by
  -- Four checks stand before the construction, and each one raises when it fails.
  unfold Order.create at created
  split at created
  · split at created
    · split at created
      · split at created
        · cases created
          exact ⟨rfl, rfl⟩
        · cases created
      · cases created
    · cases created
  · cases created

/-- A valid order has the symbol of its request and the identifier it was given. -/
theorem createOrder_eq {data : OrderData} {orderId : UUID} {order : Order}
    (created : data.createOrder orderId = .ok order) : order.orderId = orderId ∧
      ∃ fields, data = .given fields ∧ charField 6 fields.symbol = .ok order.symbol := by
  unfold OrderData.createOrder at created
  split at created
  · cases created
  · rename_i fields
    split at created
    · -- Every field is valid, and so is the order unless construction fails.
      rename_i named _ _ _
      split at created
      · rename_i made
        cases created
        obtain ⟨symbol_eq, id_eq⟩ := create_eq made
        exact ⟨id_eq, fields, rfl, symbol_eq ▸ named⟩
      · cases created
    · cases created

section Books

variable {settings : MatcherSettings} {registry registry' registry'' : Registry} {symbol : String}
  {book book' book'' : OrderBook} {first second : List UUID}

/-- Two changes of one symbol's book are one. -/
theorem Turned.trans (turned : Turned settings registry registry' symbol book' first)
    (again : Turned settings registry' registry'' symbol book'' second) :
    Turned settings registry registry'' symbol book'' (first ++ second) := by
  refine ⟨again.ok, again.book_eq, fun other differs => ?_, fun orderId member => ?_⟩
  · rw [again.others other differs, turned.others other differs]
  · -- An order at rest is new in the second change, or it is one of the first.
    rcases again.resting orderId member with new | before
    · exact .inl (List.mem_append_right _ new)
    · exact (turned.resting orderId before).imp_left (List.mem_append_left _)

/-- The book of a symbol is the object its reference names. -/
theorem bookOf_eq_some_iff : registry.bookOf symbol = some book ↔
    ∃ ref, registry.books.get? symbol = some ref ∧ registry.objects[ref]? = some book :=
  Option.bind_eq_some_iff

/-- A symbol's book is well formed, has the symbol, and holds orders for it. -/
theorem MatcherOk.book_ok (ok : MatcherOk settings registry)
    (found : registry.bookOf symbol = some book) : BookOk book ∧ book.symbol = symbol ∧
      ∀ rested ∈ book.plain.allResting, rested.order.symbol = symbol := by
  -- The book of a symbol is the object registered for it.
  obtain ⟨ref, listed, at_ref⟩ := bookOf_eq_some_iff.mp found
  obtain ⟨object, at_ref', named⟩ := ok.registry_ok.registered symbol ref listed
  rw [at_ref] at at_ref'
  cases at_ref'
  have inside := List.mem_of_getElem? at_ref
  exact ⟨ok.registry_ok.books_ok book inside, named,
    fun rested member => named ▸ ok.registry_ok.symbols book inside rested member⟩

/-- A symbol's book holds exactly the orders that the map lists under the symbol. -/
theorem MatcherOk.mapped_iff (ok : MatcherOk settings registry) {orderId : UUID} :
    registry.orderSymbols.get? orderId = some symbol ↔
      ∃ book, registry.bookOf symbol = some book ∧ orderId ∈ book.plain.ids := by
  -- No order is leaving between two requests, so that the map is exact.
  constructor
  · intro listed
    obtain ⟨ref, book, at_symbol, at_ref, member⟩ :=
      (ok.tracks.held orderId symbol listed).resolve_right id
    exact ⟨book, bookOf_eq_some_iff.mpr ⟨ref, at_symbol, at_ref⟩, member⟩
  · rintro ⟨book, found, member⟩
    obtain ⟨ref, at_symbol, at_ref⟩ := bookOf_eq_some_iff.mp found
    exact ok.tracks.tracked symbol orderId ⟨ref, book, at_symbol, at_ref, member⟩

/-- The orders of a registered book are at rest in the registry. -/
theorem resting_of_bookOf (found : registry.bookOf symbol = some book) {orderId : UUID}
    (member : orderId ∈ book.plain.ids) : orderId ∈ registry.restingIds := by
  obtain ⟨ref, _, at_ref⟩ := bookOf_eq_some_iff.mp found
  exact mem_restingIds.mpr ⟨ref, book, at_ref, member⟩

/-- An owned symbol's book is found, or created on the spot. -/
theorem MatcherOk.get_spec (ok : MatcherOk settings registry)
    (owns : settings.owned.isOwnedSymbol symbol = true) (named : isBlank symbol = false) :
    ∃ registry' ref, registry.get settings.owned symbol = (registry', .ok (some ref)) ∧
      Turned settings registry registry' symbol (registry.bookOrNew settings symbol named) [] ∧
      registry'.books.get? symbol = some ref ∧
      registry'.objects[ref]? = some (registry.bookOrNew settings symbol named) := by
  have got := StockMarket.get_spec ok.registry_ok settings.owned symbol
  -- Every result of a lookup keeps the matcher in order.
  have ok' : ∀ registry' result, Got settings.owned registry symbol registry' result →
      MatcherOk settings registry' := by
    intro registry' result got
    refine ⟨got.ok, ⟨fun other orderId held => ?_, fun orderId other listed => ?_⟩, ?_⟩
    · rw [got.symbols_eq]
      exact ok.tracks.tracked other orderId (got.holds_iff.mp held)
    · rw [got.symbols_eq] at listed
      exact .inl (got.holds_iff.mpr ((ok.tracks.held orderId other listed).resolve_right id))
    · exact fun other ref listed => (got.books_new other ref listed).elim (ok.owned_books other ref) id
  cases listed : registry.books.get? symbol with
  | some ref =>
    obtain ⟨book, at_ref, _⟩ := ok.registry_ok.registered symbol ref listed
    have here : registry.bookOf symbol = some book := bookOf_eq_some_iff.mpr ⟨ref, listed, at_ref⟩
    have same : registry.bookOrNew settings symbol named = book := by
      rw [Registry.bookOrNew, here]
      rfl
    rw [same]
    exact ⟨registry, ref, get_present owns listed, ⟨ok, here, fun _ _ => rfl, fun _ => .inr⟩, listed,
      at_ref⟩
  | none =>
    -- A symbol without a book gets a new one, registered under it.
    have absent : registry.bookOf symbol = none := by
      rw [Registry.bookOf, listed]
      rfl
    have same : registry.bookOrNew settings symbol named =
        .new (settings.bookConfig symbol named) := by
      rw [Registry.bookOrNew, absent]
      rfl
    have sized : 1 ≤ recentTradeCapacityDefault := by decide
    have aged : 0 ≤ settings.owned.maxAgeSeconds := settings.maxAge_nonneg
    have created : BookConfig.create symbol recentTradeCapacityDefault
        settings.owned.maxAgeSeconds = .ok (settings.bookConfig symbol named) := by
      rw [BookConfig.create, dif_pos named, dif_pos sized, dif_pos aged]
      rfl
    have looked : registry.get settings.owned symbol = ({ registry with
        objects := registry.objects ++ [OrderBook.new (settings.bookConfig symbol named)]
        books := registry.books.set symbol registry.objects.length },
        .ok (some registry.objects.length)) := by
      simp only [Registry.get, owns, not_true_eq_false, if_false, listed, created]
    rw [looked] at got
    rw [same]
    refine ⟨_, registry.objects.length, looked, ⟨ok' _ _ got, ?_, ?_, ?_⟩, by simp, by simp⟩
    · rw [bookOf_eq_some_iff]
      exact ⟨registry.objects.length, by simp, by simp⟩
    · intro other differs
      rw [Registry.bookOf, Registry.bookOf, Dict.get?_set, if_neg differs]
      cases at_other : registry.books.get? other with
      | none => rfl
      | some ref =>
        obtain ⟨object, at_ref, _⟩ := ok.registry_ok.registered other ref at_other
        exact List.getElem?_append_left (List.getElem?_eq_some_iff.mp at_ref).1
    · intro orderId member
      exact got.grows.resting member

/-- A call on a symbol's book changes that book alone, whatever is then dropped from the map. -/
theorem MatcherOk.turned (ok : MatcherOk settings registry) {ref : Nat} {op : BookOp}
    {reply : BookReply} {calls : List Callback} {gone : List Rested} {expired : PlainBook}
    (listed : registry.books.get? symbol = some ref)
    (called : Called registry registry' ref op reply calls book book' gone expired)
    (objects : registry''.objects = registry'.objects) (books : registry''.books = registry'.books)
    (tracks : Tracks registry'' fun _ => False) :
    Turned settings registry registry'' symbol book' op.newIds := by
  obtain ⟨object, at_ref, own⟩ := ok.registry_ok.registered symbol ref listed
  rw [called.found] at at_ref
  cases at_ref
  have same : registry''.books = registry.books := books.trans called.books_eq
  have unlisted : ∀ other place, registry''.books.get? other = some place →
      registry'.books.get? other = some place := fun other place at_other => books ▸ at_other
  have found' : registry'.objects[ref]? = some book' := by rw [called.object_eq, if_pos rfl]
  refine ⟨⟨(called.ok ok.registry_ok).withBooks objects unlisted, tracks, ?_⟩, ?_, ?_, ?_⟩
  · exact fun other place at_other => ok.owned_books other place (same ▸ at_other)
  · exact bookOf_eq_some_iff.mpr ⟨ref, same ▸ listed, objects ▸ found'⟩
  · intro other differs
    rw [Registry.bookOf, Registry.bookOf, same, objects]
    cases at_other : registry.books.get? other with
    | none => rfl
    | some place =>
      -- Another symbol's book is another object.
      have apart : place ≠ ref := by
        rintro rfl
        obtain ⟨object, at_place, own'⟩ := ok.registry_ok.registered other place at_other
        rw [called.found] at at_place
        cases at_place
        exact differs (own'.symm.trans own)
      simp only [Option.bind_some, called.object_eq, if_neg apart]
  · intro orderId member
    rw [Registry.restingIds, objects] at member
    exact (called.grows ok.registry_ok).resting member

/-- A call on a symbol's book that cancels nothing turns that book into its result. -/
theorem MatcherOk.call_spec (ok : MatcherOk settings registry) {ref : Nat}
    (listed : registry.books.get? symbol = some ref)
    (found : registry.objects[ref]? = some book) (op : BookOp)
    (fresh : ∀ orderId ∈ op.newIds, orderId ∉ registry.restingIds)
    (uncanceled : ∀ orderId now, op ≠ .cancel orderId now) :
    ∃ registry' reply calls book' gone expired,
      registry.call ref op = .ok (registry', reply, calls) ∧
        book.perform op = .ok (book', reply, calls) ∧
        Performed book op book' reply calls gone expired ∧
        Turned settings registry registry' symbol book' op.newIds ∧
        registry'.books.get? symbol = some ref ∧ registry'.objects[ref]? = some book' := by
  -- A call that cancels nothing keeps the map exact.
  obtain ⟨registry', reply, calls, book', gone, expired, ran, called⟩ :=
    StockMarket.call_spec ok.registry_ok found op fresh
  obtain ⟨object, at_ref, own⟩ := ok.registry_ok.registered symbol ref listed
  rw [found] at at_ref
  cases at_ref
  have tracks : Tracks registry' fun _ => False := by
    refine called.tracks ok.registry_ok ok.tracks (fun _ => own ▸ listed) (fun _ => id) ?_
    intro orderId canceled
    obtain ⟨now, same⟩ := called.done.canceled_named canceled
    exact uncanceled orderId now same
  refine ⟨registry', reply, calls, book', gone, expired, ran, called.ran, called.done,
    ok.turned listed called rfl rfl tracks, called.books_eq ▸ listed, ?_⟩
  rw [called.object_eq, if_pos rfl]

/-- A cancel of an order in the map turns the book of its symbol, and then forgets the order. -/
theorem MatcherOk.cancel_spec (ok : MatcherOk settings registry) {orderId : UUID}
    (mapped : registry.orderSymbols.get? orderId = some symbol) (now : ℚ) :
    ∃ book registry' reply calls book' gone expired, registry.bookOf symbol = some book ∧
      orderId ∈ book.plain.ids ∧
      registry.cancel settings.owned orderId now = .ok (registry', .ok reply) ∧
      book.perform (.cancel orderId now) = .ok (book', reply, calls) ∧
      Performed book (.cancel orderId now) book' reply calls gone expired ∧
      Turned settings registry registry' symbol book' [] := by
  obtain ⟨book, here, member⟩ := ok.mapped_iff.mp mapped
  obtain ⟨ref, listed, found⟩ := bookOf_eq_some_iff.mp here
  have owns := ok.owned_books symbol ref listed
  obtain ⟨registry', reply, calls, book', gone, expired, ran, called⟩ :=
    StockMarket.cancel_spec ok.registry_ok mapped owns listed found now
  -- After the call the order is in no book: it left its own, and was in no other.
  have nowhere : ∀ other, ¬ registry'.Holds other orderId := by
    rintro other ⟨place, object, _, at_place, still⟩
    rw [called.object_eq] at at_place
    split at at_place
    · cases at_place
      exact canceled_absent called.done still
    · rename_i differs
      exact differs (ok.registry_ok.same_ref at_place found still member)
  have tracks : Tracks registry' fun other => other = orderId := by
    refine called.tracks ok.registry_ok ok.tracks ?_ (fun _ => False.elim) ?_
    · exact fun rested => absurd (List.sublist_nil.mp called.done.rested_sub) rested
    · intro other canceled
      obtain ⟨_, same⟩ := called.done.canceled_named canceled
      cases same
      rfl
  exact ⟨book, _, reply, calls, book', gone, expired, here, member, ran, called.ran, called.done,
    ok.turned listed called rfl rfl (tracks.forget nowhere fun _ => .inl)⟩

end Books

end StockMarket
