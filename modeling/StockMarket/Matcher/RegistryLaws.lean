import Mathlib.Data.List.Perm.Basic
import StockMarket.Matcher.Registry
import StockMarket.Orderbook.Runs

/-! What registry calls do to the books, to the resting orders, and to the map of their symbols. -/

namespace StockMarket

section Identifiers

variable {book book' : OrderBook} {op : BookOp} {reply : BookReply} {calls : List Callback}
  {gone : List Rested} {expired : PlainBook}

/-- The identifiers reported as closed for any reason. -/
def droppedIds (calls : List Callback) : List UUID :=
  closedIds .expired calls ++ closedIds .filled calls

/-- An identifier is unindexed when it is not at rest. -/
theorem unindexed_iff_ids (ok : BookOk book) {orderId : UUID} :
    book.index.get? orderId = none ↔ orderId ∉ book.plain.ids := by
  rw [unindexed_iff ok.core, PlainBook.ids, List.mem_map]
  -- The two sides differ only in how they say that no resting order has the identifier.
  constructor
  · rintro differs ⟨rested, member, same⟩
    exact differs rested member same
  · intro absent rested member same
    exact absent ⟨rested, member, same⟩

/-- Only orders that were at rest are reported as closed. -/
theorem Performed.dropped_sub (done : Performed book op book' reply calls gone expired)
    (ok : BookOk book) {orderId : UUID} (dropped : orderId ∈ droppedIds calls) :
    orderId ∈ book.plain.ids := by
  have surviving : ∀ rested ∈ expired.allResting, rested.order.orderId ∈ book.plain.ids := by
    intro rested member
    exact List.mem_map_of_mem ((done.split ok).symm.subset (List.mem_append_right _ member))
  rw [droppedIds, done.calls_eq] at dropped
  simp only [closedIds_append, closedIds_expired, callsOf_expired, closedIds_filled_expired,
    List.append_nil, List.nil_append] at dropped
  rcases List.mem_append.mp dropped with expired' | filled
  · -- An expired order was at rest before the call.
    obtain ⟨rested, member, rfl⟩ := List.mem_map.mp expired'
    exact List.mem_map_of_mem ((done.split ok).symm.subset (List.mem_append_left _ member))
  · -- A filled order was within reach of the incoming one.
    cases op with
    | submit order now restAt =>
      simp only [PlainBook.callsOf] at filled
      split at filled
      · simp [closedIds] at filled
      · rw [closedIds_append, closedIds_filled] at filled
        have nothing : closedIds .filled (if (expired.taken order).left = 0 then []
            else [.rest order.orderId]) = [] := by split <;> rfl
        rw [nothing, List.append_nil] at filled
        obtain ⟨fill, kept, rfl⟩ := List.mem_map.mp filled
        have reached := consume_fill_mem (List.mem_of_mem_filter kept)
        have rests := (List.takeWhile_sublist _).subset reached
        exact surviving fill.1 (PlainBook.mem_allResting.mpr ⟨_, rests⟩)
    | _ => simp [PlainBook.callsOf, closedIds] at filled

/-- An operation rests only identifiers that it introduces. -/
theorem Performed.rested_new (done : Performed book op book' reply calls gone expired)
    {orderId : UUID} (rested : orderId ∈ restedIds calls) : orderId ∈ op.newIds :=
  done.rested_sub.subset rested

/-- An order is at rest after an operation when it was or came to rest, and did not leave. -/
theorem Performed.mem_ids (done : Performed book op book' reply calls gone expired)
    (ok : BookOk book) (fresh : ∀ orderId ∈ op.newIds, orderId ∉ book.plain.ids) {orderId : UUID} :
    orderId ∈ book'.plain.ids ↔ (orderId ∈ book.plain.ids ∨ orderId ∈ restedIds calls) ∧
      orderId ∉ droppedIds calls ∧ orderId ∉ reply.canceledIds := by
  have exits := done.exits ok
  have single : op.newIds.Nodup := by cases op <;> simp [BookOp.newIds]
  -- No identifier comes to rest twice, so none leaves twice.
  have once : (book.plain.ids ++ restedIds calls).Nodup := by
    rw [List.nodup_append']
    refine ⟨ok.plain_ok.named, single.sublist done.rested_sub, ?_⟩
    intro resting old rested
    exact fresh resting (done.rested_new rested) old
  have apart := exits.nodup_iff.mp once
  rw [List.nodup_append'] at apart
  constructor
  · intro member
    have before := exits.symm.subset (List.mem_append_right _ member)
    refine ⟨List.mem_append.mp before, ?_, ?_⟩
    · intro dropped
      exact apart.2.2 (List.mem_append_left _ dropped) member
    · intro canceled
      exact apart.2.2 (List.mem_append_right _ canceled) member
  · -- An order that neither was dropped nor canceled is still there.
    rintro ⟨before, undropped, uncanceled⟩
    have after := exits.subset (List.mem_append.mpr before)
    rw [List.append_assoc] at after
    rcases List.mem_append.mp after with dropped | kept
    · exact absurd dropped undropped
    · exact (List.mem_append.mp kept).resolve_left uncanceled

/-- A cancel reports no order but the one it names. -/
theorem Performed.canceled_named (done : Performed book op book' reply calls gone expired)
    {orderId : UUID} (canceled : orderId ∈ reply.canceledIds) : ∃ now, op = .cancel orderId now := by
  -- Only a cancel answers with a cancelled order, and with the one that it names.
  rw [done.reply_eq] at canceled
  cases op with
  | cancel named now =>
    simp only [PlainBook.act, PlainBook.takeOut] at canceled
    cases found : expired.find? named with
    | none => simp [found, BookReply.ofResult, BookReply.canceledIds] at canceled
    | some rested =>
      have same : rested.order.orderId = named := of_decide_eq_true (List.find?_some found :)
      simp only [found, BookReply.ofResult, BookReply.canceledIds, Rested.asOpenOrder,
        List.mem_singleton] at canceled
      exact ⟨now, by rw [canceled, same]⟩
  -- Other operations answer with something else.
  | submit order now restAt =>
    simp only [PlainBook.act] at canceled
    split at canceled <;> simp [BookReply.canceledIds] at canceled
  | recentTrades limit =>
    simp only [PlainBook.act] at canceled
    split at canceled <;> simp [BookReply.ofResult, BookReply.canceledIds] at canceled
  | getOpenOrder | openOrders | snapshot | totalQuantity | bestPrice =>
    simp [PlainBook.act, BookReply.canceledIds] at canceled

/-- After a cancel the order is not at rest, whether or not it was before. -/
theorem canceled_absent {orderId : UUID} {now : ℚ}
    (done : Performed book (.cancel orderId now) book' reply calls gone expired) :
    orderId ∉ book'.plain.ids := by
  -- The order is not found, or it is taken out.
  have plain := done.plain_eq
  simp only [PlainBook.act, PlainBook.takeOut] at plain
  rw [PlainBook.ids, plain]
  cases found : expired.find? orderId with
  | none =>
    intro member
    obtain ⟨rested, inside, same⟩ := List.mem_map.mp member
    exact absurd same (by simpa using List.find?_eq_none.mp found rested inside)
  | some rested =>
    simp only [keep_allResting]
    intro member
    obtain ⟨other, inside, same⟩ := List.mem_map.mp member
    exact absurd same (of_decide_eq_true (List.mem_filter.mp inside).2)

end Identifiers

section Map

/-- Every callback is about one order, and the last word about an order decides its place in the map. -/
theorem get?_hear {symbol : String} {calls : List Callback} (orderSymbols : Dict UUID String)
    (orderId : UUID) (apart : orderId ∈ restedIds calls → orderId ∉ droppedIds calls) :
    (calls.foldl (Registry.hear symbol) orderSymbols).get? orderId =
      if orderId ∈ restedIds calls then some symbol
      else if orderId ∈ droppedIds calls then none else orderSymbols.get? orderId := by
  -- The first callback is heard before the others, which do not undo it.
  induction calls generalizing orderSymbols with
  | nil => simp [restedIds, droppedIds, closedIds]
  | cons call rest ih =>
    have more : restedIds (call :: rest) = restedIds [call] ++ restedIds rest := by
      rw [← restedIds_append]; rfl
    have split : ∀ other, other ∈ droppedIds (call :: rest) ↔
        other ∈ droppedIds [call] ∨ other ∈ droppedIds rest := by
      intro other
      have parts := closedIds_append CloseReason.expired [call] rest
      have parts' := closedIds_append CloseReason.filled [call] rest
      rw [List.singleton_append] at parts parts'
      simp only [droppedIds, parts, parts', List.mem_append]
      tauto
    have apart' : orderId ∈ restedIds rest → orderId ∉ droppedIds rest := by
      intro rested dropped
      exact apart (more ▸ List.mem_append_right _ rested) ((split _).mpr (.inr dropped))
    rw [List.foldl_cons, ih _ apart', more]
    simp only [List.mem_append, split]
    cases call with
    | rest named =>
      have own : orderId ∈ restedIds [.rest named] ↔ orderId = named := by simp [restedIds]
      have none_dropped : orderId ∉ droppedIds [.rest named] := by simp [droppedIds, closedIds]
      simp only [own, none_dropped, false_or, Registry.hear, Dict.get?_set]
      by_cases here : orderId = named
      · have kept := apart (more ▸ List.mem_append_left _ (own.mpr here))
        have kept' : orderId ∉ droppedIds rest := fun dropped => kept ((split _).mpr (.inr dropped))
        simp [here ▸ kept', here]
      · simp [here]
    -- A closed order is erased, and no callback of the call maps it again.
    | close named reason =>
      have none_rested : orderId ∉ restedIds [.close named reason] := by simp [restedIds]
      have own : orderId ∈ droppedIds [.close named reason] ↔ orderId = named := by
        cases reason <;> simp [droppedIds, closedIds]
      simp only [own, none_rested, false_or, Registry.hear, Dict.get?_erase]
      by_cases here : orderId = named <;> simp [here]

end Map

namespace Registry

/-- The identifiers at rest in any book object. -/
def restingIds (registry : Registry) : List UUID :=
  registry.objects.flatMap fun book => book.plain.ids

/-- The book registered for a symbol holds an order. -/
def Holds (registry : Registry) (symbol : String) (orderId : UUID) : Prop :=
  ∃ ref book, registry.books.get? symbol = some ref ∧ registry.objects[ref]? = some book ∧
    orderId ∈ book.plain.ids

end Registry

/-- Every book is well formed and holds orders of its own symbol, and no order rests twice. -/
structure RegistryOk (registry : Registry) : Prop where
  books_ok : ∀ book ∈ registry.objects, BookOk book
  symbols : ∀ book ∈ registry.objects, ∀ rested ∈ book.plain.allResting,
    rested.order.symbol = book.symbol
  registered : ∀ symbol ref, registry.books.get? symbol = some ref →
    ∃ book, registry.objects[ref]? = some book ∧ book.symbol = symbol
  named : registry.restingIds.Nodup

/--
What happens to the books in one section of a call.

Books keep their places, new books start empty, and no book gains an order but a newcomer.
-/
structure Grows (registry registry' : Registry) (newcomers : List UUID) : Prop where
  kept : ∀ (ref : Nat) (book : OrderBook), registry.objects[ref]? = some book →
    ∃ book', registry'.objects[ref]? = some book' ∧ book'.symbol = book.symbol
  origin : ∀ (ref : Nat) (book' : OrderBook), registry'.objects[ref]? = some book' →
    ∀ orderId ∈ book'.plain.ids, orderId ∈ newcomers ∨
      ∃ book, registry.objects[ref]? = some book ∧ book.symbol = book'.symbol ∧
        orderId ∈ book.plain.ids
  books_old : ∀ symbol ref, registry'.books.get? symbol = some ref →
    registry.books.get? symbol = some ref ∨ registry.objects.length ≤ ref

section Books

variable {registry : Registry}

/-- An identifier is at rest when some book holds it. -/
theorem mem_restingIds {orderId : UUID} : orderId ∈ registry.restingIds ↔
    ∃ (ref : Nat) (book : OrderBook), registry.objects[ref]? = some book ∧
      orderId ∈ book.plain.ids := by
  -- A book is among the objects exactly if it has a place there.
  rw [Registry.restingIds, List.mem_flatMap]
  constructor
  · rintro ⟨book, inside, member⟩
    obtain ⟨ref, found⟩ := List.mem_iff_getElem?.mp inside
    exact ⟨ref, book, found, member⟩
  · rintro ⟨ref, book, found, member⟩
    exact ⟨book, List.mem_of_getElem? found, member⟩

/-- No order rests in two books. -/
theorem RegistryOk.same_ref (ok : RegistryOk registry) {orderId : UUID} {ref ref' : Nat}
    {book book' : OrderBook} (found : registry.objects[ref]? = some book)
    (found' : registry.objects[ref']? = some book') (member : orderId ∈ book.plain.ids)
    (member' : orderId ∈ book'.plain.ids) : ref = ref' := by
  -- Books at distinct places have no identifier in common.
  have apart := List.pairwise_iff_getElem.mp (List.nodup_flatMap.mp ok.named).2
  obtain ⟨bound, rfl⟩ := List.getElem?_eq_some_iff.mp found
  obtain ⟨bound', rfl⟩ := List.getElem?_eq_some_iff.mp found'
  rcases Nat.lt_trichotomy ref ref' with less | same | more
  · exact absurd member' (apart ref ref' bound bound' less member)
  · exact same
  · exact absurd member (apart ref' ref bound' bound more member')

/-- Changing one book leaves the others as a common remainder of the resting orders. -/
theorem objects_split {α : Type} {ref : Nat} {book : OrderBook} (list : OrderBook → List α)
    (found : registry.objects[ref]? = some book) : ∃ others,
      (registry.objects.flatMap list).Perm (list book ++ others) ∧
      ∀ book', ((registry.objects.set ref book').flatMap list).Perm (list book' ++ others) := by
  -- The object is put in front of the others, with its part of the list.
  obtain ⟨bound, rfl⟩ := List.getElem?_eq_some_iff.mp found
  refine ⟨(registry.objects.eraseIdx ref).flatMap list, ?_, ?_⟩
  · have moved := (List.getElem_cons_eraseIdx_perm bound).flatMap_right list
    rw [List.flatMap_cons] at moved
    exact moved.symm
  · intro book'
    have moved := (List.set_perm_cons_eraseIdx bound book').flatMap_right list
    rw [List.flatMap_cons] at moved
    exact moved

/-- A found book is well formed. -/
theorem RegistryOk.book_ok (ok : RegistryOk registry) {ref : Nat} {book : OrderBook}
    (found : registry.objects[ref]? = some book) : BookOk book :=
  ok.books_ok book (List.mem_of_getElem? found)

/-- Registries with the same books and the same registrations hold the same orders. -/
theorem holds_congr {registry registry' : Registry} (objects : registry'.objects = registry.objects)
    (books : registry'.books = registry.books) (symbol : String) (orderId : UUID) :
    registry'.Holds symbol orderId ↔ registry.Holds symbol orderId := by
  simp only [Registry.Holds, objects, books]

end Books

section Lookup

variable {registry : Registry}

/-- A section that touches no book adds nothing. -/
theorem Grows.of_objects {registry' : Registry} (objects : registry'.objects = registry.objects)
    (books : ∀ symbol ref, registry'.books.get? symbol = some ref →
      registry.books.get? symbol = some ref) : Grows registry registry' [] := by
  refine ⟨fun ref book found => ⟨book, objects ▸ found, rfl⟩, ?_,
    fun symbol ref listed => .inl (books symbol ref listed)⟩
  intro ref book found orderId member
  exact .inr ⟨book, objects ▸ found, rfl, member⟩

/-- What looking a symbol's book up does, whether or not the book had to be created. -/
structure Got (owned : Ownership) (registry : Registry) (symbol : String) (registry' : Registry)
    (result : Except BookError (Option Nat)) : Prop where
  ok : RegistryOk registry'
  grows : Grows registry registry' []
  symbols_eq : registry'.orderSymbols = registry.orderSymbols
  date_eq : registry'.activeSessionDate = registry.activeSessionDate
  books_kept : ∀ other ref, registry.books.get? other = some ref →
    registry'.books.get? other = some ref
  books_new : ∀ other ref, registry'.books.get? other = some ref →
    registry.books.get? other = some ref ∨ owned.isOwnedSymbol other = true
  objects_kept : ∀ (ref : Nat) (book : OrderBook), registry.objects[ref]? = some book →
    registry'.objects[ref]? = some book
  objects_new : ∀ (ref : Nat) (book : OrderBook), registry'.objects[ref]? = some book →
    registry.objects[ref]? = some book ∨
      (book.plain.allResting = [] ∧ book.symbol = symbol ∧ result = .ok (some ref))
  resting_eq : registry'.objects.flatMap (fun book => book.plain.allResting) =
    registry.objects.flatMap fun book => book.plain.allResting
  found : ∀ ref, result = .ok (some ref) → registry'.books.get? symbol = some ref ∧
    ∃ book, registry'.objects[ref]? = some book ∧ book.symbol = symbol

/-- A registry with one more book, still empty, under a symbol that had none. -/
theorem RegistryOk.created (ok : RegistryOk registry) (config : BookConfig) :
    RegistryOk { registry with
      objects := registry.objects ++ [OrderBook.new config]
      books := registry.books.set config.symbol registry.objects.length } := by
  -- The new book is empty, and stands behind all others.
  have empty : (OrderBook.new config).plain.allResting = [] := rfl
  refine ⟨?_, ?_, ?_, ?_⟩
  · intro book member
    rcases List.mem_append.mp member with old | new
    · exact ok.books_ok book old
    · rw [List.mem_singleton.mp new]
      exact new_ok config
  · intro book member rested inside
    rcases List.mem_append.mp member with old | new
    · exact ok.symbols book old rested inside
    · rw [List.mem_singleton.mp new, empty] at inside
      exact absurd inside List.not_mem_nil
  · intro symbol ref listed
    simp only [Dict.get?_set] at listed
    split at listed
    · -- The new symbol refers to the new book at the end.
      rename_i same
      cases listed
      exact ⟨OrderBook.new config, by simp, same.symm⟩
    · obtain ⟨book, found, named⟩ := ok.registered symbol ref listed
      exact ⟨book, by rw [List.getElem?_append_left (List.getElem?_eq_some_iff.mp found).1, found],
        named⟩
  · have named := ok.named
    simp only [Registry.restingIds, List.flatMap_append, List.flatMap_cons, List.flatMap_nil,
      PlainBook.ids, empty, List.map_nil, List.append_nil]
    exact named

/-- Looking a book up keeps every book and every order, and finds the book it names. -/
theorem get_spec (ok : RegistryOk registry) (owned : Ownership) (symbol : String) :
    Got owned registry symbol (registry.get owned symbol).1 (registry.get owned symbol).2 := by
  -- Only a symbol that is owned and has no book yet changes anything.
  have unchanged : ∀ result, (∀ ref, result = .ok (some ref) →
      registry.books.get? symbol = some ref) → Got owned registry symbol registry result := by
    intro result listed
    refine ⟨ok, .of_objects rfl fun _ _ => id, rfl, rfl, fun _ _ => id, fun _ _ => .inl,
      fun _ _ => id, fun _ _ => .inl, rfl, fun ref same => ?_⟩
    exact ⟨listed ref same, ok.registered symbol ref (listed ref same)⟩
  unfold Registry.get
  split
  · exact unchanged _ (by simp)
  · rename_i owns
    split
    · rename_i ref listed
      exact unchanged _ (by rintro _ ⟨⟩; exact listed)
    · rename_i absent
      split
      · exact unchanged _ (by simp)
      · rename_i config created
        -- The checked arguments name the symbol itself.
        have named : config.symbol = symbol := by
          unfold BookConfig.create at created
          split at created
          · split at created
            · split at created
              · cases created; rfl
              · cases created
            · cases created
          · cases created
        subst named
        refine ⟨ok.created config, ⟨?_, ?_, ?_⟩, rfl, rfl, ?_, ?_, ?_, ?_, ?_, ?_⟩
        · intro ref book found
          exact ⟨book, by rw [List.getElem?_append_left (List.getElem?_eq_some_iff.mp found).1, found],
            rfl⟩
        · intro ref book found orderId member
          -- What is found in the longer list was there before, or is the new book.
          rw [List.getElem?_append] at found
          split at found
          · exact .inr ⟨book, found, rfl, member⟩
          · rw [List.getElem?_singleton] at found
            split at found
            · cases found; exact absurd member List.not_mem_nil
            · cases found
        · intro other ref listed
          simp only [Dict.get?_set] at listed
          split at listed
          · cases listed; exact .inr (le_refl _)
          · exact .inl listed
        · intro other ref listed
          simp only [Dict.get?_set]
          split
          · rename_i same
            rw [same, absent] at listed
            cases listed
          · exact listed
        · intro other ref listed
          simp only [Dict.get?_set] at listed
          split at listed
          · rename_i same
            exact .inr (same ▸ not_not.mp owns)
          · exact .inl listed
        · intro ref book found
          rw [List.getElem?_append_left (List.getElem?_eq_some_iff.mp found).1, found]
        · intro ref book found
          rw [List.getElem?_append] at found
          split at found
          · exact .inl found
          · rename_i beyond
            rw [List.getElem?_singleton] at found
            split at found
            · rename_i first
              cases found
              have last : ref = registry.objects.length := by omega
              exact .inr ⟨rfl, rfl, by rw [last]⟩
            · cases found
        · simp [OrderBook.new, OrderBook.plain, PlainBook.allResting, Side.liveRefs, Side.new]
        · rintro ref ⟨⟩
          exact ⟨by simp, OrderBook.new config, by simp, rfl⟩

/-- The book registered for a symbol holds what it held before a lookup. -/
theorem Got.holds_iff {symbol : String} {registry' : Registry}
    {owned : Ownership} {result : Except BookError (Option Nat)}
    (got : Got owned registry symbol registry' result)
    {other : String} {orderId : UUID} :
    registry'.Holds other orderId ↔ registry.Holds other orderId := by
  constructor
  · rintro ⟨ref, book, listed, found, member⟩
    rcases got.objects_new ref book found with old | ⟨empty, _⟩
    · -- An old book is registered for what it was registered for.
      rcases got.grows.books_old other ref listed with before | beyond
      · exact ⟨ref, book, before, old, member⟩
      · exact absurd (List.getElem?_eq_some_iff.mp old).1 (by omega)
    · rw [PlainBook.ids, empty] at member
      exact absurd member List.not_mem_nil
  · rintro ⟨ref, book, listed, found, member⟩
    exact ⟨ref, book, got.books_kept other ref listed, got.objects_kept ref book found, member⟩

end Lookup

section Rollover

/-- A rollover either changes the session date alone or starts without books. -/
theorem rollover_cases (registry : Registry) (sessionDate : Option Int) :
    (∃ date, registry.rollover sessionDate = ({ registry with activeSessionDate := date }, [])) ∨
      ∃ date, registry.rollover sessionDate =
        ({ registry with books := .empty, orderSymbols := .empty, activeSessionDate := date },
          registry.books.keys) := by
  -- Books are dropped when a date follows an earlier one, and only then.
  unfold Registry.rollover
  split
  · exact .inl ⟨registry.activeSessionDate, rfl⟩
  · exact .inl ⟨_, rfl⟩
  · split
    · exact .inl ⟨registry.activeSessionDate, rfl⟩
    · exact .inr ⟨_, rfl⟩

/-- The books stay well formed whichever of them are registered. -/
theorem RegistryOk.withBooks {registry : Registry} (ok : RegistryOk registry)
    {registry' : Registry} (objects : registry'.objects = registry.objects)
    (books : ∀ symbol ref, registry'.books.get? symbol = some ref →
      registry.books.get? symbol = some ref) : RegistryOk registry' := by
  -- The objects are the same, and whatever is registered was so before.
  refine ⟨objects ▸ ok.books_ok, objects ▸ ok.symbols, ?_, ?_⟩
  · intro symbol ref listed
    rw [objects]
    exact ok.registered symbol ref (books symbol ref listed)
  · rw [Registry.restingIds, objects]
    exact ok.named

end Rollover

end StockMarket
