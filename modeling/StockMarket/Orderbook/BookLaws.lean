import StockMarket.Orderbook.PriceTime
import StockMarket.Orderbook.SideLaws

/-! Killing an entry, expiring, and matching keep the whole book well formed. -/

namespace StockMarket

/-- An entry that is allocated and has not left the book. -/
def OrderBook.Live (book : OrderBook) (ref : Nat) : Prop :=
  1 ≤ ref ∧ ref ≤ book.sequence ∧ (book.heap ref).alive

/-- Both sides are well formed, list every live entry, and are indexed by order identifier. -/
structure CoreOk (book : OrderBook) : Prop where
  sides_ok : ∀ side, SideOk book.heap book.sequence side (book.sides side)
  live_listed : ∀ ref, book.Live ref →
    ref ∈ (book.sides (book.heap ref).order.side).liveRefs book.heap
  index_iff : ∀ orderId ref, book.index.get? orderId = some ref ↔
    book.Live ref ∧ (book.heap ref).order.orderId = orderId

/-- The arrivals ascend, and with a maximum age they still hold every live entry. -/
structure ArrivalsOk (book : OrderBook) (arrivals : List Nat) : Prop where
  located : ∀ ref ∈ arrivals, 1 ≤ ref ∧ ref ≤ book.sequence
  ordered : arrivals.Pairwise (· < ·)
  cover : book.config.maxAgeSeconds ≠ 0 → ∀ ref, book.Live ref → ref ∈ arrivals

/-- The representation invariant of a book between calls. -/
structure BookOk (book : OrderBook) : Prop where
  core : CoreOk book
  arrivals : ArrivalsOk book book.arrivals

/-- A book some of whose entries may have been filled or taken out since. -/
structure Later (book later : OrderBook) : Prop where
  config : later.config = book.config
  sequence : later.sequence = book.sequence
  fields : ∀ ref, (later.heap ref).order = (book.heap ref).order ∧
    (later.heap ref).restedAt = (book.heap ref).restedAt
  alive : ∀ ref, (later.heap ref).alive → (book.heap ref).alive
  unindexed : ∀ orderId, book.index.get? orderId = none → later.index.get? orderId = none

namespace Later

/-- A book is later than itself. -/
theorem refl (book : OrderBook) : Later book book :=
  ⟨rfl, rfl, fun _ => ⟨rfl, rfl⟩, fun _ => id, fun _ => id⟩

/-- A book is later than what a book before it is later than. -/
theorem trans {book later last : OrderBook} (first : Later book later) (second : Later later last) :
    Later book last where
  config := second.config.trans first.config
  sequence := second.sequence.trans first.sequence
  fields ref := ⟨(second.fields ref).1.trans (first.fields ref).1,
    (second.fields ref).2.trans (first.fields ref).2⟩
  alive ref still := first.alive ref (second.alive ref still)
  unindexed orderId absent := second.unindexed orderId (first.unindexed orderId absent)

/-- Entries alive later were alive before. -/
theorem live {book later : OrderBook} (moved : Later book later) {ref : Nat}
    (still : later.Live ref) : book.Live ref :=
  ⟨still.1, moved.sequence ▸ still.2.1, moved.alive ref still.2.2⟩

/-- The arrivals of the earlier book still serve the later one. -/
theorem arrivals {book later : OrderBook} (moved : Later book later) {list : List Nat}
    (ok : ArrivalsOk book list) : ArrivalsOk later list where
  located ref member := moved.sequence.symm ▸ ok.located ref member
  ordered := ok.ordered
  cover aged ref still := ok.cover (moved.config ▸ aged) ref (moved.live still)

end Later

namespace CoreOk

variable {book : OrderBook}

/-- A side lists exactly the live entries with its own side. -/
theorem mem_liveRefs_iff (ok : CoreOk book) {side : OrderSide} {ref : Nat} :
    ref ∈ (book.sides side).liveRefs book.heap ↔
      book.Live ref ∧ (book.heap ref).order.side = side := by
  -- A side lists what is live, and every live entry is listed on its own side.
  constructor
  · intro member
    obtain ⟨low, high, _, sided, alive, _⟩ := (ok.sides_ok side).liveRefs_spec member
    exact ⟨⟨low, high, alive⟩, sided⟩
  · rintro ⟨live, rfl⟩
    exact ok.live_listed ref live

/-- Live entries remember their own location. -/
theorem sequence_eq (ok : CoreOk book) {ref : Nat} (live : book.Live ref) :
    (book.heap ref).sequence = ref :=
  ((ok.sides_ok _).liveRefs_spec (ok.live_listed ref live)).2.2.1

/-- Live entries have something left to trade. -/
theorem remaining_pos (ok : CoreOk book) {ref : Nat} (live : book.Live ref) :
    1 ≤ (book.heap ref).remainingQuantity :=
  ((ok.sides_ok _).liveRefs_spec (ok.live_listed ref live)).2.2.2.2.2

/-- Two live entries never share an order identifier. -/
theorem live_inj (ok : CoreOk book) {first second : Nat} (live : book.Live first)
    (live' : book.Live second)
    (same : (book.heap first).order.orderId = (book.heap second).order.orderId) :
    first = second := by
  have indexed := (ok.index_iff _ first).mpr ⟨live, same⟩
  have indexed' := (ok.index_iff _ second).mpr ⟨live', rfl⟩
  exact Option.some.inj (indexed.symm.trans indexed')

end CoreOk

/-- The book that kills one entry on its own side and drops it from the index. -/
def OrderBook.kill (book : OrderBook) (ref : Nat) (entry : Entry) (s : Side) : OrderBook :=
  { book.setSide (book.heap ref).order.side s with
    heap := book.heap.store ref entry
    index := book.index.erase (book.heap ref).order.orderId }

section Kill

variable {book : OrderBook} {ref : Nat} {entry : Entry} {s : Side}

/-- Entries other than the killed one read as before. -/
theorem kill_heap_other {other : Nat} (differs : other ≠ ref) :
    (book.kill ref entry s).heap other = book.heap other := Heap.store_other differs

/-- Killing leaves the other side alone and replaces its own. -/
theorem kill_sides (side : OrderSide) : (book.kill ref entry s).sides side =
    if side = (book.heap ref).order.side then s else book.sides side := by
  simp only [OrderBook.kill, OrderBook.setSide, Function.update_apply]

/-- The live entries after a kill are the other live entries. -/
theorem kill_live_iff (dead : entry.alive = false) {other : Nat} :
    (book.kill ref entry s).Live other ↔ book.Live other ∧ other ≠ ref := by
  -- The killed entry is live no more, and the others are as they were.
  by_cases same : other = ref
  · subst same
    simp [OrderBook.Live, OrderBook.kill, dead]
  · simp only [OrderBook.Live, kill_heap_other same, same, ne_eq, not_false_eq_true, and_true]
    rfl

/-- Killing a live entry moves the book on. -/
theorem kill_later (dead : entry.alive = false) (order : entry.order = (book.heap ref).order)
    (restedAt : entry.restedAt = (book.heap ref).restedAt) :
    Later book (book.kill ref entry s) where
  config := rfl
  sequence := rfl
  fields other := by
    by_cases same : other = ref
    · subst same; simp [OrderBook.kill, order, restedAt]
    · rw [kill_heap_other same]; exact ⟨rfl, rfl⟩
  alive other still := by
    by_cases same : other = ref
    · subst same; simp [OrderBook.kill, dead] at still
    · rwa [kill_heap_other same] at still
  unindexed orderId absent := by
    simp only [OrderBook.kill, Dict.get?_erase]
    split
    · rfl
    · exact absent

/-- Killing a live entry with its side following keeps both sides, the listing, and the index. -/
theorem kill_core (ok : CoreOk book) (live : book.Live ref) (dead : entry.alive = false)
    (order : entry.order = (book.heap ref).order)
    (s_ok : SideOk (book.heap.store ref entry) book.sequence (book.heap ref).order.side s)
    (s_live : s.liveRefs (book.heap.store ref entry) =
      ((book.sides (book.heap ref).order.side).liveRefs book.heap).filter (· ≠ ref)) :
    CoreOk (book.kill ref entry s) := by
  have orders : ∀ other, ((book.kill ref entry s).heap other).order = (book.heap other).order := by
    intro other
    by_cases same : other = ref
    · subst same; simpa [OrderBook.kill] using order
    · rw [kill_heap_other same]
  -- Entries of the other side are away from the written location.
  have away : ∀ side, side ≠ (book.heap ref).order.side → ∀ other, other ≤ book.sequence →
      (book.heap other).order.side = side →
      (book.kill ref entry s).heap other = book.heap other := fun side differs other _ sided =>
    kill_heap_other fun same => differs (by rw [← sided, same])
  refine ⟨fun side => ?_, fun other still => ?_, fun orderId other => ?_⟩
  · rw [kill_sides]
    split
    · rename_i same; exact same ▸ s_ok
    · rename_i differs
      exact (ok.sides_ok side).frame (le_refl _) (away side differs)
  · obtain ⟨live', differs⟩ := (kill_live_iff dead).mp still
    have listed := ok.live_listed other live'
    rw [orders, kill_sides]
    split
    · rename_i same
      show other ∈ s.liveRefs (book.heap.store ref entry)
      rw [s_live, List.mem_filter]
      exact ⟨same ▸ listed, by simpa using differs⟩
    · rename_i side_differs
      rwa [(ok.sides_ok _).liveRefs_frame (away _ side_differs)]
  · -- The index forgets the identifier of the entry, and no other one.
    rw [kill_live_iff dead, orders]
    simp only [OrderBook.kill, Dict.get?_erase]
    split
    · rename_i same
      constructor
      · intro found; cases found
      · rintro ⟨⟨live', differs⟩, named⟩
        exact absurd (ok.live_inj live' live (named.trans same)) differs
    · rename_i id_differs
      rw [ok.index_iff]
      constructor
      · rintro ⟨live', named⟩
        exact ⟨⟨live', fun same => id_differs (by rw [← named, same])⟩, named⟩
      · rintro ⟨⟨live', _⟩, named⟩
        exact ⟨live', named⟩

/-- The plain book loses exactly the killed entry. -/
theorem kill_plain (ok : CoreOk book) (s_live : s.liveRefs (book.heap.store ref entry) =
      ((book.sides (book.heap ref).order.side).liveRefs book.heap).filter (· ≠ ref)) :
    (book.kill ref entry s).plain = book.plain.keep fun rested => rested.sequence ≠ ref := by
  -- A location is kept as long as its sequence number is not the killed one.
  have kept : ∀ side, ((book.sides side).liveRefs book.heap).filter (· ≠ ref) =
      ((book.sides side).liveRefs book.heap).filter
        ((fun rested : Rested => decide (rested.sequence ≠ ref)) ∘ fun other =>
          (book.heap other).rested) := by
    intro side
    apply List.filter_congr
    intro other member
    have named := ok.sequence_eq (ok.mem_liveRefs_iff.mp member).1
    simp [Entry.rested, named]
  -- Only the side of the killed entry loses a reference.
  have lists : ∀ side, ((book.kill ref entry s).sides side).liveRefs (book.kill ref entry s).heap =
      ((book.sides side).liveRefs book.heap).filter (· ≠ ref) := by
    intro side
    rw [kill_sides]
    split
    · rename_i same
      exact same ▸ s_live
    · rename_i differs
      have frame : (book.sides side).liveRefs (book.kill ref entry s).heap =
          (book.sides side).liveRefs book.heap :=
        (ok.sides_ok side).liveRefs_frame fun other _ sided =>
          kill_heap_other fun same => differs (by rw [← sided, same])
      rw [frame]
      refine (List.filter_eq_self.mpr fun other member => ?_).symm
      have sided := (ok.mem_liveRefs_iff.mp member).2
      simpa using fun same => differs (by rw [← sided, same])
  simp only [OrderBook.plain, PlainBook.keep, PlainBook.mk.injEq]
  refine ⟨rfl, funext fun side => ?_, rfl, rfl⟩
  rw [lists, List.filter_map, ← kept]
  apply List.map_congr_left
  intro other member
  rw [kill_heap_other (by simpa using (List.mem_filter.mp member).2)]

end Kill

section Plain

variable {book : OrderBook}

/-- The orders resting on a side of the plain book are its live entries. -/
theorem mem_plain_iff (ok : CoreOk book) {side : OrderSide} {rested : Rested} :
    rested ∈ book.plain.resting side ↔
      ∃ ref, book.Live ref ∧ (book.heap ref).order.side = side ∧ (book.heap ref).rested = rested := by
  simp only [OrderBook.plain, List.mem_map, ok.mem_liveRefs_iff, and_assoc]

/-- The orders resting on either side of the plain book are the live entries. -/
theorem mem_allResting_iff (ok : CoreOk book) {rested : Rested} :
    rested ∈ book.plain.allResting ↔ ∃ ref, book.Live ref ∧ (book.heap ref).rested = rested := by
  simp only [PlainBook.allResting, List.mem_append, mem_plain_iff ok]
  constructor
  · rintro (⟨ref, live, _, same⟩ | ⟨ref, live, _, same⟩) <;> exact ⟨ref, live, same⟩
  · rintro ⟨ref, live, same⟩
    -- Every entry belongs to one of the two sides.
    cases side : (book.heap ref).order.side with
    | buy => exact .inl ⟨ref, live, side, same⟩
    | sell => exact .inr ⟨ref, live, side, same⟩

/-- Looking an identifier up in the index finds the resting order of the plain book. -/
theorem find?_plain (ok : CoreOk book) (orderId : UUID) :
    book.plain.find? orderId = (book.index.get? orderId).map fun ref => (book.heap ref).rested := by
  cases indexed : book.index.get? orderId with
  | none =>
    -- Nothing at rest carries an identifier that is not indexed.
    refine List.find?_eq_none.mpr fun rested member named => ?_
    obtain ⟨ref, live, rfl⟩ := (mem_allResting_iff ok).mp member
    have found := (ok.index_iff orderId ref).mpr ⟨live, of_decide_eq_true named⟩
    simp [indexed] at found
  | some ref =>
    obtain ⟨live, named⟩ := (ok.index_iff orderId ref).mp indexed
    have member := (mem_allResting_iff ok).mpr ⟨ref, live, rfl⟩
    cases search : book.plain.find? orderId with
    | none =>
      exact absurd (List.find?_eq_none.mp search _ member) (by simp [Entry.rested, named])
    | some rested =>
      -- The first match is the indexed entry, since identifiers are unique among live entries.
      obtain ⟨other, live', rfl⟩ := (mem_allResting_iff ok).mp (List.mem_of_find?_eq_some search)
      have matched := List.find?_some search
      have named' : (book.heap other).order.orderId = orderId := of_decide_eq_true matched
      rw [ok.live_inj live' live (named'.trans named.symm)]
      rfl

/-- Keeping the orders with another identifier keeps the entries at other locations. -/
theorem keep_id_eq (ok : CoreOk book) {orderId : UUID} {ref : Nat}
    (indexed : book.index.get? orderId = some ref) :
    book.plain.keep (fun rested => rested.order.orderId ≠ orderId) =
      book.plain.keep fun rested => rested.sequence ≠ ref := by
  -- An identifier is that of one live entry, which stands at one location.
  obtain ⟨live, named⟩ := (ok.index_iff orderId ref).mp indexed
  simp only [PlainBook.keep, PlainBook.mk.injEq, true_and, and_true]
  funext side
  apply List.filter_congr
  intro rested member
  obtain ⟨other, live', _, rfl⟩ := (mem_plain_iff ok).mp member
  have location := ok.sequence_eq live'
  simp only [Entry.rested, location, ne_eq, decide_not, Bool.not_eq_eq_eq_not, Bool.not_not,
    decide_eq_decide]
  constructor
  · intro same
    exact ok.live_inj live' live (same.trans named.symm)
  · intro same
    rw [same, named]

end Plain

/-- Taking an order out answers like the plain book and leaves a well-formed book. -/
theorem takeOut_spec {book : OrderBook} (ok : CoreOk book) (orderId : UUID) :
    ∃ book', book.takeOut orderId = .ok (book', (book.plain.takeOut orderId).2) ∧
      CoreOk book' ∧ Later book book' ∧ book'.arrivals = book.arrivals ∧
      book'.expiredTotal = book.expiredTotal ∧ book'.plain = (book.plain.takeOut orderId).1 := by
  -- Either nothing is indexed, or one live entry is taken out of its side.
  cases indexed : book.index.get? orderId with
  | none =>
    have absent := find?_plain ok orderId
    rw [indexed] at absent
    refine ⟨book, ?_, ok, .refl book, rfl, rfl, ?_⟩
    · simp [OrderBook.takeOut, indexed, PlainBook.takeOut, absent, Pure.pure, Except.pure]
    · simp [PlainBook.takeOut, absent]
  | some ref =>
    obtain ⟨live, named⟩ := (ok.index_iff orderId ref).mp indexed
    have present := find?_plain ok orderId
    rw [indexed] at present
    obtain ⟨s, removed, s_ok, s_live⟩ :=
      (ok.sides_ok _).remove_spec (ok.live_listed ref live)
    refine ⟨book.kill ref { book.heap ref with alive := false } s, ?_,
      kill_core ok live rfl rfl s_ok s_live, kill_later rfl rfl rfl, rfl, rfl, ?_⟩
    · subst named
      simp only [OrderBook.takeOut, indexed, removed, PlainBook.takeOut, present, Option.map_some,
        Bind.bind, Except.bind, Pure.pure, Except.pure]
      rfl
    · rw [kill_plain ok s_live]
      simp only [PlainBook.takeOut, present, Option.map_some, keep_id_eq ok indexed]

section Expiry

/-- Entries that arrived earlier came to rest no later. -/
def StampsAscend (book : OrderBook) : Prop :=
  -- This is what a non-decreasing clock gives, and what lets expiry stop at the first young entry.
  ∀ first second, book.Live first → book.Live second → first < second →
    (book.heap first).restedAt ≤ (book.heap second).restedAt

/-- The stamps of the entries still alive later ascend as well. -/
theorem StampsAscend.later {book later : OrderBook} (ascend : StampsAscend book)
    (moved : Later book later) : StampsAscend later := by
  intro first second live live' less
  rw [(moved.fields first).2, (moved.fields second).2]
  exact ascend first second (moved.live live) (moved.live live') less

/-- What an expiry run has done to a book, and which entries it removed. -/
structure Expired (book : OrderBook) (deadline : ℚ) (gone : List Nat) (book' : OrderBook)
    (calls : List Callback) : Prop where
  core : CoreOk book'
  arrivals : ArrivalsOk book' book'.arrivals
  later : Later book book'
  plain : book'.plain = book.plain.keep fun rested => rested.sequence ∉ gone
  calls_eq : calls = gone.map fun ref => .close (book.heap ref).order.orderId .expired
  old : ∀ ref ∈ gone, book.Live ref ∧ (book.heap ref).restedAt ≤ deadline
  ordered : gone.Pairwise (· < ·)
  total : book'.expiredTotal = book.expiredTotal + gone.length
  thorough : StampsAscend book → ∀ ref, book'.Live ref → deadline < (book'.heap ref).restedAt

/-- Arrivals whose first entry is no longer alive go on with the others. -/
theorem ArrivalsOk.tail {book next : OrderBook} {ref : Nat} {rest : List Nat}
    (listed : ArrivalsOk book (ref :: rest)) (sequence : next.sequence = book.sequence)
    (config : next.config = book.config)
    (live : ∀ other, next.Live other → book.Live other ∧ other ≠ ref) : ArrivalsOk next rest where
  located other member := sequence ▸ listed.located other (List.mem_cons_of_mem ref member)
  ordered := (List.pairwise_cons.mp listed.ordered).2
  cover aged other other_live := by
    obtain ⟨before, differs⟩ := live other other_live
    rcases List.mem_cons.mp (listed.cover (config ▸ aged) other before) with same | member
    · exact absurd same differs
    · exact member

/-- An expiry run that stops at once removes nothing. -/
theorem Expired.none {book : OrderBook} {deadline : ℚ} {arrivals : List Nat} (ok : CoreOk book)
    (listed : ArrivalsOk book arrivals)
    (thorough : StampsAscend book → ∀ ref, book.Live ref → deadline < (book.heap ref).restedAt) :
    Expired book deadline [] { book with arrivals := arrivals } [] where
  core := ⟨ok.sides_ok, ok.live_listed, ok.index_iff⟩
  arrivals := ⟨listed.located, listed.ordered, listed.cover⟩
  later := ⟨rfl, rfl, fun _ => ⟨rfl, rfl⟩, fun _ => id, fun _ => id⟩
  plain := by simp [PlainBook.keep, OrderBook.plain]
  calls_eq := rfl
  old := by simp
  ordered := List.Pairwise.nil
  total := rfl
  thorough := thorough

section Removing

/-- The book after expiry has removed one entry, with the side that is left. -/
def OrderBook.expireEntry (book : OrderBook) (ref : Nat) (s : Side) : OrderBook :=
  { book.kill ref { book.heap ref with alive := false } s with
    expiredTotal := book.expiredTotal + 1 }

variable {book : OrderBook} {deadline : ℚ} {ref : Nat} {rest : List Nat} {s : Side}

/-- Without an entry that expired the book is a later one. -/
theorem expireEntry_later : Later book (book.expireEntry ref s) :=
  have moved : Later book (book.kill ref { book.heap ref with alive := false } s) :=
    kill_later rfl rfl rfl
  ⟨moved.config, moved.sequence, moved.fields, moved.alive, moved.unindexed⟩

/-- An old entry that is removed comes in front of those that the rest of the run removes. -/
theorem Expired.cons {book' : OrderBook} {calls : List Callback} {gone : List Nat}
    (ok : CoreOk book) (live : book.Live ref) (old : (book.heap ref).restedAt ≤ deadline)
    (s_live : s.liveRefs (book.heap.store ref { book.heap ref with alive := false }) =
      ((book.sides (book.heap ref).order.side).liveRefs book.heap).filter (· ≠ ref))
    (behind : ∀ other ∈ gone, ref < other)
    (done : Expired (book.expireEntry ref s) deadline gone book' calls) :
    Expired book deadline (ref :: gone) book'
      (.close (book.heap ref).order.orderId .expired :: calls) := by
  have next_later : Later book (book.expireEntry ref s) := expireEntry_later
  refine ⟨done.core, done.arrivals, next_later.trans done.later, ?_, ?_, fun other member => ?_,
    List.pairwise_cons.mpr ⟨behind, done.ordered⟩, ?_,
    fun ascend => done.thorough (ascend.later next_later)⟩
  · -- The entry is dropped first, and then those of the rest.
    have dropped : (book.expireEntry ref s).plain =
        book.plain.keep fun rested => rested.sequence ≠ ref := by
      rw [← kill_plain ok s_live]
      rfl
    rw [done.plain, dropped]
    simp only [PlainBook.keep, List.filter_filter, PlainBook.mk.injEq, true_and, and_true]
    funext side
    apply List.filter_congr
    intro rested _
    simp [not_or, Bool.and_comm]
  · rw [done.calls_eq, List.map_cons]
    congr 1
    apply List.map_congr_left
    intro other _
    rw [(next_later.fields other).1]
  · rcases List.mem_cons.mp member with rfl | member
    · exact ⟨live, old⟩
    · obtain ⟨other_live, other_old⟩ := done.old other member
      exact ⟨next_later.live other_live, (next_later.fields other).2 ▸ other_old⟩
  · rw [done.total, List.length_cons, OrderBook.expireEntry]
    simp only
    omega

/-- The walk over the arrivals goes on behind an old entry in the book without it. -/
theorem expireLoop_old (young : ¬((book.heap ref).alive ∧ deadline < (book.heap ref).restedAt))
    (alive : (book.heap ref).alive = true)
    (removed : (book.sides (book.heap ref).order.side).remove book.heap ref =
      .ok (book.heap.store ref { book.heap ref with alive := false }, s)) :
    OrderBook.expireLoop deadline (ref :: rest) book =
      (OrderBook.expireLoop deadline rest (book.expireEntry ref s)).map fun done =>
        (done.1, .close (book.heap ref).order.orderId .expired :: done.2) := by
  -- Closing the entry takes its identifier out of the index, as killing it does.
  have step : ({ { book.setSide (book.heap ref).order.side s with
      heap := book.heap.store ref { book.heap ref with alive := false }
      expiredTotal := book.expiredTotal + 1 } with
        index := book.index.erase
          (book.heap.store ref { book.heap ref with alive := false } ref).order.orderId } :
      OrderBook) = book.expireEntry ref s := by
    simp only [OrderBook.expireEntry, OrderBook.kill, Heap.store_self]
  rw [OrderBook.expireLoop, if_neg young, if_neg (not_not_intro alive)]
  simp only [removed, OrderBook.close, Bind.bind, Except.bind, Pure.pure, Except.pure]
  simp only [OrderBook.setSide] at step ⊢
  rw [step]
  simp only [Heap.store_self]
  cases OrderBook.expireLoop deadline rest (book.expireEntry ref s) <;> rfl

end Removing

/-- Expiry never fails, removes only old orders, and reports each one. -/
theorem expireLoop_spec {deadline : ℚ} : ∀ (arrivals : List Nat) (book : OrderBook),
    CoreOk book → ArrivalsOk book arrivals → book.config.maxAgeSeconds ≠ 0 →
    ∃ book' calls gone, OrderBook.expireLoop deadline arrivals book = .ok (book', calls) ∧
      Expired book deadline gone book' calls := by
  -- The arrivals shrink from the front, and what is left of them still covers the live entries.
  intro arrivals
  induction arrivals with
  | nil =>
    intro book ok listed aged
    exact ⟨_, [], [], rfl, .none ok listed fun _ ref live =>
      absurd (listed.cover aged ref live) List.not_mem_nil⟩
  | cons ref rest ih =>
    intro book ok listed aged
    have behind := (List.pairwise_cons.mp listed.ordered).1
    obtain ⟨low, high⟩ := listed.located ref List.mem_cons_self
    by_cases young : (book.heap ref).alive ∧ deadline < (book.heap ref).restedAt
    · -- The first young live entry ends the walk, and everything behind it is younger still.
      refine ⟨_, [], [], by rw [OrderBook.expireLoop, if_pos young],
        .none ok listed fun ascend other live => ?_⟩
      rcases List.mem_cons.mp (listed.cover aged other live) with rfl | member
      · exact young.2
      · exact lt_of_lt_of_le young.2
          (ascend ref other ⟨low, high, young.1⟩ live (behind other member))
    by_cases alive : (book.heap ref).alive = true
    · -- An old live entry is removed and reported, and the walk goes on behind it.
      have old : (book.heap ref).restedAt ≤ deadline := not_lt.mp fun fresh => young ⟨alive, fresh⟩
      have live : book.Live ref := ⟨low, high, alive⟩
      obtain ⟨s, removed, s_ok, s_live⟩ :=
        (ok.sides_ok _).remove_spec (ok.live_listed ref live)
      have killed : CoreOk (book.kill ref { book.heap ref with alive := false } s) :=
        kill_core ok live rfl rfl s_ok s_live
      -- The rest of the arrivals covers what is left.
      have next_arrivals : ArrivalsOk (book.expireEntry ref s) rest :=
        listed.tail rfl rfl fun other => (@kill_live_iff book ref _ s rfl other).mp
      obtain ⟨book', calls, gone, ran, done⟩ := ih (book.expireEntry ref s)
        ⟨killed.sides_ok, killed.live_listed, killed.index_iff⟩ next_arrivals aged
      refine ⟨book', _, ref :: gone, ?_, .cons ok live old s_live (fun other member =>
        behind other (next_arrivals.cover aged other (done.old other member).1)) done⟩
      rw [expireLoop_old young alive removed, ran]
      rfl
    · -- A dead entry is only popped.
      obtain ⟨book', calls, gone, ran, done⟩ := ih book ok (listed.tail rfl rfl fun other live =>
        ⟨live, fun same => alive (same ▸ live.2.2)⟩) aged
      refine ⟨book', calls, gone, ?_, done⟩
      rw [OrderBook.expireLoop, if_neg young, if_pos alive]
      exact ran

end Expiry

end StockMarket
