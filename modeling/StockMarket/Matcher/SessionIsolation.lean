import StockMarket.Library.Machine
import StockMarket.Library.Outcome
import StockMarket.Matcher.Desk

/-! Orders of one session never meet the orders of another. -/

namespace StockMarket

/-- A request with its clock readings and its response. -/
structure Answered where
  clock : Readings
  request : Request
  response : Response

namespace Answered

/-- The Seoul date on which the request was handled. -/
def date (answered : Answered) : Int := seoulDate answered.clock.sessionAt

/-- An order was accepted, on the date on which its request was handled. -/
def accepted (answered : Answered) : List (UUID × Int) :=
  match answered.request, answered.response.body with
  | .createOrder _ orderId, .matchResult _ => [(orderId, answered.date)]
  | _, _ => []

/-- The request was let through: it is no order, or it came while the market was open. -/
def Entered (answered : Answered) (mode : MarketMode) : Prop :=
  ¬ (answered.request.isOrder = true ∧ ¬ isOpen mode answered.clock.openAt)

end Answered

/-- The executions that a response tells of. -/
def Response.trades (response : Response) : List Trade :=
  match response.body with
  | .matchResult result => result.trades
  | .tape _ trades => trades
  | _ => []

/-- Answer one request and note the answer. -/
def Registry.answer (registry : Registry) (settings : MatcherSettings) :
    Readings × Request → Except Fault (Registry × Answered)
  | (clock, request) =>
    (registry.handle settings clock request).map fun (registry, response) =>
      (registry, ⟨clock, request, response⟩)

/-- Answer requests one at a time. -/
def Registry.serve (settings : MatcherSettings) : Registry → List (Readings × Request) →
    Except Fault (Registry × List Answered) :=
  Machine.run fun registry => registry.answer settings

namespace MatcherRun

/-- The orders that were accepted, with the dates of their sessions. -/
def accepted (answers : List Answered) : List (UUID × Int) := answers.flatMap Answered.accepted

/-- The identifiers that the requests introduce. -/
def newIds (requests : List (Readings × Request)) : List UUID :=
  requests.flatMap fun (_, request) => request.newIds

/-- The clock never goes back, and no request is handled across midnight in Seoul. -/
structure OnTime (requests : List (Readings × Request)) : Prop where
  forth : (requests.flatMap fun (clock, _) => [clock.openAt, clock.sessionAt]).Pairwise (· ≤ ·)
  within : ∀ request ∈ requests, seoulDate request.1.openAt = seoulDate request.1.sessionAt

/-- A session date is kept or followed by a later one. -/
def NotBefore (earlier later : Option Int) : Prop :=
  ∀ date, earlier = some date → ∃ next, later = some next ∧ date ≤ next

end MatcherRun

/-- An order rests in a book, or an execution on the book's tape names it. -/
def OrderBook.Remembers (book : OrderBook) (orderId : UUID) : Prop :=
  orderId ∈ book.plain.ids ∨ ∃ trade ∈ book.recentTrades, trade.names orderId = true

/-- The book of some symbol remembers an order. -/
def Registry.Remembers (registry : Registry) (orderId : UUID) : Prop :=
  ∃ symbol book, registry.bookOf symbol = some book ∧ book.Remembers orderId

section Dates

variable {registry registry' : Registry} {settings : MatcherSettings} {clock : Readings}
  {response : Response}

/-- Looking a book up leaves the session date alone. -/
theorem get_date (registry : Registry) (owned : Ownership) (symbol : String) :
    (registry.get owned symbol).1.activeSessionDate = registry.activeSessionDate := by
  -- A book is found or created; either way only books are touched.
  simp only [Registry.get]
  split
  · rfl
  · split
    · rfl
    · split <;> rfl

/-- A call on a book leaves the session date alone. -/
theorem call_date {ref : Nat} {op : BookOp} {reply : BookReply} {calls : List Callback}
    (ran : registry.call ref op = .ok (registry', reply, calls)) :
    registry'.activeSessionDate = registry.activeSessionDate := by
  obtain ⟨book, _, ran⟩ := Outcome.bind_eq_ok ran
  obtain ⟨⟨book', reply', calls'⟩, _, ran⟩ := Outcome.bind_eq_ok ran
  cases ran
  rfl

/-- A submit leaves the session date alone. -/
theorem submit_date {owned : Ownership} {order : Order} {now restAt : ℚ}
    {outcome : Except RegistryError BookReply}
    (ran : registry.submit owned order now restAt = .ok (registry', outcome)) :
    registry'.activeSessionDate = registry.activeSessionDate := by
  have kept := get_date registry owned order.symbol
  simp only [Registry.submit] at ran
  -- The symbol is foreign or invalid, or has a book that is called.
  split at ran
  case h_1 looked | h_2 looked =>
    rw [looked] at kept
    cases ran
    exact kept
  case h_3 looked =>
    rw [looked] at kept
    obtain ⟨⟨registry₁, reply, calls⟩, called, ran⟩ := Outcome.bind_eq_ok ran
    cases ran
    exact (call_date called).trans kept

/-- A cancel leaves the session date alone. -/
theorem cancel_date {owned : Ownership} {orderId : UUID} {now : ℚ}
    {outcome : Except RegistryError BookReply}
    (ran : registry.cancel owned orderId now = .ok (registry', outcome)) :
    registry'.activeSessionDate = registry.activeSessionDate := by
  simp only [Registry.cancel] at ran
  -- An unknown order leaves the registry as it is.
  split at ran
  · cases ran
    rfl
  · rename_i symbol _
    have kept := get_date registry owned symbol
    split at ran
    case h_1 looked | h_2 looked =>
      rw [looked] at kept
      cases ran
      exact kept
    case h_3 looked =>
      rw [looked] at kept
      obtain ⟨⟨registry₁, reply, calls⟩, called, ran⟩ := Outcome.bind_eq_ok ran
      cases ran
      exact (call_date called).trans kept

/-- Reading the depths leaves the session date alone. -/
theorem updateOrderbookDepth_date {owned : Ownership} {symbol : String} {buyAt sellAt : ℚ}
    {outcome : Except BookError Unit}
    (ran : registry.updateOrderbookDepth owned symbol buyAt sellAt = .ok (registry', outcome)) :
    registry'.activeSessionDate = registry.activeSessionDate := by
  have kept := get_date registry owned symbol
  simp only [Registry.updateOrderbookDepth] at ran
  -- With a book, two calls are made; without one, none.
  split at ran
  case h_1 looked =>
    rw [looked] at kept
    obtain ⟨⟨registry₁, _, _⟩, first, ran⟩ := Outcome.bind_eq_ok ran
    obtain ⟨⟨registry₂, _, _⟩, second, ran⟩ := Outcome.bind_eq_ok ran
    cases ran
    exact ((call_date second).trans (call_date first)).trans kept
  case h_2 looked | h_3 looked =>
    rw [looked] at kept
    cases ran
    exact kept

/-- Carrying a request out leaves the session date alone. -/
theorem carryOut_date {task : Task}
    (ran : registry.carryOut settings clock task = .ok (registry', response)) :
    registry'.activeSessionDate = registry.activeSessionDate := by
  cases task with
  | refuse refusal =>
    cases ran
    rfl
  | place order =>
    obtain ⟨⟨registry₁, outcome⟩, submitted, ran⟩ := Outcome.bind_eq_ok ran
    have kept := submit_date submitted
    simp only at ran
    -- Only a match is followed by a reading of the depths.
    split at ran
    · obtain ⟨⟨registry₂, read⟩, depths, ran⟩ := Outcome.bind_eq_ok ran
      have kept' := updateOrderbookDepth_date depths
      cases read <;>
      · cases ran
        exact kept'.trans kept
    · cases ran
      exact kept
  | take orderId =>
    obtain ⟨⟨registry₁, outcome⟩, canceled, ran⟩ := Outcome.bind_eq_ok ran
    have kept := cancel_date canceled
    simp only at ran
    -- Only a canceled order is followed by a reading of the depths.
    split at ran
    · obtain ⟨⟨registry₂, read⟩, depths, ran⟩ := Outcome.bind_eq_ok ran
      have kept' := updateOrderbookDepth_date depths
      cases read <;>
      · cases ran
        exact kept'.trans kept
    all_goals
      cases ran
      exact kept
  | look symbol op answer =>
    have kept := get_date registry settings.owned symbol
    simp only [Registry.carryOut, Registry.readBook] at ran
    -- A read makes one call, if there is a book.
    split at ran
    case h_1 looked =>
      rw [looked] at kept
      obtain ⟨⟨registry₁, reply, calls⟩, called, ran⟩ := Outcome.bind_eq_ok ran
      cases ran
      exact (call_date called).trans kept
    case h_2 looked | h_3 looked =>
      rw [looked] at kept
      cases ran
      exact kept

end Dates

section Memory

variable {settings : MatcherSettings} {registry registry' : Registry} {clock : Readings}
  {request : Request} {task : Task} {response : Response} {book book' : OrderBook} {orderId : UUID}

/-- A changed book remembers newcomers and what it remembered before. -/
theorem Evolved.remembers {newcomers : List UUID} (evolved : Evolved book book' newcomers)
    (remembers : book'.Remembers orderId) : orderId ∈ newcomers ∨ book.Remembers orderId := by
  -- What the book remembers, it holds, or its tape names it.
  rcases remembers with rests | ⟨trade, kept, named⟩
  · exact (evolved.ids orderId rests).imp_right .inl
  · rcases evolved.tape trade kept with old | known
    · exact .inr (.inr ⟨trade, old, named⟩)
    · exact (known orderId named).imp_right .inl

/-- A new book remembers nothing. -/
theorem remembers_of_bookOrNew {symbol : String} {named : isBlank symbol = false}
    (remembers : (registry.bookOrNew settings symbol named).Remembers orderId) :
    registry.Remembers orderId := by
  unfold Registry.bookOrNew at remembers
  cases here : registry.bookOf symbol with
  | some book =>
    rw [here] at remembers
    exact ⟨symbol, book, here, remembers⟩
  | none =>
    rw [here] at remembers
    -- Neither an order nor a trade is in a new book.
    rcases remembers with rests | ⟨trade, kept, _⟩
    · exact absurd rests List.not_mem_nil
    · exact absurd kept List.not_mem_nil

/-- The book of an owned symbol is well formed, has the symbol, and holds no order that is new. -/
theorem MatcherOk.bookOrNew_ok (ok : MatcherOk settings registry) {symbol : String}
    (named : isBlank symbol = false) : BookOk (registry.bookOrNew settings symbol named) ∧
      (registry.bookOrNew settings symbol named).symbol = symbol ∧
      ∀ orderId ∉ registry.restingIds,
        orderId ∉ (registry.bookOrNew settings symbol named).plain.ids := by
  -- A book that is missing is opened without any orders.
  unfold Registry.bookOrNew
  cases here : registry.bookOf symbol with
  | some book =>
    obtain ⟨ok, own, _⟩ := ok.book_ok here
    exact ⟨ok, own, fun orderId fresh rests => fresh (resting_of_bookOf here rests)⟩
  | none => exact ⟨new_ok _, rfl, fun orderId _ rests => absurd rests List.not_mem_nil⟩

/-- When one symbol's book changes, the others remember what they did. -/
theorem Turned.remembers {symbol : String} {newcomers : List UUID}
    (turned : Turned settings registry registry' symbol book' newcomers)
    (known : book'.Remembers orderId → orderId ∈ newcomers ∨ registry.Remembers orderId)
    (remembers : registry'.Remembers orderId) :
    orderId ∈ newcomers ∨ registry.Remembers orderId := by
  obtain ⟨other, book, here, remembers⟩ := remembers
  -- Only the named symbol's book has changed.
  by_cases same : other = symbol
  · rw [same, turned.book_eq] at here
    cases here
    exact known remembers
  · rw [turned.others other same] at here
    exact .inr ⟨other, book, here, remembers⟩

/-- An order is refused for its fields with a reason. -/
theorem createOrder_refusal {data : OrderData} {orderId : UUID}
    (refused : data.createOrder orderId = .error response) :
    (∃ text, response.body = .detail text) ∨ ∃ errors, response.body = .errors errors := by
  unfold OrderData.createOrder at refused
  -- The body is missing, or the fields are checked.
  split at refused
  · cases refused
    exact .inl ⟨_, rfl⟩
  · split at refused
    · split at refused
      · cases refused
      · cases refused
        exact .inl ⟨_, rfl⟩
    · cases refused
      exact .inr ⟨_, rfl⟩

/-- A request is refused for its fields with a reason. -/
theorem task_refuse (settled : request.task settings clock = .refuse response) :
    (∃ text, response.body = .detail text) ∨ ∃ errors, response.body = .errors errors := by
  cases request with
  | createOrder data orderId =>
    simp only [Request.task] at settled
    -- The fields are refused, or the symbol is.
    cases created : data.createOrder orderId with
    | error refusal =>
      rw [created] at settled
      cases settled
      exact createOrder_refusal created
    | ok order =>
      rw [created] at settled
      simp only at settled
      split at settled
      · cases settled
        exact .inr ⟨_, rfl⟩
      · split at settled
        · cases settled
          exact .inr ⟨_, rfl⟩
        · cases settled
  | cancelOrder orderId symbol =>
    -- The symbol of a cancel is checked only when it is given.
    simp only [Request.task] at settled
    split at settled
    · cases settled
      exact .inr ⟨_, rfl⟩
    · split at settled
      · cases settled
        exact .inr ⟨_, rfl⟩
      · cases settled
  | bookDetail symbol => cases settled
  | recentTradeList symbol limit =>
    simp only [Request.task] at settled
    -- Both fields are valid, or the errors name those that are not.
    split at settled
    · cases settled
    · cases settled
      exact .inr ⟨_, rfl⟩

/-- A read asks for the depth or for the tape of a symbol. -/
theorem task_reads {symbol : String} {op : BookOp} {answer : BookReply → Response}
    (settled : request.task settings clock = .look symbol op answer) :
    (op = .snapshot clock.bookAt ∧ answer = snapshotAnswer) ∨
      ∃ limit, op = .recentTrades limit ∧ answer = tapeAnswer symbol := by
  -- Only the two views that read books look at one.
  cases request with
  | createOrder data orderId =>
    simp only [Request.task] at settled
    split at settled
    · cases settled
    · split at settled
      · cases settled
      · split at settled <;> cases settled
  | cancelOrder orderId symbol =>
    simp only [Request.task] at settled
    split at settled
    · cases settled
    · split at settled <;> cases settled
  | bookDetail symbol =>
    cases settled
    exact .inl ⟨rfl, rfl⟩
  | recentTradeList symbol limit =>
    simp only [Request.task] at settled
    split at settled
    · cases settled
      exact .inr ⟨_, rfl, rfl⟩
    · cases settled

/-- A read tells of no execution but those on the tape. -/
theorem look_trades {symbol : String} {op : BookOp} {answer : BookReply → Response}
    (settled : request.task settings clock = .look symbol op answer)
    (ran : book.look op answer = .ok (book', response)) :
    ∀ trade ∈ response.trades, trade ∈ book.recentTrades := by
  obtain ⟨⟨_, reply, _⟩, performed, ran⟩ := Outcome.bind_eq_ok ran
  cases ran
  rcases task_reads settled with ⟨rfl, rfl⟩ | ⟨limit, rfl, rfl⟩
  · -- A depth is no tape, whatever the book replies.
    intro trade told
    cases reply <;> exact absurd told List.not_mem_nil
  · intro trade told
    simp only [OrderBook.perform, Except.ok.injEq, Prod.mk.injEq] at performed
    obtain ⟨rfl, rfl, _⟩ := performed
    simp only [OrderBook.recentTradesNewest] at told
    -- An invalid limit is answered without any trade.
    split at told
    · exact absurd told List.not_mem_nil
    · exact List.mem_of_mem_drop (List.mem_reverse.mp told)

/-- Carrying a request out brings nothing to memory but the order that it places. -/
theorem Carried.remembers (carried : Carried settings clock registry task registry' response)
    (settled : request.task settings clock = task) (ok : MatcherOk settings registry)
    (fresh : ∀ orderId ∈ task.newIds, orderId ∉ registry.restingIds)
    (remembers : registry'.Remembers orderId) :
    orderId ∈ task.newIds ∨ registry.Remembers orderId := by
  -- Every task works on one symbol's book or on none.
  cases carried with
  | @placed order registry' book' response owns ran turned =>
    obtain ⟨book_ok, own, absent⟩ := ok.bookOrNew_ok order.symbol_present
    have unheld := absent order.orderId (fresh order.orderId (List.mem_singleton_self _))
    obtain ⟨evolved, _⟩ := placeOrder_evolved book_ok own.symm unheld ran
    exact turned.remembers (fun known => (evolved.remembers known).imp_right remembers_of_bookOrNew)
      remembers
  | @taken _ symbol book registry' book' response here member ran turned =>
    obtain ⟨evolved, _⟩ := takeOrder_evolved (ok.book_ok here).1 ran
    have known := turned.remembers
      (fun known => (evolved.remembers known).imp_right fun before => ⟨symbol, book, here, before⟩)
      remembers
    exact .inr (known.resolve_left List.not_mem_nil)
  | @looked symbol op answer registry' book' response named owns ran turned =>
    obtain ⟨book_ok, own, _⟩ := ok.bookOrNew_ok named
    have evolved := look_evolved book_ok (task_look settled).1 ran
    have known := turned.remembers
      (fun known => (evolved.remembers known).imp_right remembers_of_bookOrNew) remembers
    exact .inr (known.resolve_left List.not_mem_nil)
  | refused | closed | foreign | unnamed => exact .inr remembers

/-- The executions of a response are between the order that is placed and remembered ones. -/
theorem Carried.traded (carried : Carried settings clock registry task registry' response)
    (settled : request.task settings clock = task) (ok : MatcherOk settings registry)
    (fresh : ∀ orderId ∈ task.newIds, orderId ∉ registry.restingIds)
    {trade : Trade} (told : trade ∈ response.trades) (named : trade.names orderId = true) :
    orderId ∈ task.newIds ∨ registry.Remembers orderId := by
  cases carried with
  | refused =>
    -- No reason for a refusal tells of an execution.
    rcases task_refuse settled with ⟨_, reason⟩ | ⟨_, reason⟩
    all_goals
      rw [Response.trades, reason] at told
      exact absurd told List.not_mem_nil
  | @placed order registry' book' response owns ran turned =>
    obtain ⟨book_ok, own, absent⟩ := ok.bookOrNew_ok order.symbol_present
    have unheld := absent order.orderId (fresh order.orderId (List.mem_singleton_self _))
    obtain ⟨_, result, rfl, known⟩ := placeOrder_evolved book_ok own.symm unheld ran
    refine (known trade told orderId named).imp_right fun rests => ?_
    exact remembers_of_bookOrNew (.inl rests)
  | closed | foreign | unnamed => exact absurd told List.not_mem_nil
  | @taken _ symbol book registry' book' response here member ran turned =>
    -- Neither answer to a cancel tells of an execution.
    rcases (takeOrder_evolved (ok.book_ok here).1 ran).2.2 with rfl | ⟨_, _, _, rfl⟩
    · exact absurd told List.not_mem_nil
    · exact absurd told List.not_mem_nil
  | @looked symbol op answer registry' book' response shown owns ran turned =>
    have kept := look_trades settled ran trade told
    exact .inr (remembers_of_bookOrNew (.inr ⟨trade, kept, named⟩))

/-- A placed order is accepted. -/
theorem Carried.accepted {order : Order}
    (carried : Carried settings clock registry (.place order) registry' response)
    (ok : MatcherOk settings registry) (fresh : order.orderId ∉ registry.restingIds)
    (brings : request.newIds = [order.orderId]) :
    (Answered.mk clock request response).accepted =
      [(order.orderId, seoulDate clock.sessionAt)] := by
  cases carried with
  | @placed _ registry' book' response owns ran turned =>
    obtain ⟨book_ok, own, absent⟩ := ok.bookOrNew_ok order.symbol_present
    obtain ⟨_, result, rfl, _⟩ := placeOrder_evolved book_ok own.symm (absent _ fresh) ran
    -- Only an order brings an identifier in.
    cases request with
    | createOrder data orderId =>
      cases brings
      rfl
    | cancelOrder | bookDetail | recentTradeList => cases brings

end Memory

namespace MatcherRun

/-- Where the last session is the one of every order that the books remember. -/
structure Isolated (settings : MatcherSettings) (past : List Answered) (registry : Registry)
    (later : List (Readings × Request)) : Prop where
  ok : MatcherOk settings registry
  used : ∀ orderId ∈ registry.restingIds,
    orderId ∈ past.flatMap fun answered => answered.request.newIds
  distinct : ((past.flatMap fun answered => answered.request.newIds) ++ newIds later).Nodup
  onTime : OnTime later
  active : ∀ date, registry.activeSessionDate = some date →
    ∀ request ∈ later, date ≤ seoulDate request.1.sessionAt
  remembered : ∀ orderId, registry.Remembers orderId →
    ∃ date, registry.activeSessionDate = some date ∧ (orderId, date) ∈ accepted past
  entered : ∀ answered ∈ past, answered.Entered settings.mode → weekday answered.date < 5 →
    ∃ date, registry.activeSessionDate = some date ∧ answered.date ≤ date
  traded : ∀ answered ∈ past, ∀ trade ∈ answered.response.trades, ∃ date, ∀ orderId,
    trade.names orderId = true → (orderId, date) ∈ accepted past

section Steps

variable {settings : MatcherSettings} {past : List Answered} {registry registry' : Registry}
  {clock : Readings} {request : Request} {later : List (Readings × Request)} {orderId : UUID}

/-- No date is before itself. -/
theorem NotBefore.refl (date : Option Int) : NotBefore date date :=
  fun day same => ⟨day, same, le_refl day⟩

/-- A date that is not before another is not before what that one follows. -/
theorem NotBefore.trans {first second third : Option Int} (forth : NotBefore first second)
    (on : NotBefore second third) : NotBefore first third := by
  intro date same
  obtain ⟨next, same, less⟩ := forth date same
  obtain ⟨last, same, less'⟩ := on next same
  exact ⟨last, same, less.trans less'⟩

/-- The requests after the first one are on time, and not earlier than it. -/
theorem OnTime.rest (onTime : OnTime ((clock, request) :: later)) : OnTime later ∧
    ∀ next ∈ later, seoulDate clock.sessionAt ≤ seoulDate next.1.sessionAt := by
  have forth := onTime.forth
  -- The readings of this request come before those of the later ones.
  rw [List.flatMap_cons, List.pairwise_append] at forth
  obtain ⟨_, forth, before⟩ := forth
  refine ⟨⟨forth, fun next inside => onTime.within next (List.mem_cons_of_mem _ inside)⟩, ?_⟩
  intro next inside
  apply seoulDate_mono
  apply before _ (by simp) _ (List.mem_flatMap.mpr ⟨next, inside, by simp⟩)

/-- What is accepted first comes first. -/
theorem accepted_append (first second : List Answered) :
    accepted (first ++ second) = accepted first ++ accepted second := List.flatMap_append

/-- A single answer accepts what it accepts. -/
theorem accepted_singleton (answered : Answered) : accepted [answered] = answered.accepted :=
  List.flatMap_singleton _ _

/-- An order is accepted under the identifier that its request introduces. -/
theorem newIds_of_accepted {answered : Answered} {date : Int}
    (member : (orderId, date) ∈ answered.accepted) :
    orderId ∈ answered.request.newIds ∧ date = answered.date := by
  unfold Answered.accepted at member
  -- Only an answer with a match accepts an order.
  split at member
  · rename_i brings _
    cases List.mem_singleton.mp member
    rw [brings]
    exact ⟨List.mem_singleton_self _, rfl⟩
  · exact absurd member List.not_mem_nil

/-- When identifiers are new, an order is accepted on one date only. -/
theorem accepted_unique (distinct : (past.flatMap fun answered => answered.request.newIds).Nodup)
    {first second : Int} (one : (orderId, first) ∈ accepted past)
    (other : (orderId, second) ∈ accepted past) : first = second := by
  -- Both acceptances belong to requests, which share an identifier only if they are the same.
  induction past with
  | nil => exact absurd one List.not_mem_nil
  | cons answered past ih =>
    rw [List.flatMap_cons, List.nodup_append'] at distinct
    obtain ⟨_, distinct, apart⟩ := distinct
    -- An identifier that was accepted was introduced by its request.
    have inside : ∀ date, (orderId, date) ∈ accepted past →
        orderId ∈ past.flatMap fun answered => answered.request.newIds := by
      intro date member
      obtain ⟨answered, among, member⟩ := List.mem_flatMap.mp member
      exact List.mem_flatMap.mpr ⟨answered, among, (newIds_of_accepted member).1⟩
    rw [accepted, List.flatMap_cons, List.mem_append] at one other
    rcases one with one | one <;> rcases other with other | other
    · exact (newIds_of_accepted one).2.trans (newIds_of_accepted other).2.symm
    · exact absurd (inside _ other) (apart (newIds_of_accepted one).1)
    · exact absurd (inside _ one) (apart (newIds_of_accepted other).1)
    · exact ih distinct one other

/-- On a weekday the session is the one of the day, and only its own orders stay in memory. -/
theorem rolled_dates (scheduled : settings.mode = .scheduled) {now : Instant}
    (late : ∀ date, registry.activeSessionDate = some date → date ≤ seoulDate now) :
    (¬ weekday (seoulDate now) < 5 ∧ registry.rolloverMarketSession settings now = registry) ∨
      ((registry.rolloverMarketSession settings now).activeSessionDate = some (seoulDate now) ∧
        ∀ orderId, (registry.rolloverMarketSession settings now).Remembers orderId →
          registry.Remembers orderId ∧
            ∀ date, registry.activeSessionDate = some date → date = seoulDate now) := by
  -- In scheduled mode a session is never skipped for being always open.
  have mode : settings.mode ≠ .alwaysOpen := by
    rw [scheduled]
    exact nofun
  simp only [Registry.rolloverMarketSession, sessionDate, mode, if_false, false_or]
  by_cases working : weekday (seoulDate now) < 5
  -- There is no session on a weekend.
  case neg =>
    refine .inl ⟨working, ?_⟩
    rw [if_neg working]
    rfl
  case pos =>
    refine .inr ?_
    rw [if_pos working]
    cases active : registry.activeSessionDate with
    | none =>
      -- The first session is adopted, and nothing is cleared.
      simp only [Registry.rollover, active]
      exact ⟨trivial, fun orderId remembers => ⟨remembers, nofun⟩⟩
    | some date =>
      have before := late date active
      simp only [Registry.rollover, active]
      -- The session is the one of the same day, or it is over.
      split_ifs with newer
      · have same : date = seoulDate now := le_antisymm before newer
        rw [active, same]
        refine ⟨rfl, fun orderId remembers => ⟨remembers, fun other known => ?_⟩⟩
        exact (Option.some.inj known).symm
      · -- A new session clears all books, so nothing is remembered.
        refine ⟨rfl, fun orderId remembers => ?_⟩
        obtain ⟨symbol, book, here, _⟩ := remembers
        cases here

/-- An order is placed only while the market is open, which it is on weekdays. -/
theorem weekday_of_entered {order : Order} (scheduled : settings.mode = .scheduled)
    (entered : ¬ (request.isOrder = true ∧ ¬ isOpen settings.mode clock.openAt))
    (within : seoulDate clock.openAt = seoulDate clock.sessionAt)
    (settled : request.task settings clock = .place order) :
    weekday (seoulDate clock.sessionAt) < 5 := by
  have brings := (task_place settled).2
  have opened : isOpen settings.mode clock.openAt = true := by
    -- Only an order is placed, and it was let through.
    cases request with
    | createOrder data orderId => simpa [Request.isOrder] using entered
    | cancelOrder | bookDetail | recentTradeList => cases brings
  rw [scheduled] at opened
  simp only [isOpen, Bool.and_eq_true, decide_eq_true_eq] at opened
  rw [← within]
  exact opened.1.1

/-- Starting the session keeps the orders in memory to those of the session. -/
theorem Isolated.rolled (isolated : Isolated settings past registry ((clock, request) :: later))
    (scheduled : settings.mode = .scheduled) {rolled : Registry}
    (starts : registry.rolloverMarketSession settings clock.sessionAt = rolled) :
    NotBefore registry.activeSessionDate rolled.activeSessionDate ∧
      (∀ date, rolled.activeSessionDate = some date → date ≤ seoulDate clock.sessionAt) ∧
      (weekday (seoulDate clock.sessionAt) < 5 →
        rolled.activeSessionDate = some (seoulDate clock.sessionAt)) ∧
      ∀ orderId, rolled.Remembers orderId →
        ∃ date, rolled.activeSessionDate = some date ∧ (orderId, date) ∈ accepted past := by
  have late : ∀ date, registry.activeSessionDate = some date →
      date ≤ seoulDate clock.sessionAt :=
    fun date active => isolated.active date active _ List.mem_cons_self
  -- The day is on a weekend and nothing happens, or its session is the active one.
  rcases rolled_dates scheduled late with ⟨weekend, same⟩ | ⟨active, kept⟩
  · rw [same] at starts
    subst starts
    exact ⟨NotBefore.refl _, late, fun working => absurd working weekend, isolated.remembered⟩
  · rw [starts] at active kept
    refine ⟨fun date before => ⟨_, active, late date before⟩, fun date now => ?_,
      fun _ => active, fun orderId remembers => ?_⟩
    · rw [active] at now
      exact (Option.some.inj now).ge
    · -- What is still in memory was accepted in the session that goes on.
      obtain ⟨remembered, same⟩ := kept orderId remembers
      obtain ⟨date, before, member⟩ := isolated.remembered orderId remembered
      exact ⟨date, active.trans (congrArg some (same date before).symm), member⟩

/-- A refused order changes nothing. -/
theorem Isolated.refused (isolated : Isolated settings past registry ((clock, request) :: later))
    (closed : request.isOrder = true ∧ ¬ isOpen settings.mode clock.openAt) :
    Isolated settings (past ++ [⟨clock, request, marketClosed⟩]) registry later := by
  -- What was accepted earlier stays accepted.
  have more : ∀ {item}, item ∈ accepted past →
      item ∈ accepted (past ++ [⟨clock, request, marketClosed⟩]) := by
    intro item member
    rw [accepted_append]
    exact List.mem_append_left _ member
  have distinct := isolated.distinct
  rw [newIds, List.flatMap_cons, ← List.append_assoc] at distinct
  refine ⟨isolated.ok, fun orderId rests => ?_, ?_, isolated.onTime.rest.1,
    fun date active next inside => ?_, fun orderId remembers => ?_,
    fun answered inside entered working => ?_, fun answered inside trade told => ?_⟩
  · rw [List.flatMap_append]
    exact List.mem_append_left _ (isolated.used orderId rests)
  · rw [List.flatMap_append, List.flatMap_singleton]
    exact distinct
  · exact isolated.active date active next (List.mem_cons_of_mem _ inside)
  · obtain ⟨date, active, member⟩ := isolated.remembered orderId remembers
    exact ⟨date, active, more member⟩
  · -- The request itself was not let through.
    rcases List.mem_append.mp inside with before | now
    · exact isolated.entered answered before entered working
    · cases List.mem_singleton.mp now
      exact absurd closed entered
  · rcases List.mem_append.mp inside with before | now
    · obtain ⟨date, named⟩ := isolated.traded answered before trade told
      exact ⟨date, fun orderId names => more (named orderId names)⟩
    · -- The refusal tells of no execution.
      cases List.mem_singleton.mp now
      exact absurd told List.not_mem_nil

/-- A request that is let through keeps the sessions apart. -/
theorem Isolated.carried (isolated : Isolated settings past registry ((clock, request) :: later))
    (scheduled : settings.mode = .scheduled)
    (entered : ¬ (request.isOrder = true ∧ ¬ isOpen settings.mode clock.openAt))
    {response : Response}
    (ran : registry.handle settings clock request = .ok (registry', response))
    (fresh : ∀ orderId ∈ request.newIds, orderId ∉ registry.restingIds)
    (carried : Carried settings clock
      (registry.rolloverMarketSession settings clock.sessionAt) (request.task settings clock)
      registry' response) :
    Isolated settings (past ++ [⟨clock, request, response⟩]) registry' later ∧
      NotBefore registry.activeSessionDate registry'.activeSessionDate := by
  -- The request is carried out in the session that it starts.
  rw [handle_eq, if_neg entered] at ran
  have kept := carryOut_date ran
  have rolled_ok := isolated.ok.rolled clock.sessionAt
  have same_ids := rolled_restingIds registry settings clock.sessionAt
  generalize starts : registry.rolloverMarketSession settings clock.sessionAt = rolled at *
  obtain ⟨forth, late, working, remembered⟩ := isolated.rolled scheduled starts
  have within := isolated.onTime.within (clock, request) List.mem_cons_self
  have fresh' : ∀ orderId ∈ (request.task settings clock).newIds,
      orderId ∉ rolled.restingIds := by
    intro orderId new
    rw [same_ids]
    exact fresh orderId (task_newIds new)
  have more : ∀ {item}, item ∈ accepted past →
      item ∈ accepted (past ++ [⟨clock, request, response⟩]) := by
    intro item member
    rw [accepted_append]
    exact List.mem_append_left _ member
  -- The order that is placed and the remembered ones were accepted in the session that goes on.
  have known : ∀ orderId, (orderId ∈ (request.task settings clock).newIds ∨
      rolled.Remembers orderId) → ∃ date, registry'.activeSessionDate = some date ∧
        (orderId, date) ∈ accepted (past ++ [⟨clock, request, response⟩]) := by
    rw [kept]
    rintro orderId (new | remembers)
    · -- An identifier is introduced by an order that is placed.
      cases settled : request.task settings clock with
      | place order =>
        rw [settled] at new carried fresh'
        cases List.mem_singleton.mp new
        refine ⟨_, working (weekday_of_entered scheduled entered within settled), ?_⟩
        rw [accepted_append, accepted_singleton,
          carried.accepted rolled_ok (fresh' _ new) (task_place settled).2]
        exact List.mem_append_right _ (List.mem_singleton_self _)
      | refuse | take | look =>
        rw [settled] at new
        exact absurd new List.not_mem_nil
    · obtain ⟨date, active, member⟩ := remembered orderId remembers
      exact ⟨date, active, more member⟩
  have distinct := isolated.distinct
  rw [newIds, List.flatMap_cons, ← List.append_assoc] at distinct
  refine ⟨⟨carried.ok rolled_ok, fun orderId rests => ?_, ?_, isolated.onTime.rest.1,
    fun date active next inside => ?_, fun orderId remembers => ?_,
    fun answered inside let_through weekday => ?_, fun answered inside trade told => ?_⟩,
    kept ▸ forth⟩
  · rw [List.flatMap_append, List.flatMap_singleton]
    rcases carried.resting rests with new | before
    · exact List.mem_append_right _ (task_newIds new)
    · rw [same_ids] at before
      exact List.mem_append_left _ (isolated.used orderId before)
  · rw [List.flatMap_append, List.flatMap_singleton]
    exact distinct
  · rw [kept] at active
    exact (late date active).trans (isolated.onTime.rest.2 next inside)
  · exact known orderId (carried.remembers rfl rolled_ok fresh' remembers)
  · rw [kept]
    -- Earlier requests entered sessions that are not later than this one.
    rcases List.mem_append.mp inside with before | now
    · obtain ⟨date, active, less⟩ := isolated.entered answered before let_through weekday
      obtain ⟨next, active', less'⟩ := forth date active
      exact ⟨next, active', less.trans less'⟩
    · -- The request itself has entered the session of its day.
      cases List.mem_singleton.mp now
      exact ⟨_, working weekday, le_refl _⟩
  · rcases List.mem_append.mp inside with before | now
    · obtain ⟨date, named⟩ := isolated.traded answered before trade told
      exact ⟨date, fun orderId names => more (named orderId names)⟩
    · cases List.mem_singleton.mp now
      -- The buyer tells which session the execution belongs to.
      have buyer : trade.names trade.buyOrderId = true := decide_eq_true (.inl rfl)
      obtain ⟨date, active, _⟩ := known _ (carried.traded rfl rolled_ok fresh' told buyer)
      refine ⟨date, fun orderId names => ?_⟩
      obtain ⟨date', active', member⟩ := known _ (carried.traded rfl rolled_ok fresh' told names)
      cases Option.some.inj (active.symm.trans active')
      exact member

/-- Every request is answered, and the answer keeps the sessions apart. -/
theorem Isolated.step (isolated : Isolated settings past registry ((clock, request) :: later))
    (scheduled : settings.mode = .scheduled) :
    ∃ registry' answered, registry.answer settings (clock, request) = .ok (registry', answered) ∧
      Isolated settings (past ++ [answered]) registry' later ∧
      NotBefore registry.activeSessionDate registry'.activeSessionDate := by
  -- Identifiers at rest were introduced earlier, and are not used again.
  have fresh : ∀ orderId ∈ request.newIds, orderId ∉ registry.restingIds := by
    intro orderId new rests
    have inside : orderId ∈ newIds ((clock, request) :: later) :=
      List.mem_flatMap.mpr ⟨_, List.mem_cons_self, new⟩
    exact (List.nodup_append'.mp isolated.distinct).2.2 (isolated.used orderId rests) inside
  obtain ⟨registry', response, ran, outcome⟩ := isolated.ok.handle_spec clock request fresh
  refine ⟨registry', ⟨clock, request, response⟩, ?_, ?_⟩
  · simp only [Registry.answer, ran, Except.map]
  · -- The market refuses the order, or carries the request out.
    rcases outcome with ⟨order, closed, rfl, rfl⟩ | ⟨entered, carried⟩
    · exact ⟨isolated.refused ⟨order, closed⟩, NotBefore.refl _⟩
    · exact isolated.carried scheduled entered ran fresh carried

end Steps

section Runs

variable {settings : MatcherSettings} {past : List Answered} {registry : Registry}

/-- A run over the first of the requests to come keeps the sessions apart. -/
theorem Isolated.run {before after : List (Readings × Request)}
    (isolated : Isolated settings past registry (before ++ after))
    (scheduled : settings.mode = .scheduled) :
    ∃ last answers, Registry.serve settings registry before = .ok (last, answers) ∧
      Isolated settings (past ++ answers) last after ∧
      NotBefore registry.activeSessionDate last.activeSessionDate :=
  Machine.run_history
    (fun past state later => Isolated settings past state (later ++ after) ∧
      NotBefore registry.activeSessionDate state.activeSessionDate)
    (fun past state request later held => by
      obtain ⟨clock, request⟩ := request
      obtain ⟨next, answered, ran, isolated, forth⟩ := held.1.step scheduled
      exact ⟨next, answered, ran, isolated, held.2.trans forth⟩)
    before past registry ⟨isolated, NotBefore.refl _⟩

/-- A matcher starts without any session. -/
theorem Isolated.new (settings : MatcherSettings) {requests : List (Readings × Request)}
    (onTime : OnTime requests) (distinct : (newIds requests).Nodup) :
    Isolated settings [] .new requests := by
  -- Without books and answers, there is nothing to be kept apart.
  refine ⟨.new settings, fun orderId rests => ?_, distinct, onTime, fun date active => ?_, ?_,
    fun answered inside => ?_, fun answered inside => ?_⟩
  · exact absurd rests List.not_mem_nil
  · cases active
  · rintro orderId ⟨symbol, book, here, _⟩
    cases here
  · exact absurd inside List.not_mem_nil
  · exact absurd inside List.not_mem_nil

/-- An order is gone: no book or tape knows it, and a cancel whose symbol is right finds it closed. -/
structure Gone (settings : MatcherSettings) (registry : Registry) (orderId : UUID) : Prop where
  forgotten : ¬ registry.Remembers orderId
  closed : ∀ clock symbol,
    (Request.cancelOrder orderId symbol).task settings clock = .take orderId →
      ∃ registry', registry.handle settings clock (.cancelOrder orderId symbol) =
        .ok (registry', alreadyClosed orderId)

/-- A cancel of an order that no book remembers finds it closed. -/
theorem Gone.of_forgotten (ok : MatcherOk settings registry) {orderId : UUID}
    (forgotten : ¬ registry.Remembers orderId) : Gone settings registry orderId := by
  refine ⟨forgotten, fun clock symbol settled => ?_⟩
  obtain ⟨registry', response, ran, outcome⟩ :=
    ok.handle_spec clock (.cancelOrder orderId symbol) nofun
  -- A cancel is no order, so that a closed market carries it out.
  rcases outcome with ⟨order, _⟩ | ⟨_, carried⟩
  · exact absurd order Bool.false_ne_true
  · rw [settled] at carried
    have unheld : ∀ symbol book,
        (registry.rolloverMarketSession settings clock.sessionAt).bookOf symbol = some book →
          orderId ∉ book.plain.ids := by
      intro symbol book here rests
      -- The session keeps the symbol's book or forgets it.
      rcases bookOf_rolled registry settings clock.sessionAt symbol with same | none
      · exact forgotten ⟨symbol, book, same ▸ here, .inl rests⟩
      · rw [none] at here
        cases here
    exact ⟨registry', take_unheld carried unheld ▸ ran⟩

/-- Every execution is between orders of one session. -/
theorem Isolated.pairs {later : List (Readings × Request)}
    (isolated : Isolated settings past registry later) {answered : Answered}
    (inside : answered ∈ past) {trade : Trade} (told : trade ∈ answered.response.trades) :
    ∃ date, ∀ orderId, trade.names orderId = true →
      ∀ other, (orderId, other) ∈ accepted past ↔ other = date := by
  -- All parties of the execution were accepted on the day that the run tells.
  obtain ⟨date, named⟩ := isolated.traded answered inside trade told
  refine ⟨date, fun orderId names other => ⟨fun member => ?_, fun same => ?_⟩⟩
  · exact accepted_unique (List.nodup_append'.mp isolated.distinct).1 member (named orderId names)
  · rw [same]
    exact named orderId names

/-- Once a later session has been entered, the orders of an earlier one are gone. -/
theorem Isolated.gone {later : List (Readings × Request)}
    (isolated : Isolated settings past registry later) {answered : Answered}
    (inside : answered ∈ past) (entered : answered.Entered settings.mode)
    (working : weekday answered.date < 5) {orderId : UUID} {date : Int}
    (member : (orderId, date) ∈ accepted past) (earlier : date < answered.date) :
    Gone settings registry orderId := by
  refine .of_forgotten isolated.ok fun remembers => ?_
  -- A remembered order would be one of the active session, which is later.
  obtain ⟨active, now, member'⟩ := isolated.remembered orderId remembers
  obtain ⟨active', now', less⟩ := isolated.entered answered inside entered working
  cases Option.some.inj (now.symm.trans now')
  have same := accepted_unique (List.nodup_append'.mp isolated.distinct).1 member member'
  omega

/--
In scheduled mode the session date never goes back, every execution is between orders accepted on
one date, and once a request has been let through on a later weekday the orders of earlier dates
are gone.
-/
theorem sessions_isolated (settings : MatcherSettings) (scheduled : settings.mode = .scheduled)
    (requests : List (Readings × Request)) (onTime : OnTime requests)
    (distinct : (newIds requests).Nodup) :
    ∃ registry answers, Registry.serve settings .new requests = .ok (registry, answers) ∧
      (∀ before after, before ++ after = requests → ∃ middle first,
        Registry.serve settings .new before = .ok (middle, first) ∧
          NotBefore middle.activeSessionDate registry.activeSessionDate) ∧
      (∀ answered ∈ answers, ∀ trade ∈ answered.response.trades, ∃ date, ∀ orderId,
        trade.names orderId = true → ∀ other, (orderId, other) ∈ accepted answers ↔ other = date) ∧
      ∀ answered ∈ answers, answered.Entered settings.mode → weekday answered.date < 5 →
        ∀ orderId date, (orderId, date) ∈ accepted answers → date < answered.date →
          Gone settings registry orderId := by
  have start := Isolated.new settings onTime distinct
  -- The whole run and each of its parts start from a new matcher.
  have whole := start
  rw [← List.append_nil requests] at whole
  obtain ⟨registry, answers, ran, isolated, _⟩ := whole.run scheduled
  rw [List.nil_append] at isolated
  refine ⟨registry, answers, ran, ?_, fun answered inside trade told => isolated.pairs inside told,
    fun answered inside entered working orderId date member earlier =>
      isolated.gone inside entered working member earlier⟩
  intro before after parts
  subst parts
  obtain ⟨middle, first, ran₁, isolated₁, _⟩ := start.run scheduled
  -- The rest of the run goes on from the state that the first part has reached.
  have rest := isolated₁
  rw [← List.append_nil after] at rest
  obtain ⟨last, second, ran₂, _, forth⟩ := rest.run scheduled
  have joined := Machine.run_append_ok ran₁ after
  unfold Registry.serve at ran ran₂
  rw [ran, ran₂] at joined
  cases joined
  exact ⟨middle, first, ran₁, forth⟩

/-- A matcher of one symbol, open on weekdays. -/
def weekdayMatcher : MatcherSettings :=
  ⟨["005930"], 0, 1, 0, .scheduled, Nat.one_pos, noAge_nonneg⟩

/-- All clocks of a request read one time. -/
def readingsAt (now : Instant) : Readings := ⟨now, now, 0, 0, 0, 0⟩

/-- An offer of one share. -/
def offerOf (orderId : UUID) : Request :=
  .createOrder (.given ⟨.given "seller", .given "005930", .given "SELL", .given 70000, .given 1⟩)
    orderId

/-- An offer on a Thursday at noon, and a look at the book on the next day. -/
def twoDays : List (Readings × Request) :=
  [(readingsAt 10800000000, offerOf 1), (readingsAt 97200000000, .bookDetail "005930")]

/-- The two days follow each other. -/
theorem twoDays_onTime : OnTime twoDays := ⟨by decide, by decide⟩

/-- Two sessions, with an order of the first one left behind. -/
theorem sessions_isolated_two_days :
    ∃ registry answers, Registry.serve weekdayMatcher .new twoDays = .ok (registry, answers) ∧
      (∀ before after, before ++ after = twoDays → ∃ middle first,
        Registry.serve weekdayMatcher .new before = .ok (middle, first) ∧
          NotBefore middle.activeSessionDate registry.activeSessionDate) ∧
      (∀ answered ∈ answers, ∀ trade ∈ answered.response.trades, ∃ date, ∀ orderId,
        trade.names orderId = true → ∀ other, (orderId, other) ∈ accepted answers ↔ other = date) ∧
      ∀ answered ∈ answers, answered.Entered weekdayMatcher.mode → weekday answered.date < 5 →
        ∀ orderId date, (orderId, date) ∈ accepted answers → date < answered.date →
          Gone weekdayMatcher registry orderId :=
  sessions_isolated weekdayMatcher rfl twoDays twoDays_onTime (by decide)

/-- An offer on a Thursday, one on Friday before the market opens, and a cancel on Saturday. -/
def threeDays : List (Readings × Request) :=
  [(readingsAt 10800000000, offerOf 1), (readingsAt 82800000000, offerOf 2),
    (readingsAt 183600000000, .cancelOrder 1 none)]

/-- Whether the order of Thursday is canceled on Saturday, after an order was refused on Friday. -/
def keptOverRefusal : Bool :=
  match Registry.serve weekdayMatcher .new threeDays with
  | .ok (_, [thursday, friday, saturday]) =>
    decide (thursday.accepted = [(1, 0)] ∧ friday.response = marketClosed ∧ friday.date = 1 ∧
      saturday.response = ⟨200, .canceled 1 "CANCELED" 1⟩)
  | _ => false

/-- An order refused on a weekday starts no session, so that the order of the day before stays. -/
theorem order_outlives_refusal : OnTime threeDays ∧ (newIds threeDays).Nodup ∧
    ∃ registry thursday friday saturday,
      Registry.serve weekdayMatcher .new threeDays = .ok (registry, [thursday, friday, saturday]) ∧
      (1, 0) ∈ thursday.accepted ∧ friday.date = 1 ∧ weekday friday.date < 5 ∧
      saturday.response = ⟨200, .canceled 1 "CANCELED" 1⟩ := by
  -- The days are evaluated once, and what was seen is then told apart.
  have seen : keptOverRefusal = true := by decide +kernel
  unfold keptOverRefusal at seen
  split at seen
  · rename_i registry thursday friday saturday ran
    obtain ⟨first, refused, later, taken⟩ := of_decide_eq_true seen
    refine ⟨⟨by decide, by decide⟩, by decide, registry, thursday, friday, saturday, ran, ?_, later,
      ?_, taken⟩
    · rw [first]
      exact List.mem_singleton_self _
    · rw [later]
      decide
  · cases seen

end Runs

end MatcherRun

end StockMarket
