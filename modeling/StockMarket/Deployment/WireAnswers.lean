import StockMarket.Deployment.Wire

/-! What the runner's client reads from the bytes that a matcher answers. -/

namespace StockMarket

section Records

variable {style : Json.Style} {depth : Nat} {name : String} {fields : List (String × Json)}

/-- Different strings have different characters. -/
theorem codePoints_injective : Function.Injective codePoints := by
  intro first second same
  have read := CodePoints.toString?_codePoints first
  rw [same, CodePoints.toString?_codePoints second] at read
  exact (Option.some.inj read).symm

/-- The characters of a string's code points are its own. -/
@[simp]
theorem characters_codePoints (text : String) : (codePoints text).characters = text.toList :=
  BackendApiClient.characters_map text.toList

/-- A field of a record is looked up by its name. -/
theorem field?_record (fields : List (String × Json)) (name : String) :
    Json.field? (fields.map fun (name, value) => (codePoints name, value)) name =
      (fields.find? fun field => field.1 = name).map Prod.snd := by
  rw [Json.field?, List.find?_map]
  simp only [Function.comp_def, codePoints_injective.eq_iff, Option.map_map]

/-- A string is read back when it is written. -/
theorem Json.Legible.string (text : String) : Json.Legible style depth (.string text) :=
  .text fun _ => Json.isScalar_of_mem_codePoints

/-- A record with distinct names is read back when its values are. -/
theorem Json.Legible.record (distinct : (fields.map Prod.fst).Nodup)
    (each : ∀ field ∈ fields, Json.Legible style depth field.2) :
    Json.Legible style (depth + 1) (.record fields) := by
  -- Names of fields are texts of scalars, and stay apart as such.
  refine .object ?_ ?_ ?_
  · intro field member point inside
    obtain ⟨named, _, rfl⟩ := List.mem_map.mp member
    exact Json.isScalar_of_mem_codePoints inside
  · have names : (fields.map fun (name, value) => (codePoints name, value)).map Prod.fst =
        (fields.map Prod.fst).map codePoints := by
      simp only [List.map_map, Function.comp_def]
    rw [names]
    exact distinct.map codePoints_injective
  · intro field member
    obtain ⟨named, inside, rfl⟩ := List.mem_map.mp member
    exact each named inside

end Records

/-- A number of an answer that can be written is short. -/
theorem ResponseBody.short {body : ResponseBody} (writable : body.isWritable = true) {value : Int}
    (member : value ∈ body.integers) : value.natAbs < 10 ^ maxIntegerDigits := by
  have own := List.all_eq_true.mp writable value member
  exact isUnwritable_eq_false_iff.mp (by simpa using own)

section Payloads

variable {style : Json.Style} {stamps : Nat → String × String}

/-- The trades of an answer are read back, at a depth of two. -/
theorem legible_tradePayloads {trades : List Trade} (short : ∀ trade ∈ trades,
    trade.price.natAbs < 10 ^ maxIntegerDigits ∧ trade.quantity.natAbs < 10 ^ maxIntegerDigits) :
    Json.Legible style 2 (tradePayloads stamps trades) := by
  -- Of a trade only the price and the quantity can be too long.
  refine .array fun item member => ?_
  obtain ⟨⟨trade, place⟩, inside, rfl⟩ := List.mem_map.mp member
  obtain ⟨price, quantity⟩ := short trade (List.fst_mem_of_mem_zipIdx inside)
  refine .record (by simp) ?_
  simp only [List.forall_mem_cons]
  exact ⟨.string _, .string _, .string _, .integer price, .integer quantity, .string _, .string _,
    nofun⟩

/-- The levels of one side are read back, at a depth of two. -/
theorem legible_levels {levels : List BookLevel} (short : ∀ level ∈ levels,
    level.price.natAbs < 10 ^ maxIntegerDigits ∧ level.quantity.natAbs < 10 ^ maxIntegerDigits) :
    Json.Legible style 2 (.array (levels.map levelPayload)) := by
  -- Of a level only the price and the quantity can be too long.
  refine .array fun item member => ?_
  obtain ⟨level, inside, rfl⟩ := List.mem_map.mp member
  obtain ⟨price, quantity⟩ := short level inside
  refine .record (by simp) ?_
  simp only [List.forall_mem_cons]
  exact ⟨.integer price, .integer quantity, nofun⟩

/-- The answers of the four views, past refusals, are read back at a depth of three. -/
theorem ResponseBody.legible {body : ResponseBody} (writable : body.isWritable = true)
    {payload : Json} (rendered : body.payload? stamps = some payload) :
    Json.Legible style 3 payload := by
  have short (value : Int) (member : value ∈ body.integers) :
      value.natAbs < 10 ^ maxIntegerDigits := ResponseBody.short writable member
  -- Every number that a body renders is among its integers.
  cases body with
  | matchResult result =>
    cases rendered
    refine .record (by simp) ?_
    simp only [List.forall_mem_cons]
    refine ⟨.string _, legible_tradePayloads fun trade member => ⟨short _ ?_, short _ ?_⟩,
      .integer (short _ List.mem_cons_self), nofun⟩
    all_goals exact List.mem_cons_of_mem _ (List.mem_flatMap.mpr ⟨trade, member, by simp⟩)
  | snapshot shown =>
    cases rendered
    -- Each level adds its price and its quantity to the integers.
    have level : ∀ level ∈ shown.bids ++ shown.asks,
        level.price.natAbs < 10 ^ maxIntegerDigits ∧ level.quantity.natAbs < 10 ^ maxIntegerDigits :=
      fun level member => ⟨short _ (List.mem_flatMap.mpr ⟨level, member, by simp⟩),
        short _ (List.mem_flatMap.mpr ⟨level, member, by simp⟩)⟩
    refine .record (by simp) ?_
    simp only [List.forall_mem_cons]
    exact ⟨.string _, legible_levels fun one member => level one (List.mem_append_left _ member),
      legible_levels fun one member => level one (List.mem_append_right _ member), nofun⟩
  -- Of a trade, the price and the quantity are numbers.
  | tape symbol trades =>
    cases rendered
    refine .record (by simp) ?_
    simp only [List.forall_mem_cons]
    refine ⟨.string _, legible_tradePayloads fun trade member => ⟨short _ ?_, short _ ?_⟩, nofun⟩
    all_goals exact List.mem_flatMap.mpr ⟨trade, member, by simp⟩
  | canceled orderId status canceledQty =>
    cases rendered
    refine .record (by simp) ?_
    simp only [List.forall_mem_cons]
    exact ⟨.string _, .string _, .integer (short _ (List.mem_singleton_self _)), nofun⟩
  | detail _ | errors _ => cases rendered

end Payloads

namespace BackendApiClient

section Reading

variable {python : Interpreter} {path : CodePoints} {rendering : Rendering}

/-- A value that was written is what a successful request gets. -/
theorem request_written {style : Json.Style} {status : Nat} {payload : Json}
    (sends : python.refusesUrl path = false) (success : 200 ≤ status ∧ status < 300)
    (legible : Json.Legible style python.nesting payload) :
    request python path (.response status (encodeText (Json.write style payload))) = .ok payload := by
  have decoded := Utf8.strict?_encode (Json.write style payload)
  simp only [request, sends, Bool.false_eq_true, if_false, if_pos success, encodeText, decoded,
    Json.loads_write legible]

/-- A field of a record is found under its name. -/
theorem subscript_record {fields : List (String × Json)} {name : String} {value : Json}
    (found : (fields.find? fun field => field.1 = name).map Prod.snd = some value) :
    subscript (.record fields) name = .ok value := by
  rw [Json.record, subscript, field?_record, found]

/-- A level that was written is read back, when its numbers are positive. -/
theorem bookLevel_levelPayload {level : BookLevel} (price : 1 ≤ level.price)
    (quantity : 1 ≤ level.quantity) : bookLevel (levelPayload level) = .ok level := by
  -- Both fields are read back, and both are positive.
  have first : subscript (levelPayload level) "price" = .ok (.integer level.price) :=
    subscript_record rfl
  have second : subscript (levelPayload level) "qty" = .ok (.integer level.quantity) :=
    subscript_record rfl
  have positive : ¬(level.price < 1 ∨ level.quantity < 1) := by omega
  rw [bookLevel, first, second]
  simp only [Bind.bind, Except.bind, toInt, if_neg positive, Pure.pure, Except.pure]

/-- The levels of one side are read back. -/
theorem bookLevels_written {levels : List BookLevel}
    (positive : ∀ level ∈ levels, 1 ≤ level.price ∧ 1 ≤ level.quantity) :
    bookLevels (.array (levels.map levelPayload)) = .ok levels := by
  -- The levels are read back one after the other.
  rw [bookLevels, List.mapM_map]
  induction levels with
  | nil => rfl
  | cons level levels ih =>
    obtain ⟨price, quantity⟩ := positive level List.mem_cons_self
    rw [List.mapM_cons, Function.comp_apply, bookLevel_levelPayload price quantity,
      ih fun other member => positive other (List.mem_cons_of_mem _ member)]
    rfl

/-- An answer that can be written is what a successful request gets. -/
theorem request_transport (response : Response) (sends : python.refusesUrl path = false)
    (deep : 3 ≤ python.nesting) (success : 200 ≤ response.status ∧ response.status < 300)
    (writable : response.body.isWritable = true) {payload : Json}
    (rendered : response.body.payload? rendering.stamps = some payload) :
    request python path (response.transport rendering) = .ok payload := by
  rw [Response.transport, if_pos writable, rendered]
  exact request_written sends success ((ResponseBody.legible writable rendered).deeper deep)

/-- The book that a matcher shows is the book that the client reads. -/
theorem fetchBook_transport {snapshot : BookSnapshot}
    (sends : python.refusesUrl (bookPath snapshot.symbol) = false) (deep : 3 ≤ python.nesting)
    (writable : (ResponseBody.snapshot snapshot).isWritable = true)
    (positive : ∀ level ∈ snapshot.bids ++ snapshot.asks, 1 ≤ level.price ∧ 1 ≤ level.quantity) :
    fetchBook python snapshot.symbol (Response.transport rendering ⟨200, .snapshot snapshot⟩) =
      .ok snapshot := by
  -- The answer is read back as it was rendered, field by field.
  have asked : request python (bookPath snapshot.symbol)
      (Response.transport rendering ⟨200, .snapshot snapshot⟩) = .ok (snapshotPayload snapshot) :=
    request_transport ⟨200, .snapshot snapshot⟩ sends deep (by simp) writable rfl
  have symbol : subscript (snapshotPayload snapshot) "symbol" = .ok (.string snapshot.symbol) :=
    subscript_record rfl
  have bids : subscript (snapshotPayload snapshot) "bids" =
    .ok (.array (snapshot.bids.map levelPayload)) := subscript_record rfl
  have asks : subscript (snapshotPayload snapshot) "asks" =
    .ok (.array (snapshot.asks.map levelPayload)) := subscript_record rfl
  -- The levels are positive, which the client checks.
  have bought := bookLevels_written fun level member =>
    positive level (List.mem_append_left snapshot.asks member)
  have sold := bookLevels_written fun level member =>
    positive level (List.mem_append_right snapshot.bids member)
  -- The three fields are read in their order.
  have fields : bookFields python (snapshotPayload snapshot) =
      .ok (codePoints snapshot.symbol, snapshot.bids, snapshot.asks) := by
    rw [bookFields, symbol, bids, asks]
    simp only [Bind.bind, Except.bind, bought, sold, Pure.pure, Except.pure]
    rfl
  rw [fetchBook, asked]
  simp only [Bind.bind, Except.bind, fields, rescue, ne_eq, not_true_eq_false, if_false, Pure.pure,
    Except.pure]

/-- The order that a matcher has taken is the order that the client hears of. -/
theorem submitOrder_transport {intent : OrderIntent} {result : MatchResult}
    (sends : python.refusesUrl ordersPath = false) (deep : 3 ≤ python.nesting)
    (price : isUnwritable intent.price = false) (quantity : isUnwritable intent.quantity = false)
    (writable : (ResponseBody.matchResult result).isWritable = true) :
    submitOrder python intent (Response.transport rendering ⟨201, .matchResult result⟩) =
      .ok ⟨codePoints (String.ofList (uuidText result.orderId)), result.remainingQuantity⟩ := by
  -- The answer is read back as it was rendered, field by field.
  have asked : request python ordersPath
      (Response.transport rendering ⟨201, .matchResult result⟩) =
        .ok (matchResultPayload rendering.stamps result) :=
    request_transport ⟨201, .matchResult result⟩ sends deep (by simp) writable rfl
  have orderId : subscript (matchResultPayload rendering.stamps result) "order_id" =
    .ok (uuidJson result.orderId) := subscript_record rfl
  have remaining : subscript (matchResultPayload rendering.stamps result) "remaining_qty" =
    .ok (.integer result.remainingQuantity) := subscript_record rfl
  have fields : orderFields python (matchResultPayload rendering.stamps result) =
      .ok ⟨codePoints (String.ofList (uuidText result.orderId)), result.remainingQuantity⟩ := by
    rw [orderFields, orderId, remaining]
    rfl
  -- The client can write the price and the quantity of the intent.
  have sent : ¬(isUnwritable intent.price = true ∨ isUnwritable intent.quantity = true) := by
    simp [price, quantity]
  rw [submitOrder, if_neg sent, asked]
  simp only [Bind.bind, Except.bind, fields, rescue]

/-- What a matcher says about a cancellation is what the client hears. -/
theorem cancelOrder_transport {orderId : CodePoints} {symbol status : String} {canceled : UUID}
    {canceledQty : Int} (sends : python.refusesUrl (cancelPath orderId symbol) = false)
    (deep : 3 ≤ python.nesting) (known : codePoints status ∈ cancelStatuses)
    (writable : isUnwritable canceledQty = false) :
    cancelOrder python orderId symbol
        (Response.transport rendering ⟨200, .canceled canceled status canceledQty⟩) =
      .ok ⟨codePoints status⟩ := by
  -- The answer is read back as it was rendered, field by field.
  have short : (ResponseBody.canceled canceled status canceledQty).isWritable = true := by
    simp [ResponseBody.isWritable, ResponseBody.integers, writable]
  have asked : request python (cancelPath orderId symbol)
      (Response.transport rendering ⟨200, .canceled canceled status canceledQty⟩) =
        .ok (.record [("order_id", uuidJson canceled), ("status", .string status),
          ("canceled_qty", .integer canceledQty)]) :=
    request_transport ⟨200, .canceled canceled status canceledQty⟩ sends deep
      (by simp) short rfl
  -- Only the status of a cancel is read.
  have named : subscript (.record [("order_id", uuidJson canceled), ("status", .string status),
    ("canceled_qty", .integer canceledQty)]) "status" = .ok (.string status) := subscript_record rfl
  have fields : cancelFields python (.record [("order_id", uuidJson canceled),
      ("status", .string status), ("canceled_qty", .integer canceledQty)]) =
        .ok ⟨codePoints status⟩ := by
    rw [cancelFields, named]
    rfl
  rw [cancelOrder, asked]
  simp only [Bind.bind, Except.bind, fields, rescue, if_pos known, Pure.pure, Except.pure]

end Reading

end BackendApiClient

end StockMarket
