import StockMarket.Deployment.RawRequests
import StockMarket.Events.PendingQuery
import StockMarket.Runner.Client

/-! The way of an acknowledgement: quoted by the runner, routed by the gateway, resolved by a server. -/

namespace StockMarket

/-- The views of a matcher's server, with what their paths capture. -/
inductive View where
  | metrics
  | admin
  | health
  | readiness
  | prometheusServiceDiscovery
  | createOrder
  | ingestMarketEvent
  | pendingMarketEvents
  | acknowledgeMarketEvent (eventId : String)
  | cancelOrder (orderId : String)
  | bookDetail (symbol : String)
  | recentTradeList
  | symbolList
  | traderProfileList
  | traderProfileDetail (traderId : String)
  deriving DecidableEq

/-- A part of a route: a fixed text, characters up to a slash, or a UUID in its usual form. -/
inductive RoutePart where
  | literal (text : String)
  | str
  | uuid

/-- A digit, or one of the first six small letters. -/
def isLowerHex (c : Char) : Bool :=
  (48 ≤ c.toNat ∧ c.toNat ≤ 57) ∨ (97 ≤ c.toNat ∧ c.toNat ≤ 102)

/-- Groups of eight, four, four, four, and twelve digits with dashes between them. -/
def isUuidText (text : List Char) : Bool :=
  text.length = 36 ∧ text.zipIdx.all fun (c, place) =>
    if place ∈ [8, 13, 18, 23] then c = '-' else isLowerHex c

/--
Match a whole path, and capture the texts of its variable parts.

A run up to a slash is as long as it can be, as a slash follows it in every route.
-/
def matchParts : List RoutePart → List Char → Option (List String)
  | [], path => if path = [] then some [] else none
  | .literal text :: parts, path => (Path.after? text path).bind (matchParts parts)
  | .str :: parts, path =>
    if path.takeWhile (· ≠ '/') = [] then none
    else (matchParts parts (path.dropWhile (· ≠ '/'))).map
      (String.ofList (path.takeWhile (· ≠ '/')) :: ·)
  | .uuid :: parts, path =>
    if isUuidText (path.take 36) then
      (matchParts parts (path.drop 36)).map (String.ofList (path.take 36) :: ·)
    else none

/-- A view that captures one text. -/
def capturing (view : String → View) : List String → Option View
  | [value] => some (view value)
  | _ => none

/-- The routes of the exchange, in the order in which they are tried. -/
def urlpatterns : List (List RoutePart × (List String → Option View)) :=
  [([.literal "health/"], fun _ => some .health),
    ([.literal "ready/"], fun _ => some .readiness),
    ([.literal "prometheus-sd/"], fun _ => some .prometheusServiceDiscovery),
    ([.literal "orders/"], fun _ => some .createOrder),
    ([.literal "events/"], fun _ => some .ingestMarketEvent),
    ([.literal "events/pending/"], fun _ => some .pendingMarketEvents),
    ([.literal "events/", .str, .literal "/ack/"], capturing .acknowledgeMarketEvent),
    ([.literal "orders/", .uuid, .literal "/"], capturing .cancelOrder),
    ([.literal "books/", .str, .literal "/"], capturing .bookDetail),
    ([.literal "trades/"], fun _ => some .recentTradeList),
    ([.literal "symbols/"], fun _ => some .symbolList),
    ([.literal "traders/"], fun _ => some .traderProfileList),
    ([.literal "traders/", .uuid, .literal "/"], capturing .traderProfileDetail)]

/-- The view of the first route that matches. -/
def resolveExchange (path : List Char) : Option View :=
  urlpatterns.findSome? fun (parts, view) => (matchParts parts path).bind view

/-- The view of a path: the metrics, anything of the administration, or a view of the exchange. -/
def resolve (path : List Char) : Option View :=
  if path = "/metrics/".toList then some .metrics
  else if (Path.after? "/admin/" path).isSome then some .admin
  else (Path.after? "/api/v1/" path).bind resolveExchange

/-- The path that a server sees: the bytes of the request's path, decoded once. -/
def serverPath (raw : List Char) : Option (List Char) := Utf8.strict? (Query.unquoteBytes raw)

namespace BackendApiClient

/-- The path of an acknowledgement on the wire, which has nothing but ordinary characters. -/
def rawAcknowledgementPath (eventId : String) : List Char :=
  (acknowledgementPath eventId).characters

/-- The acknowledgement of an event gets through to its view. -/
structure AckArrives (eventId : String) : Prop where
  /-- Nothing in the path ends it early, or separates it from anything. -/
  plain : ∀ c ∈ rawAcknowledgementPath eventId, isUnreserved c = true ∨ c = '%' ∨ c = '/'
  /-- The gateway's table has the path. -/
  matched : Path.isEventAck (rawAcknowledgementPath eventId) = true
  /-- The gateway sends the request to the first shard, as long as there is one. -/
  routed : ∀ nesting prints body tickers (shardCount : Int), 1 ≤ shardCount →
    routeRawRequest nesting prints
      ⟨"POST", String.ofList (rawAcknowledgementPath eventId), "", body⟩ tickers shardCount =
        .ok ⟨0, none, none⟩
  /-- The server hands exactly this event to the view. -/
  resolved : (serverPath (rawAcknowledgementPath eventId)).bind resolve =
    some (.acknowledgeMarketEvent eventId)

section Quoting

/-- A text in a URL, as characters. -/
def quoted (text : List Char) : List Char :=
  text.flatMap fun c => (String.utf8EncodeChar c).flatMap quoteByte

/-- Whether a quoted byte is one ordinary character, or a percent sign with the byte's digits. -/
def quotesItself (byte : UInt8) : Bool :=
  match quoteByte byte with
  | [c] => isUnreserved c ∧ c ≠ '%' ∧ c ≠ '/' ∧ UInt8.ofNat c.toNat = byte
  | [percent, high, low] => percent = '%' ∧ isUnreserved high ∧ isUnreserved low ∧ high ≠ '/' ∧
    low ≠ '/' ∧ isHexDigit high ∧ isHexDigit low ∧
    UInt8.ofNat (16 * Json.hexValue high + Json.hexValue low) = byte
  | _ => false

/-- Every byte is quoted as itself, or by its digits. -/
theorem quotesItself_all (byte : UInt8) : quotesItself byte = true := by
  have all : ∀ value : Fin 256, quotesItself (UInt8.ofNat value) = true := by decide +kernel
  have own := all ⟨byte.toNat, byte.toNat_lt⟩
  rwa [UInt8.ofNat_toNat] at own

/-- A character that is no percent sign stands for its own byte. -/
theorem unquoteBytes_cons {c : Char} (other : c ≠ '%') (rest : List Char) :
    Query.unquoteBytes (c :: rest) = UInt8.ofNat c.toNat :: Query.unquoteBytes rest := by
  -- Only a percent sign with two more characters is read in another way.
  rcases rest with _ | ⟨second, _ | ⟨third, rest⟩⟩
  · simp [Query.unquoteBytes]
  · simp [Query.unquoteBytes]
  · rw [Query.unquoteBytes]
    exact fun _ _ _ same _ => other same

/-- A quoted byte is read back. -/
theorem unquoteBytes_quoteByte (byte : UInt8) (rest : List Char) :
    Query.unquoteBytes (quoteByte byte ++ rest) = byte :: Query.unquoteBytes rest := by
  have well := quotesItself_all byte
  unfold quotesItself at well
  -- One ordinary character is read as itself.
  split at well
  · rename_i c single
    obtain ⟨_, other, _, same⟩ := of_decide_eq_true well
    rw [single, List.singleton_append, unquoteBytes_cons other, same]
  · -- A percent sign and two digits are read as the byte that they spell.
    rename_i percent high low digits
    obtain ⟨rfl, _, _, _, _, first, second, same⟩ := of_decide_eq_true well
    rw [digits]
    simp only [List.cons_append, List.nil_append, Query.unquoteBytes, first, second, Bool.and_self,
      if_true, same]
  · exact absurd well Bool.false_ne_true

/-- A quoted byte is made of plain characters, none of which is a slash. -/
theorem quoteByte_plain {byte : UInt8} {c : Char} (member : c ∈ quoteByte byte) :
    (isUnreserved c = true ∨ c = '%') ∧ c ≠ '/' := by
  have well := quotesItself_all byte
  unfold quotesItself at well
  split at well
  · rename_i own single
    obtain ⟨plain, _, other, _⟩ := of_decide_eq_true well
    rw [single, List.mem_singleton] at member
    exact member ▸ ⟨.inl plain, other⟩
  · rename_i percent high low digits
    obtain ⟨rfl, first, second, slash, slash', _⟩ := of_decide_eq_true well
    rw [digits] at member
    simp only [List.mem_cons, List.not_mem_nil, or_false] at member
    -- Each of the three characters is plain.
    rcases member with rfl | rfl | rfl
    · exact ⟨.inr rfl, by decide⟩
    · exact ⟨.inl first, slash⟩
    · exact ⟨.inl second, slash'⟩
  · exact absurd well Bool.false_ne_true

/-- A quoted text is read back as its bytes. -/
theorem unquoteBytes_quoted (text rest : List Char) : Query.unquoteBytes (quoted text ++ rest) =
    text.flatMap String.utf8EncodeChar ++ Query.unquoteBytes rest := by
  have bytewise : ∀ bytes : List UInt8, Query.unquoteBytes (bytes.flatMap quoteByte ++ rest) =
      bytes ++ Query.unquoteBytes rest := by
    intro bytes
    induction bytes with
    | nil => rfl
    | cons byte later ih =>
      rw [List.flatMap_cons, List.append_assoc, unquoteBytes_quoteByte, ih, List.cons_append]
  -- The bytes of the characters are quoted one after the other.
  rw [quoted, ← List.flatMap_assoc, bytewise]

/-- A character that is one byte, and that does not begin a quoted one. -/
def isOrdinary (c : Char) : Bool := c ≠ '%' ∧ c.toNat < 0x80

/-- Each character of an ordinary text is ordinary. -/
theorem isOrdinary_of_all {literal : List Char} (all : literal.all isOrdinary = true) :
    ∀ c ∈ literal, c ≠ '%' ∧ c.toNat < 0x80 :=
  fun c member => of_decide_eq_true (List.all_eq_true.mp all c member)

/-- A text of ordinary characters is read as its bytes. -/
theorem unquoteBytes_literal {literal : List Char} (rest : List Char)
    (ordinary : ∀ c ∈ literal, c ≠ '%' ∧ c.toNat < 0x80) :
    Query.unquoteBytes (literal ++ rest) =
      literal.flatMap String.utf8EncodeChar ++ Query.unquoteBytes rest := by
  induction literal with
  | nil => rfl
  | cons c later ih =>
    obtain ⟨other, small⟩ := ordinary c List.mem_cons_self
    -- Small characters are encoded as one byte.
    have single : String.utf8EncodeChar c = [UInt8.ofNat c.toNat] := by
      simp only [String.utf8EncodeChar, Char.toNat_val]
      exact if_pos (by omega)
    rw [List.cons_append, unquoteBytes_cons other,
      ih fun next member => ordinary next (List.mem_cons_of_mem _ member), List.flatMap_cons, single,
      List.singleton_append, List.cons_append]

/-- The characters of code points of characters. -/
theorem characters_map (text : List Char) : CodePoints.characters (text.map Char.toNat) = text := by
  rw [CodePoints.characters, List.map_map]
  exact (List.map_congr_left fun c _ => Char.ofNat_toNat c).trans (List.map_id text)

/-- The path of an acknowledgement on the wire. -/
theorem rawAcknowledgementPath_eq (eventId : String) : rawAcknowledgementPath eventId =
    "/api/v1/events/".toList ++ quoted eventId.toList ++ "/ack/".toList := by
  rw [rawAcknowledgementPath, acknowledgementPath, codePoints, codePoints, quote, ← List.map_append,
    ← List.map_append, characters_map, quoted]

/-- The server sees the path with the event as it is. -/
theorem serverPath_raw (eventId : String) : serverPath (rawAcknowledgementPath eventId) =
    some ("/api/v1/events/".toList ++ eventId.toList ++ "/ack/".toList) := by
  have front := isOrdinary_of_all (show "/api/v1/events/".toList.all isOrdinary = true by decide)
  have back := isOrdinary_of_all (show "/ack/".toList.all isOrdinary = true by decide)
  -- The front and the back are read as they are, and what is quoted between them is read back.
  rw [serverPath, rawAcknowledgementPath_eq, List.append_assoc, unquoteBytes_literal _ front,
    unquoteBytes_quoted, ← List.append_nil "/ack/".toList, unquoteBytes_literal [] back,
    Query.unquoteBytes, List.append_nil, List.append_nil, ← List.flatMap_append,
    ← List.flatMap_append, Utf8.strict?_encode, List.append_assoc]

/-- Nothing that is quoted has a slash, and a quoted text has characters if the text has. -/
theorem slash_notMem_quoted (text : List Char) : '/' ∉ quoted text := by
  intro member
  -- A slash in the quoted text would come from one of its bytes.
  obtain ⟨c, _, member⟩ := List.mem_flatMap.mp member
  obtain ⟨byte, _, inside⟩ := List.mem_flatMap.mp member
  exact (quoteByte_plain inside).2 rfl

/-- A text that is not empty is quoted by one that is not. -/
theorem quoted_ne_nil {text : List Char} (something : text ≠ []) : quoted text ≠ [] := by
  intro nothing
  have bytes := unquoteBytes_quoted text []
  rw [nothing, List.nil_append, Query.unquoteBytes, List.append_nil] at bytes
  -- The bytes would be none, and they decode to the text.
  have decoded := Utf8.strict?_encode text
  rw [← bytes] at decoded
  exact something (Option.some.inj decoded).symm

end Quoting

section Gateway

variable {eventId : String}

/-- A run without slashes ends where a slash begins the rest. -/
theorem takeWhile_run {run : List Char} (clean : '/' ∉ run) (rest : List Char) :
    (run ++ '/' :: rest).takeWhile (· ≠ '/') = run ∧
      (run ++ '/' :: rest).dropWhile (· ≠ '/') = '/' :: rest := by
  -- No character of the run ends it.
  have all : ∀ c ∈ run, decide (c ≠ '/') = true := fun c member =>
    decide_eq_true fun same => clean (same ▸ member)
  constructor
  · rw [List.takeWhile_append_of_pos all, List.takeWhile_cons_of_neg (by simp), List.append_nil]
  · rw [List.dropWhile_append_of_pos all, List.dropWhile_cons_of_neg (by simp)]

/-- The gateway's table has the path of every acknowledgement. -/
theorem isEventAck_raw (named : eventId ≠ "") :
    Path.isEventAck (rawAcknowledgementPath eventId) = true := by
  -- The quoted identifier is one run, and the slash that ends it begins the route's ending.
  have something : eventId.toList ≠ [] := fun nothing => named (String.toList_eq_nil_iff.mp nothing)
  obtain ⟨run, rest⟩ := takeWhile_run (slash_notMem_quoted eventId.toList) "ack/".toList
  rw [Path.isEventAck, rawAcknowledgementPath_eq, List.append_assoc, Path.after?_append]
  have split : "/ack/".toList = '/' :: "ack/".toList := rfl
  simp only [split, run, rest]
  exact decide_eq_true ⟨quoted_ne_nil something, by decide⟩

/-- An acknowledgement goes to the first shard, whatever its body is. -/
theorem route_raw (named : eventId ≠ "") (nesting : Nat) (prints : Json → CodePoints)
    (body : RawBody) (tickers : List String) {shardCount : Int} (some_shard : 1 ≤ shardCount) :
    routeRawRequest nesting prints
      ⟨"POST", String.ofList (rawAcknowledgementPath eventId), "", body⟩ tickers shardCount =
        .ok ⟨0, none, none⟩ := by
  -- The path starts with a slash, so that it is taken as it is.
  have path : RawRequest.normalizedPath
      ⟨"POST", String.ofList (rawAcknowledgementPath eventId), "", body⟩ =
        rawAcknowledgementPath eventId := by
    rw [RawRequest.normalizedPath, String.toList_ofList, if_pos]
    rw [rawAcknowledgementPath_eq]
    rfl
  have post : methodOf "POST" = .post := by decide
  have first : Path.isDefaultShard (rawAcknowledgementPath eventId) = true := by
    simp [Path.isDefaultShard, isEventAck_raw named]
  unfold routeRawRequest
  rw [if_neg (by omega), path, post]
  simp [routeForIndexedShard, first]

/-- The path is made of ordinary characters only. -/
theorem raw_plain (eventId : String) : ∀ c ∈ rawAcknowledgementPath eventId,
    isUnreserved c = true ∨ c = '%' ∨ c = '/' := by
  -- The fixed parts are checked character by character.
  have front : ("/api/v1/events/".toList.all fun c => isUnreserved c || c = '/') = true := by
    decide
  have back : ("/ack/".toList.all fun c => isUnreserved c || c = '/') = true := by decide
  have plain : ∀ {c : Char}, (isUnreserved c || c = '/') = true →
      isUnreserved c = true ∨ c = '%' ∨ c = '/' := by
    intro c either
    simp only [Bool.or_eq_true, decide_eq_true_eq] at either
    exact either.imp_right .inr
  intro c member
  rw [rawAcknowledgementPath_eq] at member
  -- A character stands in the front, in the quoted identifier, or in the back.
  rcases List.mem_append.mp member with member | last
  · rcases List.mem_append.mp member with first | quoted
    · exact plain (List.all_eq_true.mp front c first)
    · obtain ⟨own, _, inside⟩ := List.mem_flatMap.mp quoted
      obtain ⟨byte, _, inside⟩ := List.mem_flatMap.mp inside
      exact (quoteByte_plain inside).1.imp_right .inl
  · exact plain (List.all_eq_true.mp back c last)

end Gateway

section Server

variable {eventId : String} {path : List Char} {parts : List RoutePart} {values : List String}

/-- A UUID has no slash. -/
theorem slash_notMem_uuid {text : List Char} (usual : isUuidText text = true) : '/' ∉ text := by
  intro member
  -- The slash would stand at a place with a dash or a digit.
  obtain ⟨place, stands⟩ := List.mem_iff_getElem?.mp member
  have own := List.all_eq_true.mp (of_decide_eq_true usual).2 ('/', place)
    (List.mem_zipIdx_iff_getElem?.mpr stands)
  simp only at own
  split_ifs at own
  · exact absurd own (by decide)
  · exact absurd own (by decide)

/-- What a route captures has no slash. -/
theorem slash_notMem_captured (matched : matchParts parts path = some values) :
    ∀ value ∈ values, '/' ∉ value.toList := by
  -- The induction is on the parts of the route, each of which leaves a path to the others.
  induction parts generalizing path values with
  | nil =>
    unfold matchParts at matched
    split_ifs at matched
    cases matched
    exact fun _ member => absurd member List.not_mem_nil
  | cons part later ih =>
    cases part with
    | literal text =>
      obtain ⟨rest, _, found⟩ := Option.bind_eq_some_iff.mp matched
      exact ih found
    | str =>
      unfold matchParts at matched
      split_ifs at matched
      -- What is captured goes up to the first slash.
      obtain ⟨others, found, same⟩ := Option.map_eq_some_iff.mp matched
      rw [← same]
      refine List.forall_mem_cons.mpr ⟨fun inside => ?_, ih found⟩
      rw [String.toList_ofList] at inside
      have other := List.all_eq_true.mp List.all_takeWhile '/' inside
      exact absurd other (by decide)
    | uuid =>
      unfold matchParts at matched
      split_ifs at matched with usual
      -- What is captured has the form of a UUID.
      obtain ⟨others, found, same⟩ := Option.map_eq_some_iff.mp matched
      rw [← same]
      refine List.forall_mem_cons.mpr ⟨fun inside => ?_, ih found⟩
      rw [String.toList_ofList] at inside
      exact slash_notMem_uuid usual inside

/-- Only one route leads to the acknowledgement of an event, and it captures the event. -/
theorem captured_of_ack : ∀ route ∈ urlpatterns, ∀ values,
    route.2 values = some (.acknowledgeMarketEvent eventId) → values = [eventId] := by
  intro route member values viewed
  simp only [urlpatterns, List.mem_cons, List.not_mem_nil, or_false] at member
  -- The view says which route it was, and that one text was captured.
  rcases values with _ | ⟨value, _ | ⟨second, more⟩⟩
  all_goals
    rcases member with rfl | rfl | rfl | rfl | rfl | rfl | rfl | rfl | rfl | rfl | rfl | rfl | rfl <;>
      simp_all [capturing]

/-- An event that is acknowledged was captured from a path, and so has no slash. -/
theorem slash_notMem_resolved (resolved : resolve path = some (.acknowledgeMarketEvent eventId)) :
    '/' ∉ eventId.toList := by
  unfold resolve at resolved
  split_ifs at resolved
  · cases resolved
  · cases resolved
  · -- The path is one of the exchange, whose routes are tried in turn.
    obtain ⟨rest, _, found⟩ := Option.bind_eq_some_iff.mp resolved
    obtain ⟨route, member, viewed⟩ := List.exists_of_findSome?_eq_some found
    obtain ⟨values, matched, viewed⟩ := Option.bind_eq_some_iff.mp viewed
    have captured := captured_of_ack route member values viewed
    exact slash_notMem_captured matched eventId (captured ▸ List.mem_singleton_self _)

/-- A route that is one text does not match a path with another ending. -/
theorem matchParts_literal_none {text ending : String} (ends : ending.toList <:+ path)
    (other : ¬ ending.toList <:+ text.toList) : matchParts [.literal text] path = none := by
  unfold matchParts
  rw [Option.bind_eq_none_iff]
  -- The text would be all of the path, and so end in the same way.
  intro rest found
  unfold matchParts
  refine if_neg fun nothing => other ?_
  rw [Path.after?_eq_some_iff.mp found, nothing, List.append_nil] at ends
  exact ends

/-- The path of an acknowledgement leads to its view when the event has no slash. -/
theorem resolve_ack (named : eventId ≠ "") (clean : '/' ∉ eventId.toList) :
    resolve ("/api/v1/events/".toList ++ eventId.toList ++ "/ack/".toList) =
      some (.acknowledgeMarketEvent eventId) := by
  have something : eventId.toList ≠ [] := fun nothing => named (String.toList_eq_nil_iff.mp nothing)
  have exchange : Path.after? "/api/v1/" ("/api/v1/events/".toList ++ eventId.toList ++
      "/ack/".toList) = some ("events/".toList ++ (eventId.toList ++ "/ack/".toList)) := by
    rw [Path.after?_eq_some_iff, List.append_assoc]
    rfl
  have ends : "/ack/".toList <:+ "events/".toList ++ (eventId.toList ++ "/ack/".toList) :=
    (List.suffix_append _ _).trans (List.suffix_append _ _)
  -- The routes before the one of the acknowledgement are texts that end in another way.
  have own : matchParts [.literal "events/", .str, .literal "/ack/"]
      ("events/".toList ++ (eventId.toList ++ "/ack/".toList)) = some [eventId] := by
    obtain ⟨run, rest⟩ := takeWhile_run clean "ack/".toList
    have split : "/ack/".toList = '/' :: "ack/".toList := rfl
    simp only [matchParts, Path.after?_append, Option.bind_some, split, run, rest, if_neg something]
    rw [← split, ← List.append_nil "/ack/".toList, Path.after?_append]
    simp
  have skipped : resolveExchange ("events/".toList ++ (eventId.toList ++ "/ack/".toList)) =
      some (.acknowledgeMarketEvent eventId) := by
    -- The texts that are tried first do not end in the way of an acknowledgement.
    have other : ∀ text ∈ ["health/", "ready/", "prometheus-sd/", "orders/", "events/",
        "events/pending/"], ¬ "/ack/".toList <:+ text.toList := by decide
    have earlier := fun text member => matchParts_literal_none ends (other text member)
    simp only [List.forall_mem_cons] at earlier
    obtain ⟨health, ready, discovery, orders, events, pending, _⟩ := earlier
    simp only [resolveExchange, urlpatterns, List.findSome?_cons, health, ready, discovery, orders,
      events, pending, own, Option.bind_none, Option.bind_some, capturing]
  unfold resolve
  -- The path is neither that of the metrics nor one of the administration.
  rw [if_neg, if_neg, exchange]
  · exact skipped
  · rw [Option.not_isSome_iff_eq_none]
    rfl
  · intro same
    have third := congrArg (fun path => path[1]?) same
    simp at third

/--
The acknowledgement of an accepted event arrives exactly when the event's identifier has no slash.

A quoted slash passes the gateway, which sees the path as it was sent, but the server decodes the path
before it looks for a route.
-/
theorem ack_arrives_iff {event : MarketEvent} (accepted : event.Accepted) :
    AckArrives event.eventId ↔ '/' ∉ event.eventId.toList := by
  constructor
  · intro arrives
    -- The server decodes the path, and what it captures has no slash.
    have resolved := arrives.resolved
    rw [serverPath_raw] at resolved
    exact slash_notMem_resolved resolved
  · intro clean
    obtain ⟨fields, serialized⟩ := accepted
    -- An accepted event has an identifier with at least one character.
    obtain ⟨value, _, stripped, something⟩ := charField_eq (serialize_ok serialized).1
    have named : event.eventId ≠ "" := stripped ▸ something
    refine ⟨raw_plain event.eventId, isEventAck_raw named,
      fun nesting prints body tickers _ some_shard =>
        route_raw named nesting prints body tickers some_shard, ?_⟩
    rw [serverPath_raw]
    exact resolve_ack named clean

/-- News with an identifier. -/
def newsFields (eventId : String) : MarketEventFields where
  eventId := .given eventId
  symbol := .given "005930"
  eventType := .given "supply_contract"
  direction := .given "BUY"
  confidence := .given 1
  impact := .given "high"
  occurredAt := .missing
  detectedAt := .given 0
  source := .given "newswire"
  sourceItemId := .missing
  headline := .missing

/-- The event that the serializer makes of such news. -/
def newsEvent (eventId : String) : MarketEvent :=
  ⟨eventId, "005930", "supply_contract", .buy, 1, .high, none, 0, "newswire", "", ""⟩

/-- An identifier with a colon and a syllable is quoted, and arrives as it was. -/
theorem ack_arrives_iff_quoted : (newsFields "뉴스:1").serialize = .ok (newsEvent "뉴스:1") ∧
    (AckArrives "뉴스:1" ↔ '/' ∉ "뉴스:1".toList) ∧ '/' ∉ "뉴스:1".toList := by
  have serialized : (newsFields "뉴스:1").serialize = .ok (newsEvent "뉴스:1") := by decide +kernel
  exact ⟨serialized, ack_arrives_iff ⟨_, serialized⟩, by decide⟩

/-- An identifier with a slash passes the gateway, and leads to no view of the server. -/
theorem ack_lost : (newsFields "newswire/1").serialize = .ok (newsEvent "newswire/1") ∧
    rawAcknowledgementPath "newswire/1" = "/api/v1/events/newswire%2F1/ack/".toList ∧
    Path.isEventAck (rawAcknowledgementPath "newswire/1") = true ∧
    serverPath (rawAcknowledgementPath "newswire/1") =
      some "/api/v1/events/newswire/1/ack/".toList ∧
    resolve "/api/v1/events/newswire/1/ack/".toList = none ∧ ¬ AckArrives "newswire/1" := by
  -- The slash stays in the path, and so the identifier takes up two segments.
  have seen : serverPath (rawAcknowledgementPath "newswire/1") =
      some "/api/v1/events/newswire/1/ack/".toList := by decide +kernel
  have nowhere : resolve "/api/v1/events/newswire/1/ack/".toList = none := by decide +kernel
  refine ⟨by decide +kernel, by decide +kernel, by decide +kernel, seen, nowhere, fun arrives => ?_⟩
  have resolved := arrives.resolved
  rw [seen, Option.bind_some, nowhere] at resolved
  cases resolved

end Server

end BackendApiClient

end StockMarket
