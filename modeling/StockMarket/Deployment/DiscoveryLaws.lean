import StockMarket.Deployment.Discovery
import StockMarket.Deployment.RoutingLaws
import StockMarket.Deployment.WireAnswers

/-! What a scraper is told leads it back to the gateway, and from there to every matcher. -/

namespace StockMarket

section Targets

variable {hostname rest : List Char} {port again : Nat} {c : Char}

/-- A name that can be read back from a target: no bracket or blank in it is taken for another one. -/
def IsReadable (hostname : List Char) : Prop :=
  if ':' ∈ hostname then ']' ∉ hostname
  else hostname.head? ≠ some '[' ∧ ∀ c ∈ hostname.head?, isSpace c = false

/-- A digit is none of the characters that separate the parts of a target. -/
theorem ne_of_mem_digits {other : Char} (member : c ∈ decimalDigits port)
    (apart : other.isDigit = false) : c ≠ other := by
  rintro rfl
  rw [isDigit_of_mem_decimalDigits member] at apart
  cases apart

/-- Digits contain none of the characters that separate the parts of a target. -/
theorem count_decimalDigits {other : Char} (apart : other.isDigit = false) :
    (decimalDigits port).count other = 0 :=
  List.count_eq_zero.mpr fun member => ne_of_mem_digits member apart rfl

/-- A text that ends with a port only loses blanks in front of it. -/
theorem strip_port (front : List Char) (port : Nat) :
    (strip (String.ofList (front ++ ':' :: decimalDigits port))).toList =
      front.dropWhile isSpace ++ ':' :: decimalDigits port := by
  have colon : isSpace ':' = false := by decide
  -- The colon stops the blanks from being dropped, and the last digit is no blank.
  have ahead : (front ++ ':' :: decimalDigits port).dropWhile isSpace =
      front.dropWhile isSpace ++ ':' :: decimalDigits port := by
    rw [List.dropWhile_append]
    split
    · rename_i blank
      simp [List.isEmpty_iff.mp blank, colon]
    · rfl
  -- From behind, the digits are met first, and none of them is a blank.
  have behind : ((decimalDigits port).reverse ++ [':']).dropWhile isSpace =
      (decimalDigits port).reverse ++ [':'] := by
    obtain ⟨last, others, digits⟩ := List.exists_cons_of_ne_nil
      (List.reverse_ne_nil_iff.mpr (decimalDigits_ne_nil port))
    have member : last ∈ decimalDigits port := by
      rw [← List.mem_reverse, digits]
      exact List.mem_cons_self
    have solid := isSpace_of_isDigit (isDigit_of_mem_decimalDigits member)
    simp [digits, solid]
  rw [strip, String.toList_ofList, String.toList_ofList, ahead]
  rw [List.reverse_append, List.reverse_cons, List.dropWhile_append, behind]
  simp

/-- A port that is not too long is read back from its digits. -/
theorem parsePort_decimalDigits (positive : 1 ≤ port) (short : port < 10 ^ maxIntegerDigits) :
    parsePort (decimalDigits port) = .ok port := by
  rw [parsePort, integerIn?_decimalDigits short]
  have enough : ¬(port : Int) < 1 := by omega
  simp [enough]

/-- A port that is read is at least one, and not too long. -/
theorem parsePort_bounds {raw : List Char} (read : parsePort raw = .ok port) :
    1 ≤ port ∧ port < 10 ^ maxIntegerDigits := by
  unfold parsePort at read
  cases number : integerIn? raw with
  | none =>
    rw [number] at read
    cases read
  | some value =>
    -- What `int` accepts has no more digits than it allows, and the range excludes zero.
    have below := integerText_lt number
    rw [number] at read
    simp only at read
    split at read
    · cases read
    · cases read
      constructor <;> omega

/-- A text is split at the first of the characters that separate its parts. -/
theorem takeWhile_split {front : List Char} (clear : c ∉ front) (rest : List Char) :
    (front ++ c :: rest).takeWhile (· ≠ c) = front := by
  -- Nothing in front is the separator, character by character.
  induction front with
  | nil => simp
  | cons first front ih =>
    have apart : first ≠ c := fun same => clear (same ▸ List.mem_cons_self)
    have later := ih fun member => clear (List.mem_cons_of_mem _ member)
    simpa [apart] using later

/-- What is left of a text from the first separator on. -/
theorem dropWhile_split {front : List Char} (clear : c ∉ front) (rest : List Char) :
    (front ++ c :: rest).dropWhile (· ≠ c) = c :: rest := by
  -- Nothing in front is the separator, character by character.
  induction front with
  | nil => simp
  | cons first front ih =>
    have apart : first ≠ c := fun same => clear (same ▸ List.mem_cons_self)
    have later := ih fun member => clear (List.mem_cons_of_mem _ member)
    simpa [apart] using later

/-- The parts of a header make up the target. -/
theorem advertisedScrapeTarget_parts {hostHeader : String} (positive : 1 ≤ again)
    (name : advertisedHostname hostHeader = .ok hostname)
    (own : portFromHostHeader hostHeader again = .ok port) :
    advertisedScrapeTarget hostHeader again = .ok (String.ofList (hostAndPort hostname port)) := by
  have enough : ¬again < 1 := by omega
  rw [advertisedScrapeTarget, if_neg enough, name, own]
  rfl

/-- A target comes from a name and a port that were read. -/
theorem exists_parts {hostHeader target : String}
    (advertised : advertisedScrapeTarget hostHeader again = .ok target) : ∃ hostname port,
      advertisedHostname hostHeader = .ok hostname ∧
        portFromHostHeader hostHeader again = .ok port ∧
        target = String.ofList (hostAndPort hostname port) := by
  -- A target is put together only after the name and the port have both been read.
  unfold advertisedScrapeTarget at advertised
  split at advertised
  · cases advertised
  · cases name : advertisedHostname hostHeader with
    | error failure =>
      rw [name] at advertised
      cases advertised
    | ok hostname =>
      -- The port is read after the name, from the same header.
      cases own : portFromHostHeader hostHeader again with
      | error failure =>
        rw [name, own] at advertised
        cases advertised
      | ok port =>
        rw [name, own] at advertised
        cases advertised
        exact ⟨hostname, port, rfl, rfl, rfl⟩

/-- A header with one colon and without brackets is split at the colon. -/
theorem read_plain {hostHeader : String} (clear : ':' ∉ hostname)
    (text : (strip hostHeader).toList = hostname ++ ':' :: rest) (later : ':' ∉ rest)
    (open_ : hostname.head? ≠ some '[') (fallback : Nat) :
    advertisedHostname hostHeader = .ok hostname ∧
      portFromHostHeader hostHeader fallback = parsePort rest := by
  have first : ¬(hostname ++ ':' :: rest).head? = some '[' := by
    cases hostname with
    | nil => simp
    | cons c others => simpa using open_
  have one : (hostname ++ ':' :: rest).count ':' = 1 := by
    simp [List.count_append, List.count_eq_zero.mpr clear, List.count_eq_zero.mpr later]
  -- Everything in front of the colon is taken, and everything behind it is left.
  constructor
  · simp only [advertisedHostname, text, if_neg first, if_pos one, takeWhile_split clear]
    simp
  · simp only [portFromHostHeader, text, if_neg first, if_pos one, dropWhile_split clear]
    simp

/-- A header in brackets is split at the closing one. -/
theorem read_bracketed {hostHeader : String} (clear : ']' ∉ hostname)
    (text : (strip hostHeader).toList = '[' :: (hostname ++ ']' :: rest)) (fallback : Nat) :
    advertisedHostname hostHeader = .ok hostname ∧
      portFromHostHeader hostHeader fallback =
        if rest.head? = some ':' then parsePort (rest.drop 1) else .ok fallback := by
  -- The first closing bracket is the one behind the name.
  have inside : ']' ∈ '[' :: (hostname ++ ']' :: rest) := by simp
  have ahead : ']' ∉ '[' :: hostname := by simpa using clear
  constructor
  · simp only [advertisedHostname, text, if_pos inside, List.drop_one, List.tail_cons,
      takeWhile_split clear]
    simp
  · have left : ('[' :: (hostname ++ ']' :: rest)).dropWhile (· ≠ ']') = ']' :: rest :=
      dropWhile_split ahead rest
    simp only [portFromHostHeader, text, if_pos inside, left]
    simp

/-- A bracket that is not closed is refused. -/
theorem read_unclosed {hostHeader : String} (text : (strip hostHeader).toList = '[' :: rest)
    (unclosed : ']' ∉ rest) :
    advertisedHostname hostHeader = .error (.valueError "invalid IPv6 host header") := by
  simp [advertisedHostname, text, unclosed]

/-- A target with a readable name is read as itself. -/
theorem advertised_readable (readable : IsReadable hostname) (least : 1 ≤ port)
    (short : port < 10 ^ maxIntegerDigits) (positive : 1 ≤ again) :
    advertisedScrapeTarget (String.ofList (hostAndPort hostname port)) again =
      .ok (String.ofList (hostAndPort hostname port)) := by
  have digits : parsePort (decimalDigits port) = .ok port := parsePort_decimalDigits least short
  unfold IsReadable at readable
  by_cases colon : ':' ∈ hostname
  · -- The brackets keep the colons of the name apart.
    rw [if_pos colon] at readable
    have blank : isSpace '[' = false := by decide
    have text : (strip (String.ofList (hostAndPort hostname port))).toList =
        '[' :: (hostname ++ ']' :: ':' :: decimalDigits port) := by
      rw [hostAndPort, if_pos colon, strip_port]
      simp [blank]
    obtain ⟨name, own⟩ := read_bracketed readable text again
    rw [List.head?_cons, if_pos rfl, List.drop_one, List.tail_cons, digits] at own
    exact advertisedScrapeTarget_parts positive name own
  · -- Without brackets, what must not be lost is a blank in front.
    rw [if_neg colon] at readable
    have kept : hostname.dropWhile isSpace = hostname := by
      cases hostname with
      | nil => rfl
      | cons c others => simp [readable.2 c (by simp)]
    have text : (strip (String.ofList (hostAndPort hostname port))).toList =
        hostname ++ ':' :: decimalDigits port := by
      rw [hostAndPort, if_neg colon, strip_port, kept]
    have later : ':' ∉ decimalDigits port := fun member => ne_of_mem_digits member (by decide) rfl
    obtain ⟨name, own⟩ := read_plain colon text later readable.1 again
    rw [digits] at own
    exact advertisedScrapeTarget_parts positive name own

/-- How often a character stands in a target. -/
theorem count_bracket (hostname : List Char) (port : Nat) :
    (hostAndPort hostname port).count ']' =
      hostname.count ']' + if ':' ∈ hostname then 1 else 0 := by
  have none_there : (decimalDigits port).count ']' = 0 := count_decimalDigits (by decide)
  unfold hostAndPort
  split <;> simp [List.count_append, none_there]

/-- What is read from a text that opens a bracket, and how many brackets the target then closes. -/
theorem advertised_bracketed {text target : String} (opens : (strip text).toList = '[' :: rest)
    (advertised : advertisedScrapeTarget text again = .ok target) :
    ∃ inner later, rest = inner ++ ']' :: later ∧
      target.toList.count ']' = if ':' ∈ inner then 1 else 0 := by
  -- The name ends at the first closing bracket, and has none itself.
  obtain ⟨read_name, number, read, _, rfl⟩ := exists_parts advertised
  by_cases closed : ']' ∈ rest
  · obtain ⟨inner, later, rfl, clear⟩ := List.eq_append_cons_of_mem closed
    have inside := (read_bracketed clear opens again).1
    rw [inside] at read
    obtain rfl : inner = read_name := Except.ok.inj read
    refine ⟨inner, later, rfl, ?_⟩
    rw [String.toList_ofList, count_bracket, List.count_eq_zero.mpr clear, Nat.zero_add]
  · rw [read_unclosed opens closed] at read
    cases read

/-- A target with a name that is not readable is refused, or read as another target. -/
theorem advertised_unreadable (unreadable : ¬IsReadable hostname) :
    advertisedScrapeTarget (String.ofList (hostAndPort hostname port)) again ≠
      .ok (String.ofList (hostAndPort hostname port)) := by
  intro advertised
  unfold IsReadable at unreadable
  by_cases colon : ':' ∈ hostname
  · -- The name closes a bracket itself, so that the target closes more than one.
    rw [if_pos colon, not_not] at unreadable
    have blank : isSpace '[' = false := by decide
    have opens : (strip (String.ofList (hostAndPort hostname port))).toList =
        '[' :: (hostname ++ ']' :: ':' :: decimalDigits port) := by
      rw [hostAndPort, if_pos colon, strip_port]
      simp [blank]
    obtain ⟨inner, later, _, closes⟩ := advertised_bracketed opens advertised
    rw [String.toList_ofList, count_bracket, if_pos colon] at closes
    have some_there : 0 < hostname.count ']' := List.count_pos_iff.mpr unreadable
    split at closes <;> omega
  · rw [if_neg colon] at unreadable
    have text : (strip (String.ofList (hostAndPort hostname port))).toList =
        hostname.dropWhile isSpace ++ ':' :: decimalDigits port := by
      rw [hostAndPort, if_neg colon, strip_port]
    have suffix : hostname.dropWhile isSpace <:+ hostname := List.dropWhile_suffix isSpace
    have plain : ':' ∉ hostname.dropWhile isSpace := fun member => colon (suffix.subset member)
    by_cases opening : (hostname.dropWhile isSpace).head? = some '['
    · -- What is read is in brackets, and has no colon; the target closes no bracket then.
      obtain ⟨others, kept⟩ := List.head?_eq_some_iff.mp opening
      have opens := text
      rw [kept, List.cons_append] at opens
      obtain ⟨inner, later, split_, closes⟩ := advertised_bracketed opens advertised
      rw [String.toList_ofList, count_bracket, if_neg colon, Nat.add_zero] at closes
      -- The port has digits only, so the bracket is not closed there.
      have no_digit : ']' ∉ ':' :: decimalDigits port := by
        intro member
        rcases List.mem_cons.mp member with same | digit
        · exact absurd same (by decide)
        · exact ne_of_mem_digits digit (by decide) rfl
      rcases List.append_eq_append_iff.mp split_ with ⟨more, _, digits⟩ | ⟨more, front, behind⟩
      · exact no_digit (digits ▸ List.mem_append_right _ List.mem_cons_self)
      · -- What is inside the brackets is a part of a name without colons.
        have clear : ':' ∉ inner := by
          intro member
          refine plain ?_
          rw [kept, front]
          exact List.mem_cons_of_mem _ (List.mem_append_left _ member)
        have closing : ']' ∈ hostname := by
          cases more with
          | nil => exact absurd (List.cons.inj behind).1 (by decide)
          | cons first more =>
            refine suffix.subset ?_
            rw [kept, front, ← (List.cons.inj behind).1]
            simp
        have some_there : 0 < hostname.count ']' := List.count_pos_iff.mpr closing
        rw [if_neg clear] at closes
        omega
    · -- The blanks in front are lost.
      have later : ':' ∉ decimalDigits port := fun member => ne_of_mem_digits member (by decide) rfl
      obtain ⟨name, _⟩ := read_plain plain text later opening again
      obtain ⟨read_name, number, read, _, same⟩ := exists_parts advertised
      rw [name] at read
      cases read
      have parts := String.ofList_injective same
      rw [hostAndPort, hostAndPort, if_neg colon, if_neg plain] at parts
      -- Up to the colon both targets must be the same text.
      have kept : hostname.dropWhile isSpace = hostname := by
        have fronts := congrArg (List.takeWhile (· ≠ ':')) parts
        rw [takeWhile_split colon, takeWhile_split plain] at fronts
        exact fronts.symm
      rw [kept] at opening
      refine unreadable ⟨opening, fun c member => ?_⟩
      obtain ⟨others, rfl⟩ := List.head?_eq_some_iff.mp member
      cases blank : isSpace c with
      | false => rfl
      | true =>
        -- A blank in front would have been dropped.
        rw [List.dropWhile_cons, if_pos blank] at kept
        have shorter := (List.dropWhile_suffix (l := others) isSpace).length_le
        rw [kept, List.length_cons] at shorter
        omega

/-- The port of a header is the default one, or it was read as a number. -/
theorem portFromHostHeader_bounds {hostHeader : String} (fallback : 1 ≤ again ∧ again ≤ 65535)
    (own : portFromHostHeader hostHeader again = .ok port) :
    1 ≤ port ∧ port < 10 ^ maxIntegerDigits := by
  -- The port was read from the header, or it is the default one.
  have few : 65535 < 10 ^ maxIntegerDigits := by
    have powers : 10 ^ 5 ≤ 10 ^ maxIntegerDigits := Nat.pow_le_pow_right (by decide) (by decide)
    omega
  -- Without a port in the header the listening port is used.
  have default_ok : (Except.ok again : Except DiscoveryError Nat) = .ok port →
      1 ≤ port ∧ port < 10 ^ maxIntegerDigits := by
    intro same
    cases same
    omega
  unfold portFromHostHeader at own
  extract_lets host rest at own
  split at own
  · split at own
    · split at own
      · exact parsePort_bounds own
      · exact default_ok own
    · cases own
  · split at own
    · exact parsePort_bounds own
    · exact default_ok own

/--
A target that is sent back as the header is advertised again, whatever the default port then is.

This holds exactly when the name in it can be read back.
-/
theorem target_advertised_again_iff {hostHeader target : String} {listening : Nat}
    (entry : 1 ≤ listening ∧ listening ≤ 65535)
    (name : advertisedHostname hostHeader = .ok hostname)
    (advertised : advertisedScrapeTarget hostHeader listening = .ok target) (positive : 1 ≤ again) :
    advertisedScrapeTarget target again = .ok target ↔ IsReadable hostname := by
  -- The header gives the same parts again exactly when its name can be read back.
  obtain ⟨read_name, number, read, own, rfl⟩ := exists_parts advertised
  rw [name] at read
  obtain rfl : hostname = read_name := Except.ok.inj read
  obtain ⟨least, short⟩ := portFromHostHeader_bounds entry own
  constructor
  · intro same
    by_contra unreadable
    exact advertised_unreadable unreadable same
  · intro readable
    exact advertised_readable readable least short positive

/-- An address in brackets keeps its brackets and gets the port of the gateway. -/
theorem target_advertised_again_bracketed :
    advertisedScrapeTarget "[::1]:8000" 9000 = .ok "[::1]:8000" ↔ IsReadable "::1".toList :=
  have name : advertisedHostname " [::1] " = .ok "::1".toList := by decide +kernel
  have advertised : advertisedScrapeTarget " [::1] " 8000 = .ok "[::1]:8000" := by decide +kernel
  target_advertised_again_iff ⟨by decide, by decide⟩ name advertised (by decide)

end Targets

section Scrapes

variable (nesting : Nat) (prints : Json → CodePoints) (tickers : List String) (count : Nat)

/-- What a scraper requests of a target gets to the matcher of its label, whatever else it sends. -/
structure ScrapeTarget.LeadsTo (scrape : ScrapeTarget) (index : Nat) : Prop where
  label : scrape.matcherShard.toList = decimalDigits index
  routed : ∀ query body, routeRawRequest nesting prints ⟨"GET", scrape.metricsPath, query, body⟩
    tickers count = .ok ⟨index, none, some "/metrics/"⟩

variable {nesting prints tickers count} {target : String} {index : Nat}

/-- The path of a shard that exists leads to it. -/
theorem ScrapeTarget.ofShard_leadsTo (target : String) (inside : index < count)
    (few : count ≤ 10 ^ maxIntegerDigits) :
    (ScrapeTarget.ofShard target index).LeadsTo nesting prints tickers count index := by
  refine ⟨String.toList_ofList, fun query body => ?_⟩
  have path : (ScrapeTarget.ofShard target index).metricsPath.toList =
      "/metrics/".toList ++ (decimalDigits index ++ ['/']) := by
    simp [ScrapeTarget.ofShard]
  have normalized : RawRequest.normalizedPath
      ⟨"GET", (ScrapeTarget.ofShard target index).metricsPath, query, body⟩ =
        "/metrics/".toList ++ (decimalDigits index ++ ['/']) := by
    rw [RawRequest.normalizedPath, path, if_pos (by simp)]
  -- The digits of the shard are read up to the slash behind them.
  have digits : Path.metricsShard? ("/metrics/".toList ++ (decimalDigits index ++ ['/'])) =
      some (decimalDigits index) := by
    rw [Path.metricsShard?, Path.after?_append, Option.bind_some]
    exact Path.runThenEnd_slash (decimalDigits_ne_nil index)
      (fun c => isDecimal_of_mem_decimalDigits) (by decide)
  have short : ¬maxIntegerDigits < (decimalDigits index).length := by
    rw [Nat.not_lt, length_decimalDigits_le_iff (by decide)]
    omega
  have indexed : requireShardIndex (decimalDigits index) count = .ok index := by
    rw [requireShardIndex, if_neg short, decimalNumber_decimalDigits, if_pos inside]
  have method : methodOf "GET" = .get := by decide +kernel
  have positive : ¬(count : Int) < 1 := by omega
  simp only [routeRawRequest, if_neg positive, normalized, method, routeForIndexedShard, digits,
    Int.toNat_natCast, indexed]
  rfl

/-- A target is read back when it is written. -/
theorem ScrapeTarget.legible {style : Json.Style} (scrape : ScrapeTarget) :
    Json.Legible style 2 scrape.payload := by
  -- The record is flat, but for the list of its one target.
  refine .record (by simp) ?_
  simp only [List.mem_cons, List.not_mem_nil, or_false, forall_eq_or_imp, forall_eq]
  refine ⟨.array ?_, .record (by simp) ?_⟩
  · simp only [List.mem_singleton, forall_eq]
    exact .string scrape.target
  · simp only [List.mem_cons, List.not_mem_nil, or_false, forall_eq_or_imp, forall_eq]
    exact ⟨.string scrape.matcherShard, .string scrape.metricsPath⟩

/-- The target of an accepted header is not blank. -/
theorem isBlank_target {hostHeader : String} {listening : Nat}
    (advertised : advertisedScrapeTarget hostHeader listening = .ok target) :
    isBlank target = false := by
  -- A target has a colon in it, which is no blank.
  obtain ⟨hostname, port, _, _, rfl⟩ := exists_parts advertised
  have text : ∃ front, hostAndPort hostname port = front ++ ':' :: decimalDigits port := ⟨_, rfl⟩
  obtain ⟨front, same⟩ := text
  rw [isBlank, same, decide_eq_false_iff_not]
  intro blank
  have nothing := strip_port front port
  rw [blank] at nothing
  simp at nothing

/--
A scraper that reads the answer has one target for every shard, and each leads to its matcher.

All of them are the public entry under which the gateway was asked.
-/
theorem discovery_reaches_shards {hostHeader : String} {listening : Nat}
    (advertised : advertisedScrapeTarget hostHeader listening = .ok target) (one : 1 ≤ count)
    (few : count ≤ 10 ^ maxIntegerDigits) (deep : 3 ≤ nesting) :
    ∃ (body : List UInt8) (text : List Char) (targets : List ScrapeTarget),
      serviceDiscovery hostHeader listening count = .ok (200, body) ∧
      Utf8.strict? body = some text ∧
      Json.loads nesting text = .ok (.array (targets.map ScrapeTarget.payload)) ∧
      targets.length = count ∧
      ∀ index < count, ∃ scrape, targets[index]? = some scrape ∧ scrape.target = target ∧
        scrape.LeadsTo nesting prints tickers count index := by
  -- The answer lists one target for each shard, and is read back as it was written.
  have solid : isBlank target = false := isBlank_target advertised
  have enough : ¬count < 1 := by omega
  have listed : prometheusSdTargets target count =
      .ok ((List.range count).map (ScrapeTarget.ofShard target)) := by
    rw [prometheusSdTargets, solid, if_neg enough]
    rfl
  -- Each target is an object of texts, which can be read back.
  have legible : Json.Legible Json.defaultStyle nesting
      (.array (((List.range count).map (ScrapeTarget.ofShard target)).map ScrapeTarget.payload)) := by
    refine Json.Legible.deeper (.array fun item member => ?_) deep
    obtain ⟨scrape, _, rfl⟩ := List.mem_map.mp member
    exact scrape.legible
  refine ⟨_, _, (List.range count).map (ScrapeTarget.ofShard target), ?_, Utf8.strict?_encode _,
    Json.loads_write legible, ?_, ?_⟩
  · rw [serviceDiscovery, advertised]
    simp only [listed]
    rfl
  · rw [List.length_map, List.length_range]
  · intro index inside
    -- The entry at a place leads to the shard of that number.
    refine ⟨ScrapeTarget.ofShard target index, ?_, rfl,
      ScrapeTarget.ofShard_leadsTo target inside few⟩
    rw [List.getElem?_map, List.getElem?_range inside]
    rfl

/-- Three matchers behind one entry, which the header names without a port. -/
theorem discovery_reaches_shards_three :
    ∃ (body : List UInt8) (text : List Char) (targets : List ScrapeTarget),
      serviceDiscovery "stock-market" 8000 3 = .ok (200, body) ∧
      Utf8.strict? body = some text ∧
      Json.loads 20 text = .ok (.array (targets.map ScrapeTarget.payload)) ∧
      targets.length = 3 ∧
      ∀ index < 3, ∃ scrape, targets[index]? = some scrape ∧ scrape.target = "stock-market:8000" ∧
        scrape.LeadsTo 20 (fun _ => []) ["005930"] 3 index := by
  have few : 3 ≤ 10 ^ maxIntegerDigits := by
    have powers : 10 ^ 1 ≤ 10 ^ maxIntegerDigits := Nat.pow_le_pow_right (by decide) (by decide)
    omega
  exact discovery_reaches_shards (by decide +kernel) (by decide) few (by decide)

end Scrapes

end StockMarket
