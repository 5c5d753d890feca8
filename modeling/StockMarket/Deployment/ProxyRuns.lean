import StockMarket.Deployment.ProxyThreads

/-! The threads of the gateway hand each request over once, and pass on what comes back for it. -/

namespace StockMarket

/-- The shard that a thread waits for. -/
def Stage.asked? : Stage → Option Nat
  | .asked shard => some shard
  | _ => none

/-- The reply of the exchange that a thread has made. -/
def Stage.reply? : Stage → Option (Except ExchangeFault UpstreamResponse)
  | .exchanged _ reply => some reply
  | .observed reply => some reply
  | .finished reply => reply
  | _ => none

/-- The request of a connection is handed over for the matcher of its route, and at its address. -/
def Forwarding.Forwards (settings : GatewaySettings) (connection : Connection)
    (forwarding : Forwarding) : Prop :=
  ∃ route, settings.route connection.raw = .ok route ∧ forwarding.shard = route.shardIndex ∧
    settings.upstream route.shardIndex = .ok forwarding.address ∧
    forwarding.request = connection.forward route

section Histories

variable {α : Type}

/-- Where an answer to a connection comes from. -/
inductive AnswerSource (settings : GatewaySettings) (exchanges : List Exchange) (number : Nat)
    (connection : Connection) : Nat → List (String × String) → List UInt8 → Prop where
  | page (page : String) (asked : connection.asksGateway = true) :
      AnswerSource settings exchanges number connection 200
        (GatewayProgram.ownHeaders "text/plain; version=0.0.4; charset=utf-8"
          (encodeText page.toList)) (encodeText page.toList)
  | own {status : Nat} {payload : List UInt8} (answer : OwnAnswer settings connection status payload) :
      AnswerSource settings exchanges number connection status
        (GatewayProgram.ownHeaders "application/json" payload) payload
  | passed {exchange : Exchange} {response : UpstreamResponse} (made : exchange ∈ exchanges)
      (own : exchange.connection = number) (answered : exchange.reply = .ok response) :
      AnswerSource settings exchanges number connection response.status
        (GatewayProgram.passedOn response.headers) response.payload
  | unavailable {exchange : Exchange} (made : exchange ∈ exchanges)
      (own : exchange.connection = number) (failed : exchange.reply = .error .osError) :
      AnswerSource settings exchanges number connection 502
        (GatewayProgram.ownHeaders "application/json" (errorPayload "matcher is unavailable"))
        (errorPayload "matcher is unavailable")

/--
What a client has got at the end: nothing, when something was not caught; or an answer.

An answer is written as a whole, unless a write has failed.
-/
def ClientServed (settings : GatewaySettings) (store : GatewayStore α) (connection : Connection)
    (served : Served) : Prop :=
  ∃ number, store.connections[number]? = some connection ∧
    (served.Dropped ∨ ∃ status headers payload,
      AnswerSource settings store.exchanges number connection status headers payload ∧
        served.Wrote status headers payload)

variable (settings : GatewaySettings)

/-- Each connection's request is handed over at most once, and at most one reply comes back for it. -/
structure HandedOnce (store : GatewayStore α) : Prop where
  once : (store.forwardings.map Forwarding.connection).Nodup
  forwarded : ∀ forwarding ∈ store.forwardings, ∃ connection,
    store.connections[forwarding.connection]? = some connection ∧
      forwarding.Forwards settings connection
  answeredOnce : (store.exchanges.map Exchange.connection).Nodup
  answered : ∀ exchange ∈ store.exchanges, ∃ forwarding ∈ store.forwardings,
    forwarding.connection = exchange.connection ∧ forwarding.shard = exchange.shard

/-- The histories tell how far a thread is: it has its reply, waits for it, or has not asked yet. -/
def HandlerPhase.Recorded (phase : HandlerPhase) (store : GatewayStore α) : Prop :=
  match phase.stage.reply? with
  | some reply =>
    ∃ exchange ∈ store.exchanges, exchange.connection = phase.number ∧ exchange.reply = reply
  | none =>
    (∀ exchange ∈ store.exchanges, exchange.connection ≠ phase.number) ∧
      match phase.stage.asked? with
      | some shard => ∃ forwarding ∈ store.forwardings,
        forwarding.connection = phase.number ∧ forwarding.shard = shard
      | none => ∀ forwarding ∈ store.forwardings, forwarding.connection ≠ phase.number

/-- Threads are for different connections, and have come as far as the histories tell. -/
structure HandingAgrees (store : GatewayStore α) (phases : Dict Nat HandlerPhase) : Prop where
  handed : HandedOnce settings store
  numbered : ∀ thread phase, phases.get? thread = some phase →
    store.connections[phase.number]? = some phase.connection
  distinct : ∀ thread other phase phase', phases.get? thread = some phase →
    phases.get? other = some phase' → phase.number = phase'.number → thread = other
  recorded : ∀ thread phase, phases.get? thread = some phase → phase.Recorded store

end Histories

section Moves

variable {α : Type} {settings : GatewaySettings} {store store' : GatewayStore α}
  {phases : Dict Nat HandlerPhase} {thread : Nat} {phase later : HandlerPhase}

/-- Entries about other connections do not change how far a thread is. -/
theorem HandlerPhase.Recorded.grows (recorded : phase.Recorded store)
    {forwardings : List Forwarding} {exchanges : List Exchange}
    (forwarded : store'.forwardings = store.forwardings ++ forwardings)
    (exchanged : store'.exchanges = store.exchanges ++ exchanges)
    (others : ∀ forwarding ∈ forwardings, forwarding.connection ≠ phase.number)
    (others' : ∀ exchange ∈ exchanges, exchange.connection ≠ phase.number) :
    phase.Recorded store' := by
  -- What was recorded stays, and what is new is about other connections.
  unfold HandlerPhase.Recorded at recorded ⊢
  rw [forwarded, exchanged]
  cases reply : phase.stage.reply? with
  | some result =>
    rw [reply] at recorded
    obtain ⟨exchange, member, rest⟩ := recorded
    exact ⟨exchange, List.mem_append_left _ member, rest⟩
  | none =>
    rw [reply] at recorded
    obtain ⟨unanswered, unasked⟩ := recorded
    refine ⟨List.forall_mem_append.mpr ⟨unanswered, others'⟩, ?_⟩
    -- Before a reply there may be a request that waits for one.
    cases asked : phase.stage.asked? with
    | some shard =>
      rw [asked] at unasked
      obtain ⟨forwarding, member, rest⟩ := unasked
      exact ⟨forwarding, List.mem_append_left _ member, rest⟩
    | none =>
      rw [asked] at unasked
      exact List.forall_mem_append.mpr ⟨unasked, others⟩

/-- The phases of the other threads are as they were. -/
theorem HandingAgrees.others (held : HandingAgrees settings store phases)
    (found : phases.get? thread = some phase) {other : Nat} {phase' : HandlerPhase}
    (apart : other ≠ thread) (there : phases.get? other = some phase') :
    phase'.number ≠ phase.number :=
  fun same => apart (held.distinct other thread phase' phase there found same)

/-- A thread that goes on adds to the histories what is about its own connection. -/
theorem HandingAgrees.advance (held : HandingAgrees settings store phases)
    (found : phases.get? thread = some phase) (handed : HandedOnce settings store')
    (connections : store'.connections = store.connections)
    {forwardings : List Forwarding} {exchanges : List Exchange}
    (forwarded : store'.forwardings = store.forwardings ++ forwardings)
    (exchanged : store'.exchanges = store.exchanges ++ exchanges)
    (own : ∀ forwarding ∈ forwardings, forwarding.connection = phase.number)
    (own' : ∀ exchange ∈ exchanges, exchange.connection = phase.number)
    {stage : Stage} (recorded : HandlerPhase.Recorded { phase with stage := stage } store') :
    HandingAgrees settings store' (phases.set thread { phase with stage := stage }) := by
  refine ⟨handed, ?_, ?_, ?_⟩
  · -- The connections are the same, and so are the numbers of the threads.
    intro other phase' there
    rw [connections]
    rw [Dict.get?_set] at there
    split at there
    · cases there
      exact held.numbered thread phase found
    · exact held.numbered other phase' there
  · intro first second phase' phase'' one two same
    rw [Dict.get?_set] at one two
    split at one <;> split at two
    · -- One thread has moved on, and it keeps its number.
      rename_i here there
      rw [here, there]
    · rename_i here there
      cases one
      exact absurd same.symm (held.others found there two)
    · rename_i here there
      cases two
      exact absurd same (held.others found here one)
    · exact held.distinct first second phase' phase'' one two same
  · intro other phase' there
    rw [Dict.get?_set] at there
    split at there
    · cases there
      exact recorded
    · -- What is new is not about the connection of another thread.
      rename_i apart
      have foreign := held.others found apart there
      refine (held.recorded other phase' there).grows forwarded exchanged ?_ ?_
      · exact fun forwarding member same => foreign (same.symm.trans (own forwarding member))
      · exact fun exchange member same => foreign (same.symm.trans (own' exchange member))

/-- A step that adds nothing to the histories keeps the agreement. -/
theorem HandingAgrees.move (held : HandingAgrees settings store phases)
    (found : phases.get? thread = some phase)
    (same : store'.connections = store.connections ∧ store'.forwardings = store.forwardings ∧
      store'.exchanges = store.exchanges)
    {stage : Stage} (still : stage.reply? = phase.stage.reply? ∧ stage.asked? = phase.stage.asked?) :
    HandingAgrees settings store' (phases.set thread { phase with stage := stage }) := by
  -- Neither what was handed over nor what came back has changed.
  obtain ⟨connections, forwarded, exchanged⟩ := same
  have handed : HandedOnce settings store' := by
    obtain ⟨once, forwards, answeredOnce, answered⟩ := held.handed
    refine ⟨?_, ?_, ?_, ?_⟩
    · rwa [forwarded]
    · rwa [forwarded, connections]
    · rwa [exchanged]
    · rwa [exchanged, forwarded]
  refine held.advance found handed connections (forwarded.trans (List.append_nil _).symm)
    (exchanged.trans (List.append_nil _).symm) nofun nofun ?_
  have recorded := held.recorded thread phase found
  unfold HandlerPhase.Recorded at recorded ⊢
  rw [forwarded, exchanged]
  simp only [still.1, still.2]
  exact recorded

/-- A thread that has not asked hands its request over. -/
theorem HandingAgrees.request (held : HandingAgrees settings store phases)
    (found : phases.get? thread = some phase)
    (fresh : phase.stage.reply? = none ∧ phase.stage.asked? = none) {forwarding : Forwarding}
    (own : forwarding.connection = phase.number)
    (forwards : forwarding.Forwards settings phase.connection) :
    HandingAgrees settings { store with forwardings := store.forwardings ++ [forwarding] }
      (phases.set thread { phase with stage := .asked forwarding.shard }) := by
  have recorded := held.recorded thread phase found
  unfold HandlerPhase.Recorded at recorded
  rw [fresh.1, fresh.2] at recorded
  obtain ⟨unanswered, unasked⟩ := recorded
  -- The thread has handed nothing over, so that its request is the only one.
  have numbered := held.numbered thread phase found
  -- The history has one more request, for a connection that had none.
  have handed : HandedOnce settings
      { store with forwardings := store.forwardings ++ [forwarding] } := by
    obtain ⟨once, forwarded, answeredOnce, answered⟩ := held.handed
    refine ⟨?_, ?_, answeredOnce, ?_⟩
    · show ((store.forwardings ++ [forwarding]).map Forwarding.connection).Nodup
      rw [List.map_append, List.nodup_append]
      refine ⟨once, List.nodup_singleton _, fun number member other last => ?_⟩
      obtain ⟨earlier, before, rfl⟩ := List.mem_map.mp member
      rw [List.mem_singleton.mp last, own]
      exact unasked earlier before
    · refine List.forall_mem_append.mpr ⟨forwarded, fun last member => ?_⟩
      rw [List.mem_singleton.mp member]
      exact ⟨phase.connection, own ▸ numbered, forwards⟩
    · intro exchange member
      obtain ⟨earlier, inside, rest⟩ := answered exchange member
      exact ⟨earlier, List.mem_append_left _ inside, rest⟩
  exact held.advance found handed rfl rfl (List.append_nil _).symm
    (fun last member => List.mem_singleton.mp member ▸ own) nofun
    ⟨unanswered, forwarding, List.mem_append_right _ List.mem_cons_self, own, rfl⟩

/-- A thread that waits for a matcher gets a reply, or finds that the exchange has failed. -/
theorem HandingAgrees.response (held : HandingAgrees settings store phases)
    (found : phases.get? thread = some phase) {exchange : Exchange}
    (waits : phase.stage = .asked exchange.shard) (own : exchange.connection = phase.number)
    {stage : Stage} (made : stage.reply? = some exchange.reply) :
    HandingAgrees settings { store with exchanges := store.exchanges ++ [exchange] }
      (phases.set thread { phase with stage := stage }) := by
  have recorded := held.recorded thread phase found
  unfold HandlerPhase.Recorded at recorded
  rw [waits] at recorded
  obtain ⟨unanswered, forwarding, asked, same, shard⟩ := recorded
  -- No reply has come back for the connection, so that this one is the only one.
  have handed : HandedOnce settings { store with exchanges := store.exchanges ++ [exchange] } := by
    obtain ⟨once, forwarded, answeredOnce, answered⟩ := held.handed
    refine ⟨once, forwarded, ?_, ?_⟩
    · show ((store.exchanges ++ [exchange]).map Exchange.connection).Nodup
      rw [List.map_append, List.nodup_append]
      refine ⟨answeredOnce, List.nodup_singleton _, fun number member other last => ?_⟩
      obtain ⟨earlier, before, rfl⟩ := List.mem_map.mp member
      rw [List.mem_singleton.mp last, own]
      exact unanswered earlier before
    · refine List.forall_mem_append.mpr ⟨answered, fun last member => ?_⟩
      rw [List.mem_singleton.mp member]
      exact ⟨forwarding, asked, same.trans own.symm, shard⟩
  -- The thread has its reply recorded, and the others have theirs.
  refine held.advance found handed rfl (List.append_nil _).symm rfl nofun
    (fun last member => List.mem_singleton.mp member ▸ own) ?_
  unfold HandlerPhase.Recorded
  simp only [made]
  exact ⟨exchange, List.mem_append_right _ List.mem_cons_self, own, rfl⟩

/-- Connections are accepted in turn, each with a thread that has asked for nothing. -/
theorem HandingAgrees.accept (held : HandingAgrees settings store phases)
    (connection : Connection) :
    HandingAgrees settings { store with connections := store.connections ++ [connection] }
      (phases.set thread ⟨store.connections.length, connection, .accepted⟩) := by
  have longer : ∀ number connection', store.connections[number]? = some connection' →
      (store.connections ++ [connection])[number]? = some connection' ∧
        number < store.connections.length := by
    intro number connection' there
    obtain ⟨inside, _⟩ := List.getElem?_eq_some_iff.mp there
    exact ⟨(List.getElem?_append_left inside).trans there, inside⟩
  have last : (store.connections ++ [connection])[store.connections.length]? = some connection := by
    simp
  have foreign : ∀ other phase', phases.get? other = some phase' →
      phase'.number ≠ store.connections.length := fun other phase' there =>
    Nat.ne_of_lt (longer _ _ (held.numbered other phase' there)).2
  obtain ⟨once, forwarded, answeredOnce, answered⟩ := held.handed
  -- Every request handed over so far is for a connection that was accepted before.
  have unasked : ∀ forwarding ∈ store.forwardings,
      forwarding.connection ≠ store.connections.length := by
    intro forwarding member
    obtain ⟨connection', inside, _⟩ := forwarded forwarding member
    exact Nat.ne_of_lt (longer _ _ inside).2
  -- A reply needs a request before it.
  have unanswered : ∀ exchange ∈ store.exchanges,
      exchange.connection ≠ store.connections.length := by
    intro exchange member
    obtain ⟨forwarding, inside, same, _⟩ := answered exchange member
    exact same ▸ unasked forwarding inside
  refine ⟨⟨once, fun forwarding member => ?_, answeredOnce, answered⟩, ?_, ?_, ?_⟩
  · obtain ⟨connection', there, forwards⟩ := forwarded forwarding member
    exact ⟨connection', (longer _ _ there).1, forwards⟩
  · intro other phase' there
    rw [Dict.get?_set] at there
    split at there
    · cases there
      exact last
    · exact (longer _ _ (held.numbered other phase' there)).1
  · -- The new number is that of no other thread.
    intro first second phase' phase'' one two same
    rw [Dict.get?_set] at one two
    split at one <;> split at two
    · rename_i here there
      rw [here, there]
    · cases one
      exact absurd same.symm (foreign second phase'' two)
    · cases two
      exact absurd same (foreign first phase' one)
    · exact held.distinct first second phase' phase'' one two same
  · intro other phase' there
    rw [Dict.get?_set] at there
    split at there
    · cases there
      -- Nothing has been recorded for the new connection.
      exact ⟨unanswered, unasked⟩
    · exact held.recorded other phase' there

/-- A thread that ends takes nothing with it. -/
theorem HandingAgrees.erase (held : HandingAgrees settings store phases) (thread : Nat) :
    HandingAgrees settings store (phases.erase thread) := by
  -- What is left was there before.
  have earlier : ∀ other phase', (phases.erase thread).get? other = some phase' →
      phases.get? other = some phase' := by
    intro other phase' there
    rw [Dict.get?_erase] at there
    split at there
    · cases there
    · exact there
  exact ⟨held.handed, fun other phase' there => held.numbered other phase' (earlier _ _ there),
    fun first second phase' phase'' one two => held.distinct first second phase' phase''
      (earlier _ _ one) (earlier _ _ two),
    fun other phase' there => held.recorded other phase' (earlier _ _ there)⟩

/-- A thread that ends has served its client. -/
theorem HandingAgrees.ended (held : HandingAgrees settings store phases)
    (found : phases.get? thread = some phase) {served : Served}
    (ended : Ended settings phase.connection phase.stage served) :
    ClientServed settings store phase.connection served := by
  -- What was recorded for the thread tells where its answer comes from.
  have recorded := held.recorded thread phase found
  refine ⟨phase.number, held.numbered thread phase found, ?_⟩
  obtain ⟨number, connection, stage⟩ := phase
  cases ended with
  | page asked wrote => exact .inr ⟨_, _, _, .page _ asked, wrote⟩
  | own answer wrote => exact .inr ⟨_, _, _, .own answer, wrote⟩
  | dropped dropped _ => exact .inl dropped
  | passed wrote =>
    obtain ⟨exchange, member, own, reply⟩ := recorded
    exact .inr ⟨_, _, _, .passed member own reply, wrote⟩
  | unavailable wrote =>
    obtain ⟨exchange, member, own, reply⟩ := recorded
    exact .inr ⟨_, _, _, .unavailable member own reply, wrote⟩

/-- What a client has got does not change when more connections and exchanges follow. -/
theorem ClientServed.grows {connection : Connection} {served : Served}
    (told : ClientServed settings store connection served)
    (connections : store.connections <+: store'.connections)
    (exchanges : store.exchanges <+: store'.exchanges) :
    ClientServed settings store' connection served := by
  -- Both histories only grow at their ends, so that what was true of them stays true.
  obtain ⟨number, there, got⟩ := told
  obtain ⟨more, same⟩ := connections
  have kept : store'.connections[number]? = some connection := by
    obtain ⟨inside, _⟩ := List.getElem?_eq_some_iff.mp there
    rw [← same, List.getElem?_append_left inside, there]
  refine ⟨number, kept, got.imp_right ?_⟩
  rintro ⟨status, headers, payload, source, wrote⟩
  refine ⟨status, headers, payload, ?_, wrote⟩
  cases source with
  | page page asked => exact .page page asked
  | own answer => exact .own answer
  | passed made own answered => exact .passed (exchanges.subset made) own answered
  | unavailable made own failed => exact .unavailable (exchanges.subset made) own failed

end Moves

section Runs

variable {α : Type} [LinearOrder α] [Zero α] [Add α] [Sub α] (bounds : List α)
  (writing : GatewayStore.Writing α) (settings : GatewaySettings)

omit [Sub α] in
/-- No step loses connections or exchanges. -/
theorem exec_grows {store store' : GatewayStore α} {nature : GatewayNature α}
    {op : GatewayOp α} {reply : op.Reply}
    (ran : store.exec bounds writing nature op = (store', reply)) :
    store'.connections = store.connections ∧ store.exchanges <+: store'.exchanges := by
  -- Only a reply adds to the exchanges.
  cases op with
  | response number shard =>
    cases ran
    exact ⟨rfl, List.prefix_append _ _⟩
  | now | noteAccepted | takeAccepted | metrics | render | receive | request | send =>
    cases ran
    exact ⟨rfl, List.prefix_rfl⟩

omit [Sub α] in
/-- An allowed step leads to the stage after it, and keeps the agreement. -/
theorem HandingAgrees.performed {store store' : GatewayStore α} {phases : Dict Nat HandlerPhase}
    {thread : Nat} {phase : HandlerPhase} {nature : GatewayNature α} {op : GatewayOp α}
    {reply : op.Reply} (held : HandingAgrees settings store phases)
    (found : phases.get? thread = some phase)
    (allowed : Allowed settings phase.number phase.connection phase.stage op)
    (ran : store.exec bounds writing nature op = (store', reply)) :
    HandingAgrees settings store'
      (phases.set thread { phase with stage := phase.stage.next op reply }) := by
  -- Only two operations are about what is handed over; all others leave it alone.
  obtain ⟨number, connection, stage⟩ := phase
  simp only at allowed
  cases allowed with
  | @request route address routed addressed =>
    cases ran
    exact held.request found ⟨rfl, rfl⟩ rfl ⟨route, routed, rfl, addressed, rfl⟩
  | response =>
    cases ran
    refine held.response found rfl rfl ?_
    simp only [Stage.next]
    split <;> rfl
  -- The next stage depends on whether a time was noted.
  | takeAccepted =>
    cases ran
    refine held.move found ?_ ?_
    · exact ⟨rfl, rfl, rfl⟩
    · cases store.acceptedAt.get? number <;> exact ⟨rfl, rfl⟩
  | now | noteAccepted | observeAcceptWait | render | requestStarted | receive | observeUpstream
  | send | finishEarly | finish =>
    cases ran
    refine held.move found ?_ ?_
    · exact ⟨rfl, rfl, rfl⟩
    · exact ⟨rfl, rfl⟩

omit [Add α] [Sub α] [LinearOrder α] in
/-- Before the first connection, nothing was handed over. -/
theorem HandingAgrees.idle :
    HandingAgrees settings (GatewaySystem.start (α := α) bounds).store .empty :=
  ⟨⟨List.nodup_nil, nofun, List.nodup_nil, nofun⟩, nofun, nofun, nofun⟩

/-- The agreement about what is handed over, kept by all threads of the gateway. -/
def handingAgreement : Agreement (gatewayService bounds writing settings) HandlerPhase where
  protocol := gatewayProtocol settings
  final := GatewayProgram.Finished settings
  agrees := HandingAgrees settings
  told := ClientServed settings
  admits := by
    intro store phases thread connection store' program held _ served
    cases served
    exact ⟨_, GatewayProgram.serve_keeps, held.accept connection⟩
  performs := by
    intro store phases thread phase nature op store' reply held found allowed executed
    exact ⟨_, rfl, held.performed bounds writing settings found allowed (Option.some.inj executed)⟩
  answers := by
    rintro store phases thread phase connection served held found ⟨rfl, ended⟩
    exact ⟨held.erase thread, held.ended found ended⟩
  serving := by
    intro store thread connection store' program other served told admitted
    cases admitted
    exact told.grows (List.prefix_append _ _) List.prefix_rfl
  lasting := by
    intro store nature op store' reply connection served told executed
    obtain ⟨same, grown⟩ := exec_grows bounds writing (Option.some.inj executed)
    exact told.grows (same ▸ List.prefix_rfl) grown

end Runs

end StockMarket
