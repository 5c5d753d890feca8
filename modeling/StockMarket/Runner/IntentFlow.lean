import StockMarket.Runner.Housekeeping
import StockMarket.Runner.SubmitReports

/-! What becomes of the intents that the participants return. -/

namespace StockMarket

/-- How far a thread is with the intents of the last answer of a participant. -/
inductive IntentPhase where
  | idle
  | carrying (answer : List OrderIntent) (handed : Nat)

/-- Why the rest of an answer is left behind. -/
inductive LeftReason where
  | noFreeSlot
  | poolRaised
  deriving DecidableEq

/-- An answer of which only the first intents were handed over, with the slots free by then. -/
structure LeftIntents where
  answer : List OrderIntent
  handed : Nat
  reason : LeftReason
  freeSlots : Nat

/-- The intents of the answer that were not handed over. -/
def LeftIntents.intents (left : LeftIntents) : List OrderIntent := left.answer.drop left.handed

namespace RunnerOp

/-- The intents that a participant returns in an operation. -/
def returned : (op : RunnerOp) → op.Reply → List OrderIntent
  | .nextIntents _ _ _, intents => intents
  | _, _ => []

/-- The intent that the pool queues in an operation. -/
def handed : (op : RunnerOp) → op.Reply → List OrderIntent
  | .handOver (.submit intent _), answer => bif PoolAnswer.queues answer then [intent] else []
  | _, _ => []

/-- The operations on the way of an intent to the pool. -/
def startsSubmission : RunnerOp → Bool
  | .acquire _ | .countPending | .handOver (.submit _ _) => true
  | _ => false

end RunnerOp

namespace IntentPhase

/-- Go on with an answer, unless all of it is handed over. -/
def carry (answer : List OrderIntent) (handed : Nat) : IntentPhase :=
  if handed < answer.length then .carrying answer handed else .idle

/-- The intents that are still to be handed over. -/
def carried : IntentPhase → List OrderIntent
  | .idle => []
  | .carrying answer handed => answer.drop handed

/-- Only the next intent of the answer is submitted, and only the first one without a new slot. -/
def allows : IntentPhase → RunnerOp → Bool
  | .idle, .handOver (.submit _ _) => false
  | .idle, _ => true
  | .carrying answer handed, .handOver (.submit intent _) => answer[handed]? = some intent
  | .carrying _ handed, .acquire _ => 0 < handed
  | .carrying _ _, .countPending => true
  | .carrying _ _, _ => false

/-- Where an intent is after an operation. -/
def next : IntentPhase → (op : RunnerOp) → op.Reply → IntentPhase
  | .idle, .nextIntents _ _ _, intents => carry intents 0
  | .carrying answer handed, .handOver (.submit _ _), reply =>
    bif PoolAnswer.raises reply then .idle else carry answer (handed + 1)
  | .carrying answer handed, .acquire _, acquired =>
    bif acquired then .carrying answer handed else .idle
  | phase, _, _ => phase

/--
The rest of the answer is left behind when no slot is free or when the pool raises.

The pool may have queued the intent before it raised, and then only those behind it are left.
-/
def leaves (freeSlots : Nat) : IntentPhase → (op : RunnerOp) → op.Reply → List LeftIntents
  | .carrying answer handed, .handOver (.submit _ _), reply =>
    match reply with
    | PoolAnswer.taken => []
    | PoolAnswer.refused => [⟨answer, handed, .poolRaised, freeSlots⟩]
    | PoolAnswer.queuedAndRaised => [⟨answer, handed + 1, .poolRaised, freeSlots⟩]
  | .carrying answer handed, .acquire _, acquired =>
    bif acquired then [] else [⟨answer, handed, .noFreeSlot, freeSlots⟩]
  | _, _, _ => []

end IntentPhase

/--
What somebody notes who sees the operations of all threads.

The phases tell what each thread still has to hand over of the answer it got last.
-/
structure IntentLedger where
  phases : Dict Nat IntentPhase
  returned : List OrderIntent
  left : List LeftIntents

namespace IntentLedger

/-- A ledger without intents. -/
def empty : IntentLedger := ⟨.empty, [], []⟩

/-- How far a thread is; one that was never seen has got no answer. -/
def phase (ledger : IntentLedger) (thread : Nat) : IntentPhase :=
  (ledger.phases.get? thread).getD .idle

/-- Note an operation that a thread performs. -/
def note (ledger : IntentLedger) (state : RunnerState) (thread : Nat) (op : RunnerOp)
    (reply : op.Reply) : IntentLedger where
  phases := ledger.phases.set thread ((ledger.phase thread).next op reply)
  returned := ledger.returned ++ op.returned reply
  left := ledger.left ++ (ledger.phase thread).leaves state.permits op reply

/-- What is noted by the end of a run. -/
def reached (settings : RunnerSettings) (turns : List RunnerTurnOf) : IntentLedger :=
  (turns.foldl (Shared.watch (runnerService settings) note)
    (RunnerSystem.start settings, empty)).2

/-- How often an intent is still to be handed over. -/
def underWay (ledger : IntentLedger) (intent : OrderIntent) : Nat :=
  ledger.phases.total fun _ phase => phase.carried.count intent

end IntentLedger

/-- The phases move along with the operations. -/
def intentProtocol : Program.Protocol RunnerOp RunnerOp.Reply IntentPhase :=
  .moving IntentPhase.allows IntentPhase.next

namespace RunnerProgram

/-- Programs that leave the thread in a certain phase, by their answer. -/
abbrev Carries {α : Type} (program : RunnerProgram α) (before : IntentPhase)
    (after : α → IntentPhase) : Prop :=
  program.Keeps intentProtocol (fun phase answer => phase = after answer) before

section Carries

variable {α β : Type} {phase : IntentPhase}

/-- One operation, followed by a program that goes on from the next phase. -/
theorem carries_step {final : IntentPhase → α → Prop} {op : RunnerOp}
    {rest : op.Reply → RunnerProgram α} (allowed : phase.allows op = true)
    (kept : ∀ reply, (rest reply).Keeps intentProtocol final (phase.next op reply)) :
    (step op >>= rest).Keeps intentProtocol final phase :=
  Program.Keeps.perform_moving allowed kept

/-- A program is followed by another one that goes on from the phase in which it ends. -/
theorem carries_bind {middle : α → IntentPhase} {after : β → IntentPhase}
    {program : RunnerProgram α} {rest : α → RunnerProgram β}
    (first : Carries program phase middle)
    (second : ∀ answer, Carries (rest answer) (middle answer) after) :
    Carries (program >>= rest) phase after :=
  first.bind fun _ answer same => same ▸ second answer

/-- An answer is given in whatever phase has been reached. -/
theorem carries_pure {after : α → IntentPhase} (answer : α) (same : phase = after answer) :
    Carries (pure answer : RunnerProgram α) phase after :=
  .done same

/-- A thread that carries nothing carries nothing afterwards either. -/
abbrev Idles (program : RunnerProgram α) : Prop := Carries program .idle fun _ => .idle

/-- An answer alone leaves no intent behind. -/
theorem idles_pure (answer : α) : Idles (pure answer : RunnerProgram α) := .done rfl

/-- The next intent of an answer is handed over, unless the pool raises. -/
theorem submitFirst_carries {answer : List OrderIntent} {handed : Nat} {intent : OrderIntent}
    (tick : Nat) (first : answer[handed]? = some intent) :
    Carries (submitToPool (.submit intent tick)) (.carrying answer handed) fun
      | .ok () => .carry answer (handed + 1)
      | .error _ => .idle := by
  refine carries_step rfl fun _ => carries_step (decide_eq_true first) fun reply => ?_
  -- The thread first counts its pending work; only then does the pool decide.
  cases reply with
  | taken => exact carries_pure _ rfl
  | refused | queuedAndRaised =>
    exact carries_step rfl fun _ => carries_step rfl fun _ => carries_pure _ rfl

/-- A further intent is handed over, if there is a slot and the pool takes it. -/
theorem startIntent_carries {answer : List OrderIntent} {handed : Nat} {intent : OrderIntent}
    (tick : Nat) (started : 0 < handed) (first : answer[handed]? = some intent) :
    Carries (startHttp (.submit intent tick) false) (.carrying answer handed) fun
      | .ok true => .carry answer (handed + 1)
      | _ => .idle := by
  -- Without a slot the rest of the answer is dropped.
  refine carries_step (decide_eq_true started) fun acquired => ?_
  cases acquired with
  | false => exact carries_pure _ rfl
  | true =>
    refine carries_bind (submitFirst_carries tick first) fun result => ?_
    cases result with
    | ok _ => exact carries_pure _ rfl
    | error _ => exact carries_pure _ rfl

/-- The further intents are handed over as long as there are slots. -/
theorem startIntents_rest (tick : Nat) (answer : List OrderIntent) : ∀ {handed : Nat}, 0 < handed →
    Carries (startWhileFree ((answer.drop handed).map (HttpJob.submit · tick)))
      (.carry answer handed)
      fun _ => .idle := by
  intro handed
  -- One intent after the other leaves the rest of the answer.
  induction left : answer.length - handed generalizing handed with
  | zero =>
    -- All intents are handed over, so nothing is carried on.
    intro _
    rw [List.drop_of_length_le (by omega), IntentPhase.carry, if_neg (by omega)]
    exact idles_pure _
  | succ left ih =>
    intro started
    -- There is a next intent; it goes first, and the induction takes the others.
    have inside : handed < answer.length := by omega
    rw [List.drop_eq_getElem_cons inside, IntentPhase.carry, if_pos inside, List.map_cons]
    have next := startIntent_carries tick started (List.getElem?_eq_getElem inside)
    refine carries_bind next fun result => ?_
    match result with
    | .ok true => exact ih (by omega) (Nat.succ_pos handed)
    | .ok false => exact idles_pure _
    | .error _ => exact idles_pure _

/-- All intents of an answer are handed over, as far as there are slots. -/
theorem startIntents_carries (tick : Nat) (answer : List OrderIntent) :
    Carries (startIntents tick answer) (.carry answer 0) fun _ => .idle := by
  cases answer with
  -- An empty answer only gives its slot back.
  | nil => exact carries_step rfl fun _ => idles_pure _
  -- The first intent uses the slot that the thread already holds.
  | cons intent others =>
    have first : (intent :: others)[0]? = some intent := rfl
    refine carries_bind (submitFirst_carries tick first) fun result => ?_
    cases result with
    | error _ => exact idles_pure _
    | ok _ => exact startIntents_rest tick (intent :: others) Nat.one_pos

/-- Asking the participants leaves no intent behind. -/
theorem askParticipants_idles (settings : RunnerSettings) (tick cursor : Nat)
    (snapshots : Dict String BookSnapshot) (offsets : List Nat) :
    Idles (askParticipants settings tick cursor snapshots offsets) := by
  induction offsets with
  | nil => exact idles_pure _
  | cons offset later ih =>
    -- Whatever happens to this participant, the later ones are asked from idle.
    have going : Idles (askParticipants settings tick cursor snapshots later >>= fun considered =>
        pure (considered.map (1 + ·))) := carries_bind ih fun _ => idles_pure _
    refine carries_step rfl fun free => ?_
    cases free with
    -- Without a free slot nobody else is asked.
    | false => exact idles_pure _
    | true =>
      simp only [if_true]
      split
      · exact going
      · refine carries_step rfl fun acquired => ?_
        cases acquired with
        | false => exact idles_pure _
        | true =>
          -- The next participant is asked when the answer of this one is dealt with.
          refine carries_step rfl fun intents =>
            carries_bind (startIntents_carries tick intents) fun result => ?_
          cases result with
          | error _ => exact idles_pure _
          | ok _ => exact going

/-- Enqueueing what is due leaves no intent behind. -/
theorem enqueueDueIntents_idles (settings : RunnerSettings) (tick : Nat)
    (snapshots : Dict String BookSnapshot) : Idles (enqueueDueIntents settings tick snapshots) := by
  unfold enqueueDueIntents
  simp only
  split_ifs
  · exact idles_pure _
  · refine carries_step rfl fun cursor =>
      carries_bind (askParticipants_idles settings tick cursor snapshots _) fun result => ?_
    -- An error ends the tick, and it is passed on.
    cases result with
    | error _ => exact idles_pure _
    | ok considered =>
      simp only
      split_ifs
      · exact carries_step rfl fun _ => idles_pure _
      · exact idles_pure _

/-- A program that asks no participant has nothing to hand over. -/
theorem idles_of_housekeeps {program : RunnerProgram α} (kept : Housekeeps program) :
    Idles program := by
  -- Housekeeping never asks a participant, and hands over cancels at most.
  refine (kept.keeps (fun op allowed => ?_) fun op reply later allowed turned => ?_).weaken
    fun _ _ ended => ended.1
  · cases op with
    | handOver job =>
      cases job with
      | submit _ _ => cases allowed
      | cancel _ => rfl
    | _ => rfl
  · cases op with
    | nextIntents _ _ _ => cases allowed
    | _ => exact turned

/-- A tick leaves no intent behind. -/
theorem tickOnce_idles (settings : RunnerSettings) : Idles (tickOnce settings) := by
  -- Expiry comes first; its failure ends the tick before anybody is asked.
  refine carries_step rfl fun tick =>
    carries_bind (idles_of_housekeeps expireOrders_housekeeps) fun result => ?_
  cases result with
  | error _ => exact idles_pure _
  | ok _ =>
    exact carries_bind (idles_of_housekeeps (fetchSnapshots_housekeeps _ _)) fun snapshots =>
      enqueueDueIntents_idles settings tick snapshots

end Carries

end RunnerProgram

/-- Everybody ends with nothing left to hand over. -/
def CarriesNothing (_ : RunnerRequest) (phase : IntentPhase) (_ : Except RunnerError Unit) : Prop :=
  phase = .idle

section Accounts

variable {settings : RunnerSettings} {state state' : RunnerState} {nature : RunnerNature}

variable (settings) in
/-- Every request is served by a thread that carries nothing at first. -/
theorem served_idle {request : RunnerRequest} {program : RunnerProgram (Except RunnerError Unit)}
    (served : state.serve settings request = some (state', program)) :
    program.Keeps intentProtocol (CarriesNothing request) .idle := by
  -- Only a tick asks participants; all other requests are housekeeping.
  by_cases ticks : request = .tickOnce
  · subst ticks
    cases served
    exact RunnerProgram.tickOnce_idles settings
  · exact RunnerProgram.idles_of_housekeeps (served_housekeeps ticks served)

/-- What is carried of an answer is what has not been handed over. -/
theorem carried_carry (answer : List OrderIntent) (handed : Nat) :
    (IntentPhase.carry answer handed).carried = answer.drop handed := by
  unfold IntentPhase.carry
  split_ifs with inside
  · rfl
  · exact (List.drop_of_length_le (by omega)).symm

/-- An operation loses no intent and makes none. -/
theorem IntentPhase.accounted {phase : IntentPhase} {op : RunnerOp}
    (allowed : phase.allows op = true) (reply : op.Reply) (freeSlots : Nat) (intent : OrderIntent) :
    (op.returned reply).count intent + phase.carried.count intent =
      (op.handed reply).count intent + (phase.next op reply).carried.count intent +
        ((phase.leaves freeSlots op reply).flatMap LeftIntents.intents).count intent := by
  cases phase with
  | idle =>
    -- An idle thread gets a new answer, all of which it carries.
    cases op with
    | nextIntents index tick snapshot =>
      have whole (answer : List OrderIntent) :
          answer.count intent + 0 = 0 + (carry answer 0).carried.count intent + 0 := by
        rw [carried_carry, List.drop_zero]
        omega
      exact whole reply
    | handOver job =>
      cases job with
      | submit _ _ => cases allowed
      | cancel _ => rfl
    | _ => rfl
  | carrying answer handed =>
    cases op with
    -- Counting and acquiring a slot move no intent.
    | countPending =>
      change 0 + (answer.drop handed).count intent = 0 + (answer.drop handed).count intent + 0
      rfl
    | acquire blocking =>
      cases reply with
      | true =>
        change 0 + (answer.drop handed).count intent = 0 + (answer.drop handed).count intent + 0
        rfl
      -- A slot was refused, so what is carried is left behind.
      | false =>
        change 0 + (answer.drop handed).count intent =
          0 + 0 + (answer.drop handed ++ []).count intent
        rw [List.append_nil]
    | handOver job =>
      cases job with
      | cancel _ => cases allowed
      | submit first tick =>
        -- The intent that is handed over is the first of those that are carried.
        have found : answer[handed]? = some first := of_decide_eq_true allowed
        obtain ⟨inside, first_eq⟩ := List.getElem?_eq_some_iff.mp found
        have split : (answer.drop handed).count intent =
            [first].count intent + (answer.drop (handed + 1)).count intent := by
          rw [List.drop_eq_getElem_cons inside, first_eq, ← List.singleton_append,
            List.count_append]
        cases reply with
        | taken =>
          change 0 + (answer.drop handed).count intent =
            [first].count intent + (carry answer (handed + 1)).carried.count intent + 0
          rw [carried_carry, split]
          omega
        -- The pool refused, so what is carried is left behind, this intent included.
        | refused =>
          change 0 + (answer.drop handed).count intent =
            0 + 0 + (answer.drop handed ++ []).count intent
          rw [List.append_nil]
        -- The pool raised when it had queued this intent, so that the others are left behind.
        | queuedAndRaised =>
          change 0 + (answer.drop handed).count intent =
            [first].count intent + 0 + (answer.drop (handed + 1) ++ []).count intent
          rw [List.append_nil, split]
          omega
    | _ => cases allowed

/-- What is left behind, was left for one of the two reasons. -/
def LeftIntents.Excused (left : LeftIntents) : Prop :=
  left.reason = .poolRaised ∨ 0 < left.handed ∧ left.freeSlots = 0

/-- The rest of an answer is left behind only if no slot is free, or if the pool raises. -/
theorem IntentPhase.leaves_excused {phase : IntentPhase} {op : RunnerOp} {reply : op.Reply}
    (allowed : phase.allows op = true)
    (executed : state.exec settings nature op = some (state', reply)) :
    ∀ left ∈ phase.leaves state.permits op reply, left.Excused := by
  intro left member
  cases phase with
  | idle => cases member
  | carrying answer handed =>
    cases op with
    -- The slot was refused because there was none; a blocking request would have waited.
    | acquire blocking =>
      simp only [RunnerState.exec] at executed
      split_ifs at executed with some_left
      · cases executed
        cases member
      · cases executed
        rw [List.mem_singleton.mp member]
        exact .inr ⟨of_decide_eq_true allowed, not_ne_iff.mp some_left⟩
    | handOver job =>
      cases job with
      | cancel _ => cases allowed
      | submit intent tick =>
        cases reply with
        | taken => cases member
        | refused | queuedAndRaised =>
          -- The pool raised at this intent.
          rw [List.mem_singleton.mp member]
          exact .inl rfl
    | _ => cases member

/-- The pool notes the intents that it is given. -/
theorem exec_handed {op : RunnerOp} {reply : op.Reply}
    (executed : state.exec settings nature op = some (state', reply)) :
    state'.handed = state.handed ++ op.handed reply := by
  cases moved : op.movesReports with
  | false =>
    have same := exec_reports_same moved executed
    simp only [RunnerState.reports, Prod.mk.injEq] at same
    -- An operation that hands nothing over leaves the list as it is.
    have nothing : op.handed reply = [] := by
      cases op with
      | handOver _ => cases moved
      | _ => rfl
    rw [same.2.1, nothing, List.append_nil]
  | true =>
    cases op with
    | handOver job =>
      simp only [RunnerState.exec] at executed
      -- What is queued is handed over, even if the call raises afterwards.
      split_ifs at executed with queued
      · cases executed
        rw [enqueue_handed]
        cases job with
        | submit intent tick => simp only [RunnerOp.handed, queued, cond_true, HttpJob.intents]
        | cancel orderId => rfl
      · cases executed
        cases job with
        | submit intent tick =>
          simp only [RunnerOp.handed, Bool.not_eq_true _ ▸ queued, cond_false, List.append_nil]
        | cancel orderId => exact (List.append_nil _).symm
    | submitOrder intent =>
      cases executed
      have recorded := recordSubmit_reports state intent nature.nowMs nature.submitted
      simp only [RunnerState.reports, Prod.mk.injEq] at recorded
      -- A submission is noted elsewhere.
      have abandoned : ∀ (after : RunnerState) (submitted : Option Bool),
          (after.abandon intent submitted).handed = after.handed := by
        intro after submitted
        cases submitted <;> rfl
      rw [abandoned, recorded.2.1]
      exact (List.append_nil _).symm
    | afterSubmit intent submitted tick =>
      cases executed
      exact (List.append_nil _).symm
    | _ => cases moved

variable (settings) in
/-- To admit a request gives the pool nothing. -/
theorem serve_handed {request : RunnerRequest} {program : RunnerProgram (Except RunnerError Unit)}
    (served : state.serve settings request = some (state', program)) :
    state'.handed = state.handed := by
  cases request with
  | tickOnce | cancelAllOpenOrders _ _ =>
    cases served
    rfl
  | runJob job =>
    -- A job that is admitted was handed over when it was queued.
    obtain ⟨later, _, rfl, _⟩ := admit_job settings served
    rfl

/-- Whatever was returned was handed over, is under way, or was left behind with an excuse. -/
structure IntentsAgree (handed : List OrderIntent) (ledger : IntentLedger) : Prop where
  accounted : ∀ intent, ledger.returned.count intent = handed.count intent +
    ledger.underWay intent + (ledger.left.flatMap LeftIntents.intents).count intent
  excused : ∀ left ∈ ledger.left, left.Excused

/-- A thread that moves on carries another rest of an answer. -/
theorem underWay_note (state : RunnerState) (ledger : IntentLedger) (thread : Nat)
    (op : RunnerOp) (reply : op.Reply) (intent : OrderIntent) :
    (ledger.note state thread op reply).underWay intent +
        (ledger.phase thread).carried.count intent =
      ledger.underWay intent + ((ledger.phase thread).next op reply).carried.count intent := by
  simp only [IntentLedger.underWay, IntentLedger.note, IntentLedger.phase]
  -- The thread's old phase is replaced; one that was never seen carried nothing.
  cases found : ledger.phases.get? thread with
  | some phase => exact Dict.total_replace found _ fun _ phase => phase.carried.count intent
  | none =>
    rw [Dict.total_set_new found]
    rfl

/-- An operation is noted without losing an intent. -/
theorem IntentsAgree.note {ledger : IntentLedger} (agrees : IntentsAgree state.handed ledger)
    {thread : Nat} {op : RunnerOp} {reply : op.Reply}
    (allowed : (ledger.phase thread).allows op = true)
    (executed : state.exec settings nature op = some (state', reply)) :
    IntentsAgree state'.handed (ledger.note state thread op reply) where
  accounted := by
    intro intent
    -- What was returned before, moved and left adds up over one operation.
    have before := agrees.accounted intent
    have moved := underWay_note state ledger thread op reply intent
    have kept := IntentPhase.accounted allowed reply state.permits intent
    have returned : (ledger.note state thread op reply).returned =
      ledger.returned ++ op.returned reply := rfl
    have handed := exec_handed executed
    have left : (ledger.note state thread op reply).left =
      ledger.left ++ (ledger.phase thread).leaves state.permits op reply := rfl
    rw [returned, handed, left, List.flatMap_append, List.count_append, List.count_append,
      List.count_append]
    omega
  excused := by
    -- An old excuse stays; a new one is given by the operation.
    intro left member
    rcases List.mem_append.mp member with old | new
    · exact agrees.excused left old
    · exact IntentPhase.leaves_excused allowed executed left new

/-- A thread that carries something is on its way to hand it over. -/
theorem starts_of_carrying {phase : IntentPhase} {request : RunnerRequest}
    {program : RunnerProgram (Except RunnerError Unit)}
    (kept : program.Keeps intentProtocol (CarriesNothing request) phase)
    (carries : phase.carried ≠ []) :
    ∃ op next, program = .call op next ∧ op.startsSubmission = true := by
  -- A program that has ended carries nothing, so there is a next operation.
  cases kept with
  | done ended =>
    cases ended
    exact absurd rfl carries
  | @call _ op next allowed _ =>
    refine ⟨op, next, rfl, ?_⟩
    -- The protocol leaves a carrying thread three operations only.
    cases phase with
    | idle => exact absurd rfl carries
    | carrying answer handed =>
      cases op with
      | countPending | acquire _ => rfl
      | handOver job =>
        cases job with
        | submit _ _ => rfl
        | cancel _ => cases allowed
      | _ => cases allowed

end Accounts

namespace IntentLedger

/-- The ledger knows how far every thread is, and its lists agree. -/
def Knows (watched : RunnerSystem × IntentLedger) : Prop :=
  watched.1.Followed intentProtocol CarriesNothing .idle watched.2.phase ∧
    IntentsAgree watched.1.store.handed watched.2

/-- What is noted of a thread is the phase that it moves on to. -/
theorem note_phase (ledger : IntentLedger) (state : RunnerState) (thread : Nat) (op : RunnerOp)
    (reply : op.Reply) :
    (ledger.note state thread op reply).phase =
      Function.update ledger.phase thread ((ledger.phase thread).next op reply) := by
  funext other
  -- The noted phase is stored under the thread's own number.
  rw [Function.update_apply, phase, note, Dict.get?_set]
  split_ifs <;> rfl

/-- Every turn is noted. -/
theorem knows_step (settings : RunnerSettings) {watched : RunnerSystem × IntentLedger}
    (knows : Knows watched) (turn : RunnerTurnOf) :
    Knows (Shared.watch (runnerService settings) note watched turn) := by
  obtain ⟨followed, agrees⟩ := knows
  have stepped := @Shared.Followed.step _ _ _ _ _ _ _ _ _ (runnerService settings) _ _ _ _ _
    followed turn (fun _ _ _ _ served => served_idle settings served) fun _ _ _ ended => ended
  -- A turn either performs no operation, or one that its phase allows.
  obtain ⟨quiet, kept⟩ |
    ⟨thread, nature, op, reply, store, seen, allowed, executed, moved, moves⟩ := stepped
  · have same := Shared.store_of_not_performed RunnerState.handed
      (fun _ _ _ _ _ served => serve_handed settings served) quiet
    rw [Knows, Shared.watch, quiet, same]
    exact ⟨kept, agrees⟩
  · rw [Knows, Shared.watch, seen, moved]
    refine ⟨?_, agrees.note allowed executed⟩
    rw [note_phase]
    exact moves _ rfl

/-- In every run the ledger knows how far every thread is. -/
theorem knows_run (settings : RunnerSettings) (turns : List RunnerTurnOf) :
    ∀ {watched : RunnerSystem × IntentLedger}, Knows watched →
      Knows (turns.foldl (Shared.watch (runnerService settings) note) watched) := by
  induction turns with
  | nil => exact fun knows => knows
  | cons turn later ih => exact fun knows => ih (knows_step settings knows turn)

/--
No intent gets lost on its way to the pool, except in two ways that the ledger knows.

What was returned was handed over once, or is carried by a thread that is about to hand it over.
The rest of an answer is left behind when the pool raises, or when no slot is free for it; the
first intent of an answer never waits for a slot. And what was handed over waits in the pool, is
being submitted, or was reported once, unless its submission raised what nobody handles.
-/
theorem intents_accounted (settings : RunnerSettings) (turns : List RunnerTurnOf) :
    (∀ intent, (reached settings turns).returned.count intent =
      (RunnerSystem.reached settings turns).store.handed.count intent +
        (reached settings turns).underWay intent +
        ((reached settings turns).left.flatMap LeftIntents.intents).count intent) ∧
    (∀ intent, (RunnerSystem.reached settings turns).store.handed.count intent =
      (RunnerSystem.reached settings turns).waitingSubmits intent +
        (RunnerSystem.reached settings turns).runningSubmits intent +
        (RunnerSystem.reached settings turns).store.reported.count intent +
        (RunnerSystem.reached settings turns).store.abandoned.count intent) ∧
    (∀ left ∈ (reached settings turns).left, left.Excused) ∧
    ∀ thread, ((reached settings turns).phase thread).carried ≠ [] →
      ∃ request op next,
        (RunnerSystem.reached settings turns).threads.get? thread = some (request, .call op next) ∧
          op.startsSubmission = true := by
  have fresh : Knows (RunnerSystem.start settings, empty) :=
    ⟨fun _ => rfl, fun _ => rfl, fun _ member => nomatch member⟩
  -- Watching a run does not change it, so the ledger follows the run itself.
  obtain ⟨followed, agrees⟩ := knows_run settings turns fresh
  rw [Shared.watch_store] at followed agrees
  refine ⟨agrees.accounted, RunnerSystem.handed_accounted settings turns, agrees.excused,
    fun thread carries => ?_⟩
  -- A thread that is free carries nothing; a busy one is at its next operation.
  cases found : (RunnerSystem.reached settings turns).threads.get? thread with
  | none => exact absurd (congrArg IntentPhase.carried (followed.free found)) carries
  | some entry =>
    obtain ⟨op, next, called, starts⟩ := starts_of_carrying (followed.find found) carries
    exact ⟨entry.1, op, next, congrArg some (Prod.ext rfl called), starts⟩

/-- A bid and an ask around the midpoint, as a liquidity provider returns them. -/
def bidAndAsk : List OrderIntent :=
  [⟨"lp", "005930", .buy, 69900, 1, none⟩, ⟨"lp", "005930", .sell, 70100, 1, none⟩]

/-- The participant quotes both sides, the pool takes everything, and all calls succeed. -/
def quotingNature : RunnerNature :=
  ⟨0, some ⟨"005930", [], []⟩, bidAndAsk, .taken, .ok ⟨"order", 1⟩, .ok .canceled⟩

/-- A whole tick during which no request is answered. -/
def quotingTurns : List RunnerTurnOf :=
  .begin 0 .tickOnce :: List.replicate 12 (.resume 0 quotingNature)

/-- The pool takes whatever it is given. -/
def poolTakes : RunnerTurnOf → Bool
  | .begin _ _ => true
  | .resume _ nature => nature.pool = .taken

/-- The tick is over, the pool took everything, and yet the ask was not handed over. -/
theorem further_intent_left :
    ¬∀ (settings : RunnerSettings) (turns : List RunnerTurnOf), turns.all poolTakes = true →
      (RunnerSystem.reached settings turns).threads.items = [] →
        ∀ intent ∈ (reached settings turns).returned,
          (RunnerSystem.reached settings turns).store.handed.count intent =
            (reached settings turns).returned.count intent :=
  fun always => absurd
    (always RunnerSystem.oneSlot quotingTurns (by decide +kernel) (by decide +kernel)
      ⟨"lp", "005930", .sell, 70100, 1, none⟩ (by decide +kernel))
    (by decide +kernel)

end IntentLedger

end StockMarket
