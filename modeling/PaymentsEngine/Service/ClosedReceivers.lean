import PaymentsEngine.Service.Accounting

/-! # Closed receivers

A send that fails ends the event loop at once, with whatever the heap still holds.  So
a received message is lost exactly when the first send that meets a closed receiver
belongs to a transaction with others behind it in its flush.  `schedule` lists the
sends of a stream as they would follow each other; `endsClean` looks for that first
closed receiver.
-/

namespace PaymentsEngine

open PaymentsEngine.Library PaymentsEngine.Library.Machine

namespace Service

variable (heap : PendingHeap) (receivers : Receivers) (config : ServiceConfig)

/-- A send of the event loop and how many transactions wait behind it in its flush. -/
structure Send where
  callback : ChannelId
  waiting : Nat
  deriving DecidableEq, Repr

/-- The sends of one flush. -/
def flushSends : List PendingTransaction → List Send
  | [] => []
  | tx :: rest => { callback := tx.callback, waiting := rest.length } :: flushSends rest

/-- The sends that a buffer and a stream lead to as long as none of them fails. -/
def schedule (buffer : heap.Carrier) : List ServiceMessage → List Send
  | [] => flushSends (heap.drain buffer).1
  | .incoming message callback :: messages =>
    let buffer := heap.push { message := message, callback := callback } buffer
    if heap.len buffer ≥ config.batchSize then
      flushSends (heap.drain buffer).1 ++ schedule (heap.drain buffer).2 messages
    else schedule buffer messages
  | .transactionBatchCompletion callback :: messages =>
    flushSends (heap.drain buffer).1 ++
      { callback := callback, waiting := 0 } :: schedule (heap.drain buffer).2 messages

/-- Nothing waits behind the first of the sends whose receiver is closed. -/
def endsClean (sent : Nat) : List Send → Bool
  | [] => true
  | send :: rest =>
    if receivers.isOpen sent send.callback then endsClean (sent + 1) rest else send.waiting == 0

/-! ## One flush -/

theorem endsClean_handled {world : World} {txs : List PendingTransaction}
    (all : handleAll receivers world txs = (.ok (), world.handled txs, [])) (tail : List Send) :
    endsClean receivers world.sent.length (flushSends txs ++ tail) =
      endsClean receivers (world.handled txs).sent.length tail := by
  induction txs generalizing world with
  | nil => rw [World.handled_nil]; rfl
  | cons tx txs ih =>
    cases isOpen : receivers.isOpen world.sent.length tx.callback with
    | true =>
      rw [handleAll_open receivers isOpen, World.handled_cons world tx txs] at all
      rw [flushSends, List.cons_append, endsClean, if_pos isOpen, World.handled_cons world tx txs, ← ih all,
        World.handled_sent_length]
      rfl
    | false => rw [handleAll_closed receivers isOpen] at all; cases all

theorem endsClean_stopped {world next : World} {txs left : List PendingTransaction} {error : String}
    (stopped : handleAll receivers world txs = (.error error, next, left)) (tail : List Send) :
    endsClean receivers world.sent.length (flushSends txs ++ tail) = true ↔ left = [] := by
  induction txs generalizing world with
  | nil => cases stopped
  | cons tx txs ih =>
    cases isOpen : receivers.isOpen world.sent.length tx.callback with
    | true =>
      rw [handleAll_open receivers isOpen] at stopped
      have rest := ih stopped
      rw [World.handled_sent_length] at rest
      rw [flushSends, List.cons_append, endsClean, if_pos isOpen]
      exact rest
    | false =>
      rw [handleAll_closed receivers isOpen] at stopped
      cases stopped
      rw [flushSends, List.cons_append, endsClean, isOpen]
      simp

section Flush

variable {heap receivers} {world next : World} {buffer left : heap.Carrier}

theorem endsClean_ok
    (flushed : handleBuffer heap receivers world buffer = (.ok (), next, left)) (tail : List Send) :
    endsClean receivers world.sent.length (flushSends (heap.drain buffer).1 ++ tail) =
      endsClean receivers next.sent.length tail := by
  obtain ⟨all, rfl, _⟩ := handleBuffer_ok flushed
  exact endsClean_handled receivers all tail

theorem endsClean_error {error : String}
    (flushed : handleBuffer heap receivers world buffer = (.error error, next, left))
    (tail : List Send) :
    endsClean receivers world.sent.length (flushSends (heap.drain buffer).1 ++ tail) = true ↔
      heap.contents left = 0 := by
  obtain ⟨done, tx, rest, _, stopped, _, remaining⟩ := handleBuffer_error flushed
  rw [endsClean_stopped receivers stopped, remaining, Multiset.coe_eq_zero]

theorem contents_ok
    (flushed : handleBuffer heap receivers world buffer = (.ok (), next, left)) :
    heap.contents left = 0 := by
  obtain ⟨_, _, rfl⟩ := handleBuffer_ok flushed
  exact (heap.drain_contents buffer).2

end Flush

/-! ## A whole run -/

/-- An iteration makes the sends that the schedule begins with; when it fails, they end clean exactly
    when it left nothing. -/
theorem endsClean_iteration {world next : World} {buffer left : heap.Carrier} {msg : ServiceMessage}
    {result : AnyResult}
    (iterated : iteration heap receivers config world buffer msg = (result, next, left))
    (messages : List ServiceMessage) :
    (result = .ok () →
      endsClean receivers world.sent.length (schedule heap config buffer (msg :: messages)) =
        endsClean receivers next.sent.length (schedule heap config left messages)) ∧
      ∀ error, result = .error error →
        (endsClean receivers world.sent.length (schedule heap config buffer (msg :: messages)) = true ↔
          heap.contents left = 0) := by
  cases msg with
  | incoming message callback =>
    rw [schedule]
    by_cases full : config.batchSize ≤ heap.len (heap.push ⟨message, callback⟩ buffer)
    · rw [iteration_full full] at iterated
      rw [if_pos full]
      constructor
      · rintro rfl
        obtain ⟨_, _, emptied⟩ := handleBuffer_ok iterated
        rw [endsClean_ok iterated, emptied]
      · rintro error rfl
        exact endsClean_error iterated _
    · rw [iteration_below full] at iterated
      cases iterated
      rw [if_neg full]
      exact ⟨fun _ => rfl, fun _ failed => by cases failed⟩
  | transactionBatchCompletion callback =>
    rw [schedule]
    generalize flushed : handleBuffer heap receivers world buffer = outcome
    obtain ⟨flushResult, flushNext, flushLeft⟩ := outcome
    cases flushResult with
    | ok =>
      obtain ⟨_, _, emptied⟩ := handleBuffer_ok flushed
      rw [endsClean_ok flushed, endsClean]
      cases isOpen : receivers.isOpen flushNext.sent.length callback with
      | true =>
        rw [iteration_confirmed flushed isOpen] at iterated
        cases iterated
        rw [List.length_append, emptied]
        exact ⟨fun _ => rfl, fun _ failed => by cases failed⟩
      | false =>
        -- The acknowledgement is sent after the flush, so a closed receiver loses nothing.
        rw [iteration_unconfirmed flushed isOpen] at iterated
        cases iterated
        exact ⟨fun ok => (by cases ok), fun _ _ => iff_of_true rfl (contents_ok flushed)⟩
    | error error =>
      rw [iteration_failed flushed] at iterated
      cases iterated
      exact ⟨fun ok => (by cases ok), fun _ _ => endsClean_error flushed _⟩

/-- The heap is empty in the end exactly when the sends of the stream end clean. -/
theorem eventLoop_empty_iff (stop : Stop) (messages : List ServiceMessage) :
    ∀ (world : World) (buffer : heap.Carrier) (received : List ServiceMessage),
      heap.contents (eventLoop heap receivers config world buffer stop received messages).buffer = 0 ↔
        endsClean receivers world.sent.length (schedule heap config buffer messages) = true := by
  induction messages with
  | nil =>
    intro world buffer received
    -- The last flush: its sends are the whole schedule.
    generalize flushed : handleBuffer heap receivers world buffer = outcome
    obtain ⟨result, next, left⟩ := outcome
    rw [eventLoop_nil, flushed, schedule, ← List.append_nil (flushSends _)]
    cases result with
    | ok =>
      rw [endsClean_ok flushed]
      exact iff_of_true (contents_ok flushed) rfl
    | error error => rw [endsClean_error flushed]
  | cons msg messages ih =>
    intro world buffer received
    generalize iterated : iteration heap receivers config world buffer msg = outcome
    obtain ⟨result, next, left⟩ := outcome
    obtain ⟨goesOn, ends⟩ := endsClean_iteration heap receivers config iterated messages
    cases result with
    | ok => rw [eventLoop_ok iterated, ih, goesOn rfl]
    | error error => rw [eventLoop_error iterated, ends error rfl]

/-! ## The same run with every receiver open -/

/-- A flush that succeeds or leaves nothing applied everything that was buffered. -/
theorem handleBuffer_settled {heap : PendingHeap} {receivers : Receivers} {world next : World}
    {buffer left : heap.Carrier} {result : AnyResult}
    (flushed : handleBuffer heap receivers world buffer = (result, next, left))
    (settled : result = .ok () ∨ heap.contents left = 0) :
    next.accounts = after Accounts.respond world.accounts (heap.drain buffer).1 ∧
      (result = .ok () → left = (heap.drain buffer).2) := by
  cases result with
  | ok =>
    obtain ⟨_, rfl, emptied⟩ := handleBuffer_ok flushed
    exact ⟨rfl, fun _ => emptied⟩
  | error error =>
    obtain ⟨done, tx, rest, split, _, rfl, remaining⟩ := handleBuffer_error flushed
    -- Nothing is left behind, so the transaction whose receiver was closed was the last one.
    obtain ok | empty := settled
    · cases ok
    · rw [remaining, Multiset.coe_eq_zero] at empty
      rw [split, empty]
      exact ⟨rfl, fun ok => by cases ok⟩

/-- An iteration that succeeds or leaves nothing does the same to the accounts when every receiver
    is open. -/
theorem iteration_reopened {heap : PendingHeap} {receivers : Receivers} {config : ServiceConfig}
    {world next openWorld : World} {buffer left : heap.Carrier} {msg : ServiceMessage}
    {result : AnyResult} (same : openWorld.accounts = world.accounts)
    (iterated : iteration heap receivers config world buffer msg = (result, next, left))
    (settled : result = .ok () ∨ heap.contents left = 0) :
    ∃ openNext openLeft,
      iteration heap .allOpen config openWorld buffer msg = (.ok (), openNext, openLeft) ∧
        openNext.accounts = next.accounts ∧ (result = .ok () → openLeft = left) ∧
        (heap.contents left = 0 → heap.contents openLeft = 0) := by
  cases msg with
  | incoming message callback =>
    by_cases full : config.batchSize ≤ heap.len (heap.push ⟨message, callback⟩ buffer)
    · rw [iteration_full full] at iterated
      obtain ⟨accounts, emptied⟩ := handleBuffer_settled iterated settled
      refine ⟨_, _, (iteration_full full).trans (handleBuffer_allOpen openWorld _), ?_,
        fun ok => (emptied ok).symm, fun _ => (heap.drain_contents _).2⟩
      rw [accounts, ← same]
      rfl
    · rw [iteration_below full] at iterated
      cases iterated
      exact ⟨_, _, iteration_below full, same, fun _ => rfl, id⟩
  | transactionBatchCompletion callback =>
    obtain ⟨flushResult, flushNext, flushed, sameButSent, flushOk⟩ := iteration_flush iterated
    obtain ⟨accounts, emptied⟩ := handleBuffer_settled flushed (settled.imp_left flushOk)
    have sameAccounts : next.accounts = flushNext.accounts := by
      obtain rfl | rfl := sameButSent <;> rfl
    refine ⟨_, _, iteration_confirmed (handleBuffer_allOpen openWorld buffer) rfl, ?_,
      fun ok => (emptied (flushOk ok)).symm, fun _ => (heap.drain_contents _).2⟩
    rw [sameAccounts, accounts, ← same]
    rfl

/-- A run that leaves an empty heap has the accounts of the run with open receivers over the
    messages that it received. -/
theorem eventLoop_reopened (stop : Stop) (messages : List ServiceMessage) :
    ∀ (world openWorld : World) (buffer : heap.Carrier) (received openReceived : List ServiceMessage),
      openWorld.accounts = world.accounts →
      let run := eventLoop heap receivers config world buffer stop received messages
      ∃ consumed, run.received = received ++ consumed ∧
        (heap.contents run.buffer = 0 →
          (eventLoop heap .allOpen config openWorld buffer stop openReceived consumed).world.accounts =
            run.world.accounts) := by
  induction messages with
  | nil =>
    intro world openWorld buffer received openReceived same
    generalize flushed : handleBuffer heap receivers world buffer = outcome
    obtain ⟨result, next, left⟩ := outcome
    rw [eventLoop_nil, flushed]
    refine ⟨[], (List.append_nil _).symm, ?_⟩
    intro empty
    obtain ⟨accounts, _⟩ := handleBuffer_settled flushed (.inr empty)
    rw [eventLoop_nil, handleBuffer_allOpen]
    change after Accounts.respond openWorld.accounts (heap.drain buffer).1 = next.accounts
    rw [accounts, same]
  | cons msg messages ih =>
    intro world openWorld buffer received openReceived same
    generalize iterated : iteration heap receivers config world buffer msg = outcome
    obtain ⟨result, next, left⟩ := outcome
    cases result with
    | ok =>
      obtain ⟨openNext, openLeft, openIterated, accounts, sameLeft, _⟩ :=
        iteration_reopened same iterated (.inl rfl)
      obtain ⟨consumed, received, reopened⟩ := ih next openNext left (received ++ [msg])
        (openReceived ++ [msg]) accounts
      rw [eventLoop_ok iterated]
      refine ⟨msg :: consumed, by rw [received, List.append_assoc]; rfl, ?_⟩
      intro empty
      rw [eventLoop_ok openIterated, sameLeft rfl]
      exact reopened empty
    | error error =>
      -- The failing iteration consumed `msg`, and the open run ends with it: its last flush
      -- finds an empty heap.
      rw [eventLoop_error iterated]
      refine ⟨[msg], rfl, ?_⟩
      intro empty
      obtain ⟨openNext, openLeft, openIterated, accounts, _, openEmpty⟩ :=
        iteration_reopened same iterated (.inr empty)
      rw [eventLoop_ok openIterated, eventLoop_nil, handleBuffer_empty (openEmpty empty)]
      exact accounts

/-! ## What is lost -/

/-- The run left nothing behind: the heap is empty, every message it received was applied to its
    account, and the accounts are those of a run in which no receiver is closed. -/
structure NothingDropped (stop : Stop) (run : Run heap) : Prop where
  bufferEmpty : heap.contents run.buffer = 0
  applied : (run.world.applied : Multiset InputMessage) = incomingMessages run.received
  appliedToAccounts : run.world.accounts = after Accounts.process ∅ run.world.applied
  sameAccounts : run.world.accounts =
    (serverForever heap .allOpen config stop run.received).world.accounts

/-- A run of the service drops nothing exactly when no transaction waits behind the first send that
    meets a closed receiver. -/
theorem nothingDropped_iff_endsClean (stop : Stop) (messages : List ServiceMessage) :
    NothingDropped heap config stop (serverForever heap receivers config stop messages) ↔
      endsClean receivers 0 (schedule heap config heap.new messages) = true := by
  have emptyIff : heap.contents (serverForever heap receivers config stop messages).buffer = 0 ↔
      endsClean receivers 0 (schedule heap config heap.new messages) = true :=
    eventLoop_empty_iff heap receivers config stop messages .new heap.new []
  constructor
  · intro nothing
    exact emptyIff.mp nothing.bufferEmpty
  · intro clean
    have empty := emptyIff.mpr clean
    obtain ⟨unsent, accounted, _⟩ := serverForever_accounted heap receivers config stop messages
    -- The messages that were received are those that the run with open receivers is given.
    obtain ⟨consumed, received, reopened⟩ :=
      eventLoop_reopened heap receivers config stop messages .new .new heap.new [] [] rfl
    have applied := accounted.messages
    rw [empty, Multiset.map_zero, add_zero] at applied
    refine ⟨empty, applied, accounted.accounts, ?_⟩
    rw [serverForever, ← reopened empty, serverForever, received, List.nil_append]

/-- The owner of one channel has closed its receiver. -/
def closedAt (closed : ChannelId) : Receivers where
  isOpen := fun _ callback => callback != closed
  staysClosed := fun _ _ isClosed => isClosed

def firstDeposit : InputMessage := ⟨1, .deposit, 1, 1, 10000⟩

def secondDeposit : InputMessage := ⟨2, .deposit, 2, 2, 20000⟩

/-- Two clients deposit in one batch, and the first has closed its receiver: the deposit of the
    second stays in the heap. -/
theorem second_deposit_dropped :
    ¬ NothingDropped (listHeap PendingTransaction.cmp) ⟨2⟩ .channelClosed
      (serverForever (listHeap PendingTransaction.cmp) (closedAt 0) ⟨2⟩ .channelClosed
        [.incoming firstDeposit 0, .incoming secondDeposit 1]) := by
  intro nothing
  have clean := (eventLoop_empty_iff _ _ _ _ _ _ _ _).mp nothing.bufferEmpty
  let heap := listHeap PendingTransaction.cmp
  let buffer : heap.Carrier := [⟨secondDeposit, 1⟩, ⟨firstDeposit, 0⟩]
  have contents : heap.contents buffer =
      ([⟨firstDeposit, 0⟩, ⟨secondDeposit, 1⟩] : List PendingTransaction) :=
    Multiset.coe_eq_coe.mpr (List.Perm.swap _ _ _)
  have drained := heap.drain_of_sorted contents (by decide)
  have scheduled : schedule heap ⟨2⟩ heap.new
      [.incoming firstDeposit 0, .incoming secondDeposit 1] =
      flushSends (heap.drain buffer).1 ++ schedule heap ⟨2⟩ (heap.drain buffer).2 [] := rfl
  rw [scheduled, drained] at clean
  cases clean

end Service

end PaymentsEngine
