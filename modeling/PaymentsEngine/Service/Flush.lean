import PaymentsEngine.Service.EventLoop

/-! # What a flush does

`handle_buffer` handles the transactions in the order in which the heap gives them
out, up to the first whose receiver is closed.  `handleAll` is that loop over the list
of the drained transactions; what a flush does to the accounts, the events and the
buffer is read off it.
-/

namespace PaymentsEngine

open PaymentsEngine.Library PaymentsEngine.Library.Machine

/-- Apply the message of a transaction: its event and the accounts it leaves. -/
def Accounts.respond (self : Accounts) (tx : PendingTransaction) : Event × Accounts :=
  let answered := self.process tx.message
  (.resolved tx.callback (tx.message.clientId, tx.message.transactionId, answered.1), answered.2)

theorem Accounts.after_respond (self : Accounts) (txs : List PendingTransaction) :
    after respond self txs = after process self (txs.map PendingTransaction.message) := by
  induction txs generalizing self with
  | nil => rfl
  | cons tx txs ih => exact ih _

/-- The world after transactions were applied and their events sent. -/
def World.handled (self : World) (txs : List PendingTransaction) : World where
  accounts := after Accounts.respond self.accounts txs
  sent := self.sent ++ outputs Accounts.respond self.accounts txs
  applied := self.applied ++ txs.map PendingTransaction.message

@[simp] theorem World.handled_nil (self : World) : self.handled [] = self := by
  simp [World.handled]

theorem World.handled_cons (self : World) (tx : PendingTransaction) (txs : List PendingTransaction) :
    self.handled (tx :: txs) = (self.handled [tx]).handled txs := by
  simp [World.handled]

theorem World.handled_sent_length (self : World) (txs : List PendingTransaction) :
    (self.handled txs).sent.length = self.sent.length + txs.length := by
  simp [World.handled]

/-- The world in which `tx` was applied after `done` but its receiver was closed. -/
def World.unsent (self : World) (done : List PendingTransaction) (tx : PendingTransaction) : World :=
  { self.handled (done ++ [tx]) with sent := (self.handled done).sent }

namespace Service

variable (heap : PendingHeap) (receivers : Receivers)

theorem handleTransaction_open {world : World} {tx : PendingTransaction}
    (isOpen : receivers.isOpen world.sent.length tx.callback = true) :
    handleTransaction receivers world tx = (.ok (), world.handled [tx]) := by
  simp [handleTransaction, send, apply, isOpen, World.handled, Accounts.respond]

theorem handleTransaction_closed {world : World} {tx : PendingTransaction}
    (closed : receivers.isOpen world.sent.length tx.callback = false) :
    handleTransaction receivers world tx =
      (.error "Failed to send transaction resolution callback due to closed receiver",
        world.unsent [] tx) := by
  simp [handleTransaction, send, apply, closed, World.unsent, World.handled, Accounts.respond]

/-- The loop of `handle_buffer` over transactions, and those it does not get to. -/
def handleAll (world : World) : List PendingTransaction → AnyResult × World × List PendingTransaction
  | [] => (.ok (), world, [])
  | tx :: rest =>
    match handleTransaction receivers world tx with
    | (.ok (), world) => handleAll world rest
    | (.error error, world) => (.error error, world, rest)

theorem handleAll_open {world : World} {tx : PendingTransaction}
    (isOpen : receivers.isOpen world.sent.length tx.callback = true) (rest : List PendingTransaction) :
    handleAll receivers world (tx :: rest) = handleAll receivers (world.handled [tx]) rest := by
  rw [handleAll, handleTransaction_open receivers isOpen]

theorem handleAll_closed {world : World} {tx : PendingTransaction}
    (closed : receivers.isOpen world.sent.length tx.callback = false)
    (rest : List PendingTransaction) :
    handleAll receivers world (tx :: rest) =
      (.error "Failed to send transaction resolution callback due to closed receiver",
        world.unsent [] tx, rest) := by
  rw [handleAll, handleTransaction_closed receivers closed]

/-- A flush of `buffer` ends as `handleAll` on what is drained from it. -/
structure Flushed (world : World) (buffer : heap.Carrier)
    (flushed : AnyResult × World × heap.Carrier) : Prop where
  result : flushed.1 = (handleAll receivers world (heap.drain buffer).1).1
  leaves : flushed.2.1 = (handleAll receivers world (heap.drain buffer).1).2.1
  left : heap.contents flushed.2.2 = (handleAll receivers world (heap.drain buffer).1).2.2
  -- Without an error the heap is the one that popping to the end leaves.
  emptied : flushed.1 = .ok () → flushed.2.2 = (heap.drain buffer).2

theorem popLoop_none {world : World} {buffer : heap.Carrier} (popped : heap.pop buffer = none) :
    popLoop heap receivers world buffer = (.ok (), world, buffer) := by
  rw [popLoop]
  split
  next => rfl
  next tx rest found => rw [popped] at found; cases found

theorem popLoop_some {world : World} {buffer rest : heap.Carrier} {tx : PendingTransaction}
    (popped : heap.pop buffer = some (tx, rest)) :
    popLoop heap receivers world buffer =
      match handleTransaction receivers world tx with
      | (.ok (), world) => popLoop heap receivers world rest
      | (.error error, world) => (.error error, world, rest) := by
  rw [popLoop]
  split
  next found => rw [popped] at found; cases found
  next other after found =>
    rw [popped] at found
    cases found
    rfl

theorem popLoop_flushed (world : World) (buffer : heap.Carrier) :
    Flushed heap receivers world buffer (popLoop heap receivers world buffer) := by
  -- The induction of `drain`: the loop pops what draining pops, until a send fails.
  induction buffer using BinaryHeap.drain.induct heap generalizing world with
  | case1 buffer popped =>
    rw [popLoop_none heap receivers popped]
    constructor <;> simp [heap.drain_none popped, handleAll, heap.contents_pop_none _ popped]
  | case2 buffer tx rest popped ih =>
    rw [popLoop_some heap receivers popped]
    cases isOpen : receivers.isOpen world.sent.length tx.callback with
    | true =>
      obtain ⟨result, leaves, left, emptied⟩ := ih (world.handled [tx])
      rw [handleTransaction_open receivers isOpen]
      constructor <;>
        simp only [heap.drain_some popped, handleAll_open receivers isOpen] <;> assumption
    | false =>
      rw [handleTransaction_closed receivers isOpen]
      constructor
      · simp only [heap.drain_some popped, handleAll_closed receivers isOpen]
      · simp only [heap.drain_some popped, handleAll_closed receivers isOpen]
      · simp only [heap.drain_some popped, handleAll_closed receivers isOpen, heap.drain_contents]
      · intro ok; cases ok

theorem handleBuffer_eq_popLoop (world : World) (buffer : heap.Carrier) :
    handleBuffer heap receivers world buffer = popLoop heap receivers world buffer := by
  rw [handleBuffer]
  split
  next empty =>
    -- The early return of an empty buffer is what the loop does with it.
    have none : heap.pop buffer = none := by
      apply heap.pop_of_empty
      rw [← Multiset.card_eq_zero, ← heap.len_eq]
      exact empty
    rw [popLoop_none heap receivers none]
  next => rfl

theorem handleBuffer_flushed (world : World) (buffer : heap.Carrier) :
    Flushed heap receivers world buffer (handleBuffer heap receivers world buffer) := by
  rw [handleBuffer_eq_popLoop]
  exact popLoop_flushed heap receivers world buffer

section Iteration

variable {heap receivers} {config : ServiceConfig} {world next : World} {buffer left : heap.Carrier}

theorem iteration_full {message : InputMessage} {callback : ChannelId}
    (full : config.batchSize ≤ heap.len (heap.push ⟨message, callback⟩ buffer)) :
    iteration heap receivers config world buffer (.incoming message callback) =
      handleBuffer heap receivers world (heap.push ⟨message, callback⟩ buffer) :=
  if_pos full

theorem iteration_below {message : InputMessage} {callback : ChannelId}
    (below : ¬ config.batchSize ≤ heap.len (heap.push ⟨message, callback⟩ buffer)) :
    iteration heap receivers config world buffer (.incoming message callback) =
      (.ok (), world, heap.push ⟨message, callback⟩ buffer) :=
  if_neg below

theorem iteration_failed {callback : ChannelId} {error : String}
    (flushed : handleBuffer heap receivers world buffer = (.error error, next, left)) :
    iteration heap receivers config world buffer (.transactionBatchCompletion callback) =
      (.error error, next, left) := by
  rw [iteration, flushed]

theorem iteration_confirmed {callback : ChannelId}
    (flushed : handleBuffer heap receivers world buffer = (.ok (), next, left))
    (isOpen : receivers.isOpen next.sent.length callback = true) :
    iteration heap receivers config world buffer (.transactionBatchCompletion callback) =
      (.ok (), { next with sent := next.sent ++ [.completed callback] }, left) := by
  rw [iteration, flushed]
  dsimp only
  rw [send, if_pos isOpen]

theorem iteration_unconfirmed {callback : ChannelId}
    (flushed : handleBuffer heap receivers world buffer = (.ok (), next, left))
    (closed : receivers.isOpen next.sent.length callback = false) :
    iteration heap receivers config world buffer (.transactionBatchCompletion callback) =
      (.error "Failed to send callback due to closed receiver", next, left) := by
  rw [iteration, flushed]
  dsimp only
  rw [send, closed]
  rfl

theorem eventLoop_nil (stop : Stop) (received : List ServiceMessage) :
    eventLoop heap receivers config world buffer stop received [] =
      { result := (handleBuffer heap receivers world buffer).1
        world := (handleBuffer heap receivers world buffer).2.1
        buffer := (handleBuffer heap receivers world buffer).2.2
        received := received } := by
  cases stop <;> rfl

theorem eventLoop_ok {stop : Stop} {msg : ServiceMessage} {received messages : List ServiceMessage}
    (iterated : iteration heap receivers config world buffer msg = (.ok (), next, left)) :
    eventLoop heap receivers config world buffer stop received (msg :: messages) =
      eventLoop heap receivers config next left stop (received ++ [msg]) messages := by
  rw [eventLoop, iterated]

theorem eventLoop_error {stop : Stop} {msg : ServiceMessage}
    {received messages : List ServiceMessage} {error : String}
    (iterated : iteration heap receivers config world buffer msg = (.error error, next, left)) :
    eventLoop heap receivers config world buffer stop received (msg :: messages) =
      { result := .error error, world := next, buffer := left, received := received ++ [msg] } := by
  rw [eventLoop, iterated]

end Iteration

/-- With every receiver open a flush handles everything. -/
theorem handleAll_allOpen (world : World) (txs : List PendingTransaction) :
    handleAll .allOpen world txs = (.ok (), world.handled txs, []) := by
  induction txs generalizing world with
  | nil => rw [handleAll, World.handled_nil]
  | cons tx txs ih => rw [handleAll_open .allOpen rfl, ih, ← World.handled_cons]

/-- `handleAll` handles everything, or it stops at the transaction whose receiver is closed. -/
theorem handleAll_cases (world : World) (txs : List PendingTransaction) :
    handleAll receivers world txs = (.ok (), world.handled txs, []) ∨
      ∃ error done tx rest, txs = done ++ tx :: rest ∧
        handleAll receivers world txs = (.error error, world.unsent done tx, rest) := by
  -- Induction on the transactions; the first closed receiver ends the loop.
  induction txs generalizing world with
  | nil => left; rw [handleAll, World.handled_nil]
  | cons first txs ih =>
    cases isOpen : receivers.isOpen world.sent.length first.callback with
    | true =>
      rw [handleAll_open receivers isOpen]
      obtain all | ⟨error, done, tx, rest, split, stopped⟩ := ih (world.handled [first])
      · left; rw [all, ← World.handled_cons]
      · right
        refine ⟨error, first :: done, tx, rest, by rw [split]; rfl, ?_⟩
        rw [stopped, World.unsent, World.unsent, List.cons_append,
          World.handled_cons world first (done ++ [tx]), World.handled_cons world first done]
    | false => exact .inr ⟨_, [], first, txs, rfl, handleAll_closed receivers isOpen txs⟩

section Flushes

variable {heap receivers} {world next : World} {buffer left : heap.Carrier}

theorem handleBuffer_ok
    (flushed : handleBuffer heap receivers world buffer = (.ok (), next, left)) :
    handleAll receivers world (heap.drain buffer).1 = (.ok (), world.handled (heap.drain buffer).1, []) ∧
      next = world.handled (heap.drain buffer).1 ∧ left = (heap.drain buffer).2 := by
  obtain ⟨result, leaves, _, emptied⟩ := flushed ▸ handleBuffer_flushed heap receivers world buffer
  obtain all | ⟨error, done, tx, rest, split, stopped⟩ :=
    handleAll_cases receivers world (heap.drain buffer).1
  · rw [all] at leaves
    exact ⟨all, leaves, emptied rfl⟩
  · rw [stopped] at result
    cases result

theorem handleBuffer_error {error : String}
    (flushed : handleBuffer heap receivers world buffer = (.error error, next, left)) :
    ∃ done tx rest, (heap.drain buffer).1 = done ++ tx :: rest ∧
      handleAll receivers world (heap.drain buffer).1 = (.error error, world.unsent done tx, rest) ∧
      next = world.unsent done tx ∧ heap.contents left = rest := by
  obtain ⟨result, leaves, remaining, _⟩ :=
    flushed ▸ handleBuffer_flushed heap receivers world buffer
  obtain all | ⟨stopError, done, tx, rest, split, stopped⟩ :=
    handleAll_cases receivers world (heap.drain buffer).1
  · rw [all] at result
    cases result
  · rw [stopped] at result leaves remaining
    cases result
    exact ⟨done, tx, rest, split, stopped, leaves, remaining⟩

/-- A flush of an empty heap does nothing. -/
theorem handleBuffer_empty (empty : heap.contents buffer = 0) :
    handleBuffer heap receivers world buffer = (.ok (), world, buffer) := by
  rw [handleBuffer, heap.len_eq, empty]
  rfl

theorem handleBuffer_allOpen (world : World) (buffer : heap.Carrier) :
    handleBuffer heap .allOpen world buffer =
      (.ok (), world.handled (heap.drain buffer).1, (heap.drain buffer).2) := by
  obtain ⟨result, leaves, left, emptied⟩ := handleBuffer_flushed heap .allOpen world buffer
  rw [handleAll_allOpen] at result leaves
  exact Prod.ext result (Prod.ext leaves (emptied result))

/-- What an iteration does with every receiver open. -/
inductive OpenIteration (heap : PendingHeap) (config : ServiceConfig) (world : World)
    (buffer : heap.Carrier) : ServiceMessage → World × heap.Carrier → Prop where
  | buffered {message : InputMessage} {callback : ChannelId}
      (below : ¬ config.batchSize ≤ heap.len (heap.push ⟨message, callback⟩ buffer)) :
      OpenIteration heap config world buffer (.incoming message callback)
        (world, heap.push ⟨message, callback⟩ buffer)
  | flushed {message : InputMessage} {callback : ChannelId}
      (full : config.batchSize ≤ heap.len (heap.push ⟨message, callback⟩ buffer)) :
      OpenIteration heap config world buffer (.incoming message callback)
        (world.handled (heap.drain (heap.push ⟨message, callback⟩ buffer)).1,
          (heap.drain (heap.push ⟨message, callback⟩ buffer)).2)
  | confirmed {callback : ChannelId} :
      OpenIteration heap config world buffer (.transactionBatchCompletion callback)
        ({ world.handled (heap.drain buffer).1 with
          sent := (world.handled (heap.drain buffer).1).sent ++ [.completed callback] },
          (heap.drain buffer).2)

theorem iteration_allOpen (config : ServiceConfig) (world : World) (buffer : heap.Carrier)
    (msg : ServiceMessage) :
    ∃ left, iteration heap .allOpen config world buffer msg = (.ok (), left) ∧
      OpenIteration heap config world buffer msg left := by
  cases msg with
  | incoming message callback =>
    by_cases full : config.batchSize ≤ heap.len (heap.push ⟨message, callback⟩ buffer)
    · exact ⟨_, (iteration_full full).trans (handleBuffer_allOpen _ _), .flushed full⟩
    · exact ⟨_, iteration_below full, .buffered full⟩
  | transactionBatchCompletion callback =>
    exact ⟨_, iteration_confirmed (handleBuffer_allOpen world buffer) rfl, .confirmed⟩

/-- A completion signal flushes, and then touches nothing but the events. -/
theorem iteration_flush {config : ServiceConfig} {callback : ChannelId} {result : AnyResult}
    (iterated : iteration heap receivers config world buffer (.transactionBatchCompletion callback) =
      (result, next, left)) :
    ∃ flushResult flushNext,
      handleBuffer heap receivers world buffer = (flushResult, flushNext, left) ∧
        (next = flushNext ∨
          next = { flushNext with sent := flushNext.sent ++ [.completed callback] }) ∧
        (result = .ok () → flushResult = .ok ()) := by
  generalize flushed : handleBuffer heap receivers world buffer = outcome
  obtain ⟨flushResult, flushNext, flushLeft⟩ := outcome
  cases flushResult with
  | error error =>
    rw [iteration_failed flushed] at iterated
    cases iterated
    exact ⟨_, _, rfl, .inl rfl, id⟩
  | ok =>
    cases isOpen : receivers.isOpen flushNext.sent.length callback with
    | true =>
      rw [iteration_confirmed flushed isOpen] at iterated
      cases iterated
      exact ⟨_, _, rfl, .inr rfl, fun _ => rfl⟩
    | false =>
      rw [iteration_unconfirmed flushed isOpen] at iterated
      cases iterated
      exact ⟨_, _, rfl, .inl rfl, fun _ => rfl⟩

end Flushes

end Service

end PaymentsEngine
