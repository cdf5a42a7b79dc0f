import PaymentsEngine.Service.Flush

/-! # Exactly once

With every receiver open the loop applies each transaction that it receives once and
answers it once on its own channel, whatever the order of arrival and also when the
heap cannot tell some of the transactions apart.  A completion signal is acknowledged
after the answers to all that was received before it.
-/

namespace PaymentsEngine

open PaymentsEngine.Library PaymentsEngine.Library.Machine

/-! ## Events -/

def Event.isResolved : Event → Bool
  | .resolved _ _ => true
  | .completed _ => false

/-- The channel of an acknowledgement. -/
def Event.acknowledgement : Event → Option ChannelId
  | .resolved _ _ => none
  | .completed callback => some callback

/-- The channel that an event came on and the transaction that it names. -/
def Event.address : Event → Option (ChannelId × ClientId × TransactionId)
  | .resolved callback resolution => some (callback, resolution.1, resolution.2.1)
  | .completed _ => none

def PendingTransaction.address (self : PendingTransaction) : ChannelId × ClientId × TransactionId :=
  (self.callback, self.message.clientId, self.message.transactionId)

/-- The channel on which a message asks for an acknowledgement. -/
def ServiceMessage.signal : ServiceMessage → Option ChannelId
  | .incoming _ _ => none
  | .transactionBatchCompletion callback => some callback

section Responses

variable (self : Accounts) (txs : List PendingTransaction)

theorem Accounts.responses_resolved :
    (outputs respond self txs).filter Event.isResolved = outputs respond self txs := by
  induction txs generalizing self with
  | nil => rfl
  | cons tx txs ih => rw [outputs_cons, List.filter_cons, ih]; rfl

theorem Accounts.responses_acknowledgement :
    (outputs respond self txs).filterMap Event.acknowledgement = [] := by
  induction txs generalizing self with
  | nil => rfl
  | cons tx txs ih => rw [outputs_cons, List.filterMap_cons_none rfl, ih]

theorem Accounts.responses_address :
    (outputs respond self txs).filterMap Event.address = txs.map PendingTransaction.address := by
  induction txs generalizing self with
  | nil => rfl
  | cons tx txs ih =>
    rw [outputs_cons, List.filterMap_cons, ih]
    rfl

end Responses

/-! ## What was served -/

/-- The transactions of `order` were applied and answered, one after the other, and no other. -/
structure Served (world : World) (order : List PendingTransaction) : Prop where
  applied : world.applied = order.map PendingTransaction.message
  accounts : world.accounts = after Accounts.respond ∅ order
  answers : world.sent.filter Event.isResolved = outputs Accounts.respond ∅ order

theorem served_new : Served .new [] := ⟨rfl, rfl, rfl⟩

theorem Served.handled {world : World} {order : List PendingTransaction} (served : Served world order)
    (txs : List PendingTransaction) : Served (world.handled txs) (order ++ txs) where
  applied := by rw [World.handled, served.applied, List.map_append]
  accounts := by rw [World.handled, served.accounts, after_append]
  answers := by
    rw [World.handled, List.filter_append, served.answers, Accounts.responses_resolved,
      served.accounts, outputs_append]

theorem Served.acknowledged {world : World} {order : List PendingTransaction}
    (served : Served world order) (callback : ChannelId) :
    Served { world with sent := world.sent ++ [.completed callback] } order where
  applied := served.applied
  accounts := served.accounts
  answers := by rw [List.filter_append, served.answers]; exact List.append_nil _

/-! ## What was acknowledged -/

/-- Each acknowledgement among `sent` answers a signal of `received`, and comes after the answers to
    all that was received before the signal. -/
def AcknowledgedAfter (sent : List Event) (received : List ServiceMessage) : Prop :=
  ∀ earlier callback later, sent = earlier ++ .completed callback :: later →
    ∃ before rest, received = before ++ .transactionBatchCompletion callback :: rest ∧
      earlier.filterMap Event.acknowledgement = before.filterMap ServiceMessage.signal ∧
      ∃ order, order.Perm (pendingOf before) ∧
        earlier.filter Event.isResolved = outputs Accounts.respond ∅ order

/-- Where an event of a lengthened list stands. -/
theorem split_of_append {sent new earlier later : List Event} {event : Event}
    (split : sent ++ new = earlier ++ event :: later) :
    (∃ rest, sent = earlier ++ event :: rest) ∨
      ∃ between, earlier = sent ++ between ∧ new = between ++ event :: later := by
  obtain ⟨between, front, rest⟩ | ⟨between, front, rest⟩ := List.append_eq_append_iff.mp split
  · exact .inr ⟨between, front, rest⟩
  · cases between with
    | nil => exact .inr ⟨[], by simpa using front.symm, rest.symm⟩
    | cons first between =>
      obtain ⟨rfl, _⟩ := List.cons.inj rest
      exact .inl ⟨between, front⟩

variable {sent : List Event} {received : List ServiceMessage}

theorem AcknowledgedAfter.receive (acknowledged : AcknowledgedAfter sent received)
    (msg : ServiceMessage) : AcknowledgedAfter sent (received ++ [msg]) := by
  intro earlier callback later split
  obtain ⟨before, rest, rfl, signals, answered⟩ := acknowledged earlier callback later split
  exact ⟨before, rest ++ [msg], by rw [List.append_assoc]; rfl, signals, answered⟩

theorem AcknowledgedAfter.responded (acknowledged : AcknowledgedAfter sent received)
    (self : Accounts) (txs : List PendingTransaction) :
    AcknowledgedAfter (sent ++ outputs Accounts.respond self txs) received := by
  intro earlier callback later split
  obtain ⟨rest, split⟩ | ⟨between, _, split⟩ := split_of_append split
  · exact acknowledged earlier callback rest split
  · -- None of the new events is an acknowledgement.
    have none := Accounts.responses_acknowledgement self txs
    rw [split, List.filterMap_append, List.append_eq_nil_iff] at none
    cases none.2

theorem AcknowledgedAfter.acknowledged (acknowledged : AcknowledgedAfter sent received)
    {order : List PendingTransaction} (perm : order.Perm (pendingOf received))
    (answers : sent.filter Event.isResolved = outputs Accounts.respond ∅ order)
    (signals : sent.filterMap Event.acknowledgement = received.filterMap ServiceMessage.signal)
    (callback : ChannelId) :
    AcknowledgedAfter (sent ++ [.completed callback])
      (received ++ [.transactionBatchCompletion callback]) := by
  intro earlier other later split
  obtain ⟨rest, split⟩ | ⟨between, rfl, split⟩ := split_of_append split
  · exact acknowledged.receive _ earlier other rest split
  · obtain ⟨rfl, same, _⟩ : between = [] ∧ Event.completed callback = .completed other ∧ later = [] := by
      cases between with
      | nil => simpa using split
      | cons first between => simp at split
    cases same
    rw [List.append_nil]
    exact ⟨received, [], rfl, signals, order, perm, answers⟩

namespace Service

/-! ## One iteration -/

/-- What was received is served or in the heap, and every signal is acknowledged. -/
structure Tracked (heap : PendingHeap) (world : World) (buffer : heap.Carrier)
    (received : List ServiceMessage) : Prop where
  served : ∃ order, Served world order ∧
    (order : Multiset PendingTransaction) + heap.contents buffer = pendingOf received
  acknowledged : AcknowledgedAfter world.sent received
  signals : world.sent.filterMap Event.acknowledgement = received.filterMap ServiceMessage.signal

variable {heap : PendingHeap} {config : ServiceConfig} {world : World} {buffer : heap.Carrier}
variable {received : List ServiceMessage}

theorem tracked_new (heap : PendingHeap) : Tracked heap .new heap.new [] where
  served := ⟨[], served_new, by rw [heap.contents_new]; rfl⟩
  acknowledged := by
    intro earlier callback later split
    exact absurd split (by simp [World.new])
  signals := rfl

/-- A flush serves what is in the heap. -/
theorem Tracked.flushed (tracked : Tracked heap world buffer received) :
    Tracked heap (world.handled (heap.drain buffer).1) (heap.drain buffer).2 received where
  served := by
    obtain ⟨order, served, all⟩ := tracked.served
    refine ⟨_, served.handled _, ?_⟩
    rw [(heap.drain_contents buffer).2, add_zero, ← Multiset.coe_add, (heap.drain_contents buffer).1,
      all]
  acknowledged := tracked.acknowledged.responded world.accounts (heap.drain buffer).1
  signals := by
    rw [World.handled, List.filterMap_append, Accounts.responses_acknowledgement, List.append_nil,
      tracked.signals]

theorem Tracked.pushed (tracked : Tracked heap world buffer received) (message : InputMessage)
    (callback : ChannelId) :
    Tracked heap world (heap.push ⟨message, callback⟩ buffer)
      (received ++ [.incoming message callback]) where
  served := by
    obtain ⟨order, served, all⟩ := tracked.served
    refine ⟨order, served, ?_⟩
    rw [heap.contents_push, Multiset.add_cons, all, pendingOf_append, Multiset.cons_coe,
      Multiset.coe_eq_coe]
    exact (List.perm_append_singleton _ _).symm
  acknowledged := tracked.acknowledged.receive _
  signals := by
    rw [List.filterMap_append, tracked.signals]
    exact (List.append_nil _).symm

/-- A signal that finds the heap empty is acknowledged. -/
theorem Tracked.acknowledge (tracked : Tracked heap world buffer received)
    (empty : heap.contents buffer = 0) (callback : ChannelId) :
    Tracked heap { world with sent := world.sent ++ [.completed callback] } buffer
      (received ++ [.transactionBatchCompletion callback]) where
  served := by
    obtain ⟨order, served, all⟩ := tracked.served
    refine ⟨order, served.acknowledged callback, ?_⟩
    rw [all, pendingOf_append]
    exact congrArg _ (List.append_nil _).symm
  acknowledged := by
    obtain ⟨order, served, all⟩ := tracked.served
    rw [empty, add_zero, Multiset.coe_eq_coe] at all
    exact tracked.acknowledged.acknowledged all served.answers tracked.signals callback
  signals := by
    rw [List.filterMap_append, List.filterMap_append, tracked.signals]
    rfl

theorem iteration_tracked (config : ServiceConfig) (tracked : Tracked heap world buffer received)
    (msg : ServiceMessage) :
    ∃ next left, iteration heap .allOpen config world buffer msg = (.ok (), next, left) ∧
      Tracked heap next left (received ++ [msg]) := by
  obtain ⟨⟨next, left⟩, iterated, opened⟩ := iteration_allOpen config world buffer msg
  refine ⟨next, left, iterated, ?_⟩
  cases opened with
  | buffered below => exact tracked.pushed _ _
  | flushed full => exact (tracked.pushed _ _).flushed
  | confirmed => exact tracked.flushed.acknowledge (heap.drain_contents buffer).2 _

theorem len_drained (heap : PendingHeap) (buffer : heap.Carrier) :
    heap.len (heap.drain buffer).2 = 0 := by
  rw [heap.len_eq, (heap.drain_contents buffer).2, Multiset.card_zero]

/-- An iteration leaves less than a batch in the heap, and nothing after a signal. -/
theorem iteration_bounded (config : ServiceConfig) (world : World) (buffer : heap.Carrier)
    (msg : ServiceMessage) :
    heap.len (iteration heap .allOpen config world buffer msg).2.2 < max 1 config.batchSize ∧
      (msg.signal ≠ none → heap.len (iteration heap .allOpen config world buffer msg).2.2 = 0) := by
  obtain ⟨left, iterated, opened⟩ := iteration_allOpen config world buffer msg
  rw [iterated]
  cases opened with
  | buffered below =>
    refine ⟨?_, fun signal => absurd rfl signal⟩
    dsimp only
    omega
  | flushed full =>
    refine ⟨?_, fun signal => absurd rfl signal⟩
    dsimp only
    rw [len_drained]
    omega
  | confirmed =>
    dsimp only
    rw [len_drained]
    exact ⟨by omega, fun _ => rfl⟩

/-! ## A whole run -/

/-- The world and the heap after a stream. -/
def loop (heap : PendingHeap) (config : ServiceConfig) (stream : List ServiceMessage) :
    World × heap.Carrier :=
  after (fun state msg => iteration heap .allOpen config state.1 state.2 msg) (.new, heap.new) stream

theorem loop_snoc (heap : PendingHeap) (config : ServiceConfig) (stream : List ServiceMessage)
    (msg : ServiceMessage) :
    loop heap config (stream ++ [msg]) =
      (iteration heap .allOpen config (loop heap config stream).1 (loop heap config stream).2 msg).2 := by
  rw [loop, after_append]
  rfl

theorem loop_tracked (heap : PendingHeap) (config : ServiceConfig) (stream : List ServiceMessage) :
    Tracked heap (loop heap config stream).1 (loop heap config stream).2 stream := by
  induction stream using List.reverseRecOn with
  | nil => exact tracked_new heap
  | append_singleton stream msg ih =>
    obtain ⟨next, left, iterated, tracked⟩ := iteration_tracked config ih msg
    rw [loop_snoc, iterated]
    exact tracked

/-- The event loop goes on after a prefix of its stream where the prefix has led it. -/
theorem serverForever_loop (heap : PendingHeap) (config : ServiceConfig) (stop : Stop)
    (earlier later : List ServiceMessage) :
    serverForever heap .allOpen config stop (earlier ++ later) =
      eventLoop heap .allOpen config (loop heap config earlier).1 (loop heap config earlier).2 stop
        earlier later := by
  induction earlier using List.reverseRecOn generalizing later with
  | nil => rfl
  | append_singleton earlier msg ih =>
    obtain ⟨next, left, iterated, _⟩ :=
      iteration_tracked config (loop_tracked heap config earlier) msg
    rw [List.append_assoc, ih, List.singleton_append, eventLoop_ok iterated, loop_snoc, iterated]

/-- What a run of the service with open receivers does with its stream. -/
structure ExactlyOnce (heap : PendingHeap) (config : ServiceConfig) (stream : List ServiceMessage)
    (run : Run heap) : Prop where
  result : run.result = .ok ()
  received : run.received = stream
  emptied : heap.contents run.buffer = 0
  -- The transactions of the stream, in some order, are what was applied and answered.
  served : ∃ order, order.Perm (pendingOf stream) ∧ Served run.world order
  answers : (run.world.sent.filterMap Event.address).Perm
    ((pendingOf stream).map PendingTransaction.address)
  -- After every iteration less than a batch is buffered, and nothing after a signal.
  bounded : ∀ earlier msg later, stream = earlier ++ msg :: later →
    heap.len (loop heap config (earlier ++ [msg])).2 < max 1 config.batchSize ∧
      (msg.signal ≠ none → heap.len (loop heap config (earlier ++ [msg])).2 = 0)
  acknowledged : AcknowledgedAfter run.world.sent stream
  signals : run.world.sent.filterMap Event.acknowledgement = stream.filterMap ServiceMessage.signal

theorem served_address {world : World} {order : List PendingTransaction}
    (served : Served world order) :
    world.sent.filterMap Event.address = order.map PendingTransaction.address := by
  rw [← Accounts.responses_address ∅ order, ← served.answers, List.filterMap_filter]
  congr 1
  funext event
  cases event <;> rfl

/-- Whatever arrives in whatever order, each message is applied and answered once. -/
theorem exactly_once (heap : PendingHeap) (config : ServiceConfig) (stop : Stop)
    (stream : List ServiceMessage) :
    ExactlyOnce heap config stream (serverForever heap .allOpen config stop stream) := by
  have tracked := (loop_tracked heap config stream).flushed
  have ran := serverForever_loop heap config stop stream []
  rw [List.append_nil, eventLoop_nil, handleBuffer_allOpen] at ran
  rw [ran]
  obtain ⟨order, served, all⟩ := tracked.served
  rw [(heap.drain_contents _).2, add_zero, Multiset.coe_eq_coe] at all
  refine ⟨rfl, rfl, (heap.drain_contents _).2, ⟨order, all, served⟩, ?_, ?_, tracked.acknowledged,
    tracked.signals⟩
  · rw [served_address served]
    exact all.map PendingTransaction.address
  · rintro earlier msg later rfl
    rw [loop_snoc]
    exact iteration_bounded config _ _ msg

end Service

end PaymentsEngine
