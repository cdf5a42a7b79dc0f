import PaymentsEngine.Service.Flush

/-! # Every received message is accounted for

However the event loop returns, each message that it received has been applied once or
is still in the heap, the accounts are those of the applied messages in their order,
and the outcomes that were sent are those of the applied messages, except perhaps the
last.
-/

namespace PaymentsEngine

open PaymentsEngine.Library PaymentsEngine.Library.Machine

/-- The outcome that an event carries. -/
def Event.resolution : Event → Option Resolution
  | .resolved _ resolution => some resolution
  | .completed _ => none

/-- Apply a message: the outcome that is reported for it, and the accounts it leaves. -/
def Accounts.resolve (self : Accounts) (msg : InputMessage) : Resolution × Accounts :=
  let answered := self.process msg
  ((msg.clientId, msg.transactionId, answered.1), answered.2)

theorem Accounts.after_resolve (self : Accounts) (messages : List InputMessage) :
    after resolve self messages = after process self messages := by
  induction messages generalizing self with
  | nil => rfl
  | cons msg messages ih => exact ih _

theorem Accounts.outputs_respond (self : Accounts) (txs : List PendingTransaction) :
    (outputs respond self txs).filterMap Event.resolution =
      outputs resolve self (txs.map PendingTransaction.message) := by
  induction txs generalizing self with
  | nil => rfl
  | cons tx txs ih =>
    rw [outputs_cons, List.map_cons, outputs_cons, ← ih]
    rfl

namespace Service

variable (heap : PendingHeap) (receivers : Receivers) (config : ServiceConfig)

/-- Where the received messages and their outcomes are; `unsent` is the outcome that a closed
    receiver did not take. -/
structure Accounted (world : World) (buffer : heap.Carrier) (received : List ServiceMessage)
    (unsent : List Resolution) : Prop where
  messages : (world.applied : Multiset InputMessage) +
    (heap.contents buffer).map PendingTransaction.message = incomingMessages received
  accounts : world.accounts = after Accounts.process ∅ world.applied
  outcomes : world.sent.filterMap Event.resolution ++ unsent =
    outputs Accounts.resolve ∅ world.applied

theorem accounted_new : Accounted heap .new heap.new [] [] where
  messages := by rw [heap.contents_new]; rfl
  accounts := rfl
  outcomes := rfl

variable {heap receivers config} {world next : World} {buffer left : heap.Carrier}
variable {received : List ServiceMessage} {unsent : List Resolution} {result : AnyResult}

/-- The messages of `done` move from the heap to the applied ones. -/
theorem Accounted.messages_handled (accounted : Accounted heap world buffer received unsent)
    {done rest : List PendingTransaction} (split : (heap.drain buffer).1 = done ++ rest)
    (remaining : heap.contents left = rest) :
    ((world.handled done).applied : Multiset InputMessage) +
      (heap.contents left).map PendingTransaction.message = incomingMessages received := by
  have drained := (heap.drain_contents buffer).1
  have messages := accounted.messages
  rw [← drained, split, Multiset.map_coe, List.map_append, ← Multiset.coe_add] at messages
  rw [remaining, Multiset.map_coe, ← messages, World.handled]
  dsimp only
  rw [← Multiset.coe_add, add_assoc]

theorem Accounted.accounts_handled (accounted : Accounted heap world buffer received unsent)
    (done : List PendingTransaction) :
    (world.handled done).accounts = after Accounts.process ∅ (world.handled done).applied := by
  rw [World.handled]
  dsimp only
  rw [Accounts.after_respond, accounted.accounts, after_append]

theorem Accounted.outcomes_handled (accounted : Accounted heap world buffer received [])
    (done : List PendingTransaction) :
    (world.handled done).sent.filterMap Event.resolution =
      outputs Accounts.resolve ∅ (world.handled done).applied := by
  have outcomes := accounted.outcomes
  rw [List.append_nil] at outcomes
  rw [World.handled]
  dsimp only
  rw [List.filterMap_append, outcomes, Accounts.outputs_respond, accounted.accounts,
    ← Accounts.after_resolve, outputs_append]

theorem Accounted.flushed (accounted : Accounted heap world buffer received [])
    (flushed : handleBuffer heap receivers world buffer = (result, next, left)) :
    ∃ unsent, Accounted heap next left received unsent ∧ (result = .ok () → unsent = []) := by
  cases result with
  | ok =>
    obtain ⟨_, rfl, rfl⟩ := handleBuffer_ok flushed
    have outcomes := accounted.outcomes_handled (heap.drain buffer).1
    refine ⟨[], ⟨?_, accounted.accounts_handled _, by rw [List.append_nil, outcomes]⟩, fun _ => rfl⟩
    exact accounted.messages_handled (List.append_nil _).symm (heap.drain_contents buffer).2
  -- The transaction at which the flush stopped is applied, and its outcome was not sent.
  | error error =>
    obtain ⟨done, tx, rest, split, _, rfl, remaining⟩ := handleBuffer_error flushed
    rw [List.append_cons] at split
    have sent := accounted.outcomes_handled done
    have accounts := accounted.accounts_handled done
    have applied : (world.unsent done tx).applied = (world.handled done).applied ++ [tx.message] := by
      simp [World.unsent, World.handled]
    refine ⟨outputs Accounts.resolve (world.handled done).accounts [tx.message],
      ⟨accounted.messages_handled split remaining, accounted.accounts_handled _, ?_⟩,
      fun ok => by cases ok⟩
    change (world.handled done).sent.filterMap Event.resolution ++ _ = _
    rw [applied, sent, outputs_append, Accounts.after_resolve, accounts]

theorem Accounted.pushed (accounted : Accounted heap world buffer received [])
    (message : InputMessage) (callback : ChannelId) :
    Accounted heap world (heap.push ⟨message, callback⟩ buffer)
      (received ++ [.incoming message callback]) [] where
  messages := by
    rw [heap.contents_push, Multiset.map_cons, Multiset.add_cons, accounted.messages,
      incomingMessages_append, Multiset.cons_coe, Multiset.coe_eq_coe]
    exact (List.perm_append_singleton message _).symm
  accounts := accounted.accounts
  outcomes := accounted.outcomes

/-- A completion signal carries no message. -/
theorem Accounted.signalled (accounted : Accounted heap world buffer received unsent)
    (callback : ChannelId) :
    Accounted heap world buffer (received ++ [.transactionBatchCompletion callback]) unsent where
  messages := by
    rw [incomingMessages_append]
    exact accounted.messages.trans (congrArg _ (List.append_nil _).symm)
  accounts := accounted.accounts
  outcomes := accounted.outcomes

theorem Accounted.iteration {msg : ServiceMessage}
    (accounted : Accounted heap world buffer received [])
    (iterated : iteration heap receivers config world buffer msg = (result, next, left)) :
    ∃ unsent, Accounted heap next left (received ++ [msg]) unsent ∧
      (result = .ok () → unsent = []) := by
  cases msg with
  | incoming message callback =>
    have pushed := accounted.pushed message callback
    by_cases full : config.batchSize ≤ heap.len (heap.push ⟨message, callback⟩ buffer)
    · rw [iteration_full full] at iterated
      exact pushed.flushed iterated
    · rw [iteration_below full] at iterated
      cases iterated
      exact ⟨[], pushed, fun _ => rfl⟩
  | transactionBatchCompletion callback =>
    obtain ⟨flushResult, flushNext, flushed, sameButSent, flushOk⟩ := iteration_flush iterated
    obtain ⟨unsent, rest, sentAll⟩ := (accounted.signalled callback).flushed flushed
    refine ⟨unsent, ?_, fun ok => sentAll (flushOk ok)⟩
    obtain rfl | rfl := sameButSent
    · exact rest
    · refine ⟨rest.messages, rest.accounts, ?_⟩
      rw [List.filterMap_append]
      exact (congrArg (· ++ unsent) (List.append_nil _)).trans rest.outcomes

/-- However the loop returns, every message it received is accounted for. -/
theorem eventLoop_accounted (stop : Stop) (messages : List ServiceMessage) :
    ∀ (world : World) (buffer : heap.Carrier) (received : List ServiceMessage),
      Accounted heap world buffer received [] →
      let run := eventLoop heap receivers config world buffer stop received messages
      ∃ unsent, Accounted heap run.world run.buffer run.received unsent ∧
        (run.result = .ok () → unsent = []) := by
  induction messages with
  | nil =>
    intro world buffer received accounted
    rw [eventLoop_nil]
    exact accounted.flushed rfl
  | cons msg messages ih =>
    intro world buffer received accounted
    generalize iterated : iteration heap receivers config world buffer msg = outcome
    obtain ⟨result, next, left⟩ := outcome
    obtain ⟨unsent, stepped, sentAll⟩ := accounted.iteration iterated
    cases result with
    | ok =>
      rw [sentAll rfl] at stepped
      rw [eventLoop_ok iterated]
      exact ih next left _ stepped
    | error error =>
      rw [eventLoop_error iterated]
      exact ⟨unsent, stepped, sentAll⟩

theorem serverForever_accounted (heap : PendingHeap) (receivers : Receivers) (config : ServiceConfig)
    (stop : Stop) (messages : List ServiceMessage) :
    let run := serverForever heap receivers config stop messages
    ∃ unsent, Accounted heap run.world run.buffer run.received unsent ∧
      (run.result = .ok () → unsent = []) :=
  eventLoop_accounted stop messages .new heap.new [] (accounted_new heap)

end Service

end PaymentsEngine
