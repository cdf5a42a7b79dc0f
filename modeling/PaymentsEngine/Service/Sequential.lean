import PaymentsEngine.Service.Accounting

/-! # Batches make no difference

When the messages arrive in the order of their sequence numbers and nobody closes a
receiver, the service does what taking the messages one by one would do, whatever the
batch size and wherever the completion signals stand.
-/

namespace PaymentsEngine

open PaymentsEngine.Library PaymentsEngine.Library.Machine

namespace Service

/-- The heap holds `pending`, and the stream goes on after it with ascending numbers. -/
structure Ascending (heap : PendingHeap) (buffer : heap.Carrier)
    (pending rest : List PendingTransaction) : Prop where
  contents : heap.contents buffer = pending
  numbered : (pending ++ rest).Pairwise fun earlier later =>
    earlier.message.chronoOrder < later.message.chronoOrder

variable {heap : PendingHeap} {buffer : heap.Carrier} {pending rest : List PendingTransaction}

/-- Ascending messages are drained in their order. -/
theorem Ascending.drained (ascending : Ascending heap buffer pending rest) :
    (heap.drain buffer).1 = pending := by
  apply heap.drain_of_sorted ascending.contents
  apply (List.pairwise_append.mp ascending.numbered).1.imp
  intro earlier later lower
  exact InputMessage.cmp_of_lt lower

theorem Ascending.flushed (ascending : Ascending heap buffer pending rest) :
    Ascending heap (heap.drain buffer).2 [] rest where
  contents := (heap.drain_contents buffer).2
  numbered := (List.pairwise_append.mp ascending.numbered).2.1

theorem Ascending.pushed {tx : PendingTransaction}
    (ascending : Ascending heap buffer pending (tx :: rest)) :
    Ascending heap (heap.push tx buffer) (pending ++ [tx]) rest where
  contents := by
    rw [heap.contents_push, ascending.contents, Multiset.cons_coe, Multiset.coe_eq_coe]
    exact (List.perm_append_singleton tx pending).symm
  numbered := by
    rw [List.append_assoc]
    exact ascending.numbered

theorem handleBuffer_ascending (ascending : Ascending heap buffer pending rest) (world : World) :
    handleBuffer heap .allOpen world buffer =
      (.ok (), world.handled pending, (heap.drain buffer).2) := by
  rw [handleBuffer_allOpen, ascending.drained]

theorem World.handled_accounts (world : World) (txs rest : List PendingTransaction) :
    after Accounts.process (world.handled txs).accounts (rest.map PendingTransaction.message) =
      after Accounts.process world.accounts ((txs ++ rest).map PendingTransaction.message) := by
  rw [List.map_append, after_append, ← Accounts.after_respond world.accounts]
  rfl

/-- The loop applies what is buffered and then what still arrives, in this order. -/
theorem eventLoop_applied (config : ServiceConfig) (stop : Stop) (messages : List ServiceMessage) :
    ∀ (world : World) (buffer : heap.Carrier) (pending : List PendingTransaction)
      (received : List ServiceMessage), Ascending heap buffer pending (pendingOf messages) →
      let run := eventLoop heap .allOpen config world buffer stop received messages
      let applied := (pending ++ pendingOf messages).map PendingTransaction.message
      run.result = .ok () ∧ run.world.applied = world.applied ++ applied ∧
        run.world.accounts = after Accounts.process world.accounts applied := by
  induction messages with
  | nil =>
    intro world buffer pending received ascending
    rw [eventLoop_nil, handleBuffer_ascending ascending, pendingOf, List.append_nil]
    exact ⟨rfl, rfl, Accounts.after_respond _ _⟩
  | cons msg messages ih =>
    intro world buffer pending received ascending
    cases msg with
    | incoming message callback =>
      have pushed := ascending.pushed
      rw [pendingOf, List.append_cons]
      -- A full heap is flushed and the rest begins with nothing pending.
      by_cases full : config.batchSize ≤ heap.len (heap.push ⟨message, callback⟩ buffer)
      · rw [eventLoop_ok ((iteration_full full).trans (handleBuffer_ascending pushed world))]
        obtain ⟨ok, applied, accounts⟩ := ih (world.handled (pending ++ [⟨message, callback⟩])) _ []
          (received ++ [.incoming message callback]) pushed.flushed
        refine ⟨ok, applied.trans ?_, accounts.trans (World.handled_accounts world _ _)⟩
        rw [World.handled, List.append_assoc, ← List.map_append, List.nil_append]
      · rw [eventLoop_ok (iteration_below full)]
        exact ih world _ _ _ pushed
    | transactionBatchCompletion callback =>
      rw [pendingOf,
        eventLoop_ok (iteration_confirmed (handleBuffer_ascending ascending world) rfl)]
      obtain ⟨ok, applied, accounts⟩ := ih _ _ [] (received ++ [.transactionBatchCompletion callback])
        ascending.flushed
      refine ⟨ok, applied.trans ?_, accounts.trans (World.handled_accounts world _ _)⟩
      rw [World.handled]
      dsimp only
      rw [List.append_assoc, ← List.map_append, List.nil_append]

/-- The run did what taking the messages one by one does, creating the account of a client when it
    is first mentioned. -/
structure SequentialRun (heap : PendingHeap) (messages : List ServiceMessage) (run : Run heap) :
    Prop where
  result : run.result = .ok ()
  accounts : run.world.accounts = after Accounts.process ∅ (incomingMessages messages)
  outcomes : run.world.sent.filterMap Event.resolution =
    outputs Accounts.resolve ∅ (incomingMessages messages)

theorem sequentialRun (heap : PendingHeap) (config : ServiceConfig) (stop : Stop)
    {messages : List ServiceMessage}
    (numbered : (incomingMessages messages).Pairwise fun earlier later =>
      earlier.chronoOrder < later.chronoOrder) :
    SequentialRun heap messages (serverForever heap .allOpen config stop messages) := by
  rw [incomingMessages, List.pairwise_map] at numbered
  have ascending : Ascending heap heap.new [] (pendingOf messages) := ⟨heap.contents_new, numbered⟩
  obtain ⟨ok, applied, accounts⟩ := eventLoop_applied config stop messages .new heap.new [] [] ascending
  obtain ⟨unsent, accounted, sentAll⟩ :=
    serverForever_accounted heap .allOpen config stop messages
  have outcomes := accounted.outcomes
  rw [sentAll ok, List.append_nil] at outcomes
  exact ⟨ok, accounts, outcomes.trans (congrArg _ applied)⟩

/-- Batched processing of a numbered stream is plain sequential processing, for every batch size,
    every placement of the completion signals and both ways to stop. -/
theorem batched_eq_sequential (heap : PendingHeap) (config : ServiceConfig) (stop : Stop)
    (messages : List ServiceMessage)
    (numbered : (incomingMessages messages).Pairwise fun earlier later =>
      earlier.chronoOrder < later.chronoOrder) :
    SequentialRun heap messages (serverForever heap .allOpen config stop messages) :=
  sequentialRun heap config stop numbered

/-- A deposit, a completion signal and a withdrawal, in batches of three. -/
theorem batched_eq_sequential_witness :
    SequentialRun (listHeap PendingTransaction.cmp)
      [.incoming ⟨1, .deposit, 1, 1, 10000⟩ 0, .transactionBatchCompletion 0,
        .incoming ⟨2, .withdrawal, 1, 2, 5000⟩ 0]
      (serverForever (listHeap PendingTransaction.cmp) .allOpen ⟨3⟩ .cancelled
        [.incoming ⟨1, .deposit, 1, 1, 10000⟩ 0, .transactionBatchCompletion 0,
          .incoming ⟨2, .withdrawal, 1, 2, 5000⟩ 0]) :=
  batched_eq_sequential (listHeap PendingTransaction.cmp) ⟨3⟩ .cancelled _ (by decide)

end Service

end PaymentsEngine
