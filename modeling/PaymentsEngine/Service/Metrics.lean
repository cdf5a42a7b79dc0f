import PaymentsEngine.Service.Accounting

/-! # The metrics of the service

The service records what it does with the instruments of `METRICS`.  Recording changes
nothing of what it does.  However the loop returns, the sizes of the batches add up to
the transactions received, and the outcomes counted are those of the messages applied;
without an error the counters of the batches are the numbers of the outcomes sent.
-/

namespace PaymentsEngine

open PaymentsEngine.Library PaymentsEngine.Library.Machine

/-- A call of an instrument; those for durations are left out. -/
inductive Measurement where
  | serviceTicks
  | serviceBatchesProcessed
  | serviceBatchSize (size : Nat)
  | serviceTransactionsProcessed (type outcome : String) (error : Option String)
  | serviceBatchTransactionsOk (count : Nat)
  | serviceBatchTransactionsFailed (count : Nat)
  | serviceAccountsTotal (count : Nat)
  deriving DecidableEq, Repr

namespace Measurement

/-- The counter of the outcomes, with its labels. -/
def ofOutcome (msg : InputMessage) : TransactionResult → Measurement
  | .ok () => .serviceTransactionsProcessed msg.transactionType.otelLabel "ok" none
  | .error e => .serviceTransactionsProcessed msg.transactionType.otelLabel "error" (some e.text)

def isOutcome : Measurement → Bool
  | .serviceTransactionsProcessed _ _ _ => true
  | _ => false

def ticks : Measurement → Nat
  | .serviceTicks => 1
  | _ => 0

def batchSize : Measurement → Nat
  | .serviceBatchSize size => size
  | _ => 0

def batchOk : Measurement → Nat
  | .serviceBatchTransactionsOk count => count
  | _ => 0

def batchFailed : Measurement → Nat
  | .serviceBatchTransactionsFailed count => count
  | _ => 0

def accountsTotal : Measurement → Option Nat
  | .serviceAccountsTotal count => some count
  | _ => none

end Measurement

/-- What the instruments were called with. -/
abbrev Metrics := List Measurement

namespace Metrics

/-- The value of a counter, or the sum of a histogram. -/
def sum (value : Measurement → Nat) : Metrics → Nat
  | [] => 0
  | measurement :: metrics => value measurement + sum value metrics

@[simp] theorem sum_nil (value : Measurement → Nat) : sum value [] = 0 := rfl

@[simp] theorem sum_cons (value : Measurement → Nat) (measurement : Measurement) (metrics : Metrics) :
    sum value (measurement :: metrics) = value measurement + sum value metrics := rfl

@[simp] theorem sum_append (value : Measurement → Nat) (first second : Metrics) :
    sum value (first ++ second) = sum value first + sum value second := by
  induction first with
  | nil => simp
  | cons measurement first ih => simp only [List.cons_append, sum_cons, ih]; omega

/-- The value of the gauge. -/
def accountsTotal (metrics : Metrics) : Option Nat :=
  (metrics.filterMap Measurement.accountsTotal).getLast?

@[simp] theorem accountsTotal_concat (metrics : Metrics) (first second : Measurement) (count : Nat) :
    accountsTotal (metrics ++ [first, second, .serviceAccountsTotal count]) = some count := by
  have last : metrics ++ [first, second, .serviceAccountsTotal count] =
      (metrics ++ [first, second]) ++ [.serviceAccountsTotal count] := by simp
  rw [last, accountsTotal, List.filterMap_append]
  exact List.getLast?_concat

end Metrics

namespace Service.Metered

variable (heap : PendingHeap) (receivers : Receivers) (config : ServiceConfig)

/-- What a step of the service returns, with the metrics after it. -/
abbrev Flush := (AnyResult × World × heap.Carrier) × Metrics

/-- The loop of `handle_buffer`, with its two local counters. -/
def popLoop (world : World) (buffer : heap.Carrier) (processed failed : Nat) (metrics : Metrics) :
    Flush heap × Nat × Nat :=
  match _ : heap.pop buffer with
  | none => (((.ok (), world, buffer), metrics), processed, failed)
  | some (tx, rest) =>
    let res := (apply world tx.message).1
    let metrics := metrics ++ [Measurement.ofOutcome tx.message res]
    let processed := if res.isOk then processed + 1 else processed
    let failed := if res.isOk then failed else failed + 1
    match handleTransaction receivers world tx with
    | (.ok (), world) => popLoop world rest processed failed metrics
    | (.error error, world) => (((.error error, world, rest), metrics), processed, failed)
termination_by heap.len buffer
decreasing_by exact heap.len_pop (by assumption)

def handleBuffer (world : World) (buffer : heap.Carrier) (metrics : Metrics) : Flush heap :=
  let batchSize := heap.len buffer
  if batchSize = 0 then ((.ok (), world, buffer), metrics)
  else
    let metrics := metrics ++ [.serviceBatchesProcessed, .serviceBatchSize batchSize]
    match popLoop heap receivers world buffer 0 0 metrics with
    | (((.error error, world, buffer), metrics), _) => ((.error error, world, buffer), metrics)
    | (((.ok (), world, buffer), metrics), processed, failed) =>
      ((.ok (), world, buffer), metrics ++ [.serviceBatchTransactionsOk processed,
        .serviceBatchTransactionsFailed failed, .serviceAccountsTotal world.accounts.keys.card])

def iteration (world : World) (buffer : heap.Carrier) (metrics : Metrics) (msg : ServiceMessage) :
    Flush heap :=
  match msg with
  | .incoming m c =>
    let buffer := heap.push { message := m, callback := c } buffer
    if heap.len buffer ≥ config.batchSize then handleBuffer heap receivers world buffer metrics
    else ((.ok (), world, buffer), metrics)
  | .transactionBatchCompletion callback =>
    match handleBuffer heap receivers world buffer metrics with
    | ((.error error, world, buffer), metrics) => ((.error error, world, buffer), metrics)
    | ((.ok (), world, buffer), metrics) =>
      let confirmed := send receivers world callback (.completed callback)
        "Failed to send callback due to closed receiver"
      ((confirmed.1, confirmed.2, buffer), metrics)

def eventLoop (world : World) (buffer : heap.Carrier) (stop : Stop)
    (received : List ServiceMessage) (metrics : Metrics) : List ServiceMessage → Run heap × Metrics
  | [] =>
    match stop with
    | .cancelled | .channelClosed =>
      let flushed := handleBuffer heap receivers world buffer metrics
      ({ result := flushed.1.1, world := flushed.1.2.1, buffer := flushed.1.2.2, received := received },
        flushed.2)
  | msg :: messages =>
    match iteration heap receivers config world buffer (metrics ++ [.serviceTicks]) msg with
    | ((.ok (), world, buffer), metrics) =>
      eventLoop world buffer stop (received ++ [msg]) metrics messages
    | ((.error error, world, buffer), metrics) =>
      ({ result := .error error, world := world, buffer := buffer, received := received ++ [msg] },
        metrics)

/-- `server_forever`, with what it records. -/
def serverForever (stop : Stop) (messages : List ServiceMessage) : Run heap × Metrics :=
  eventLoop heap receivers config .new heap.new stop [] [] messages

end Service.Metered

/-! ## What a flush records -/

/-- Apply a message: what is recorded for its outcome. -/
def Accounts.measure (self : Accounts) (msg : InputMessage) : Measurement × Accounts :=
  let answered := self.process msg
  (.ofOutcome msg answered.1, answered.2)

theorem Accounts.after_measure (self : Accounts) (messages : List InputMessage) :
    after measure self messages = after process self messages := by
  induction messages generalizing self with
  | nil => rfl
  | cons msg messages ih => exact ih _

/-- The messages that are accepted, or refused. -/
def Accounts.countOf (isOk : Bool) (self : Accounts) (messages : List InputMessage) : Nat :=
  (outputs resolve self messages).countP fun resolution => resolution.2.2.isOk == isOk

theorem Accounts.countOf_append (isOk : Bool) (self : Accounts) (first second : List InputMessage) :
    countOf isOk self (first ++ second) =
      countOf isOk self first + countOf isOk (after process self first) second := by
  rw [countOf, outputs_append, List.countP_append, after_resolve]
  rfl

theorem Accounts.countOf_cons (isOk : Bool) (self : Accounts) (msg : InputMessage)
    (messages : List InputMessage) :
    countOf isOk self (msg :: messages) = (if (self.process msg).1.isOk == isOk then 1 else 0) +
      countOf isOk (self.process msg).2 messages := by
  rw [countOf, outputs_cons, List.countP_cons, Nat.add_comm]
  simp [countOf, resolve]

/-- The local counters after a message. -/
theorem Accounts.processed_cons (self : Accounts) (msg : InputMessage) (messages : List InputMessage)
    (processed : Nat) :
    (if (self.process msg).1.isOk then processed + 1 else processed) +
        countOf true (self.process msg).2 messages =
      processed + countOf true self (msg :: messages) := by
  rw [countOf_cons]
  cases (self.process msg).1.isOk <;> simp; omega

theorem Accounts.failed_cons (self : Accounts) (msg : InputMessage) (messages : List InputMessage)
    (failed : Nat) :
    (if (self.process msg).1.isOk then failed else failed + 1) +
        countOf false (self.process msg).2 messages =
      failed + countOf false self (msg :: messages) := by
  rw [countOf_cons]
  cases (self.process msg).1.isOk <;> simp; omega

theorem Accounts.countOf_add (self : Accounts) (messages : List InputMessage) :
    countOf true self messages + countOf false self messages = messages.length := by
  induction messages generalizing self with
  | nil => rfl
  | cons msg messages ih =>
    have rest := ih (self.process msg).2
    rw [countOf_cons, countOf_cons, List.length_cons]
    cases (self.process msg).1.isOk <;> simp <;> omega

theorem isOutcome_measure (accounts : Accounts) (messages : List InputMessage) :
    (outputs Accounts.measure accounts messages).filter Measurement.isOutcome =
      outputs Accounts.measure accounts messages := by
  rw [List.filter_eq_self]
  induction messages generalizing accounts with
  | nil => simp
  | cons msg messages ih =>
    rw [outputs_cons, List.forall_mem_cons]
    refine ⟨?_, ih _⟩
    cases answered : (accounts.process msg).1 <;> simp [Accounts.measure, answered, Measurement.ofOutcome,
      Measurement.isOutcome]

/-- What is recorded for an outcome adds to no other instrument. -/
theorem sum_measure (accounts : Accounts) (messages : List InputMessage) (value : Measurement → Nat)
    (none : ∀ type outcome error, value (.serviceTransactionsProcessed type outcome error) = 0) :
    Metrics.sum value (outputs Accounts.measure accounts messages) = 0 := by
  induction messages generalizing accounts with
  | nil => rfl
  | cons msg messages ih =>
    rw [outputs_cons, Metrics.sum_cons, ih]
    cases answered : (accounts.process msg).1 <;> simp [Accounts.measure, answered, Measurement.ofOutcome,
      none]

namespace Service.Metered

variable {heap : PendingHeap} {receivers : Receivers} {config : ServiceConfig}

/-- Some messages were taken from the buffer and applied. -/
structure Applied (world : World) (buffer : heap.Carrier) (messages : List InputMessage)
    (flushed : AnyResult × World × heap.Carrier) : Prop where
  applied : flushed.2.1.applied = world.applied ++ messages
  accounts : flushed.2.1.accounts = after Accounts.process world.accounts messages
  left : messages.length + heap.len flushed.2.2 = heap.len buffer

theorem popLoop_none {world : World} {buffer : heap.Carrier} {processed failed : Nat}
    {metrics : Metrics} (popped : heap.pop buffer = none) :
    popLoop heap receivers world buffer processed failed metrics =
      (((.ok (), world, buffer), metrics), processed, failed) := by
  rw [popLoop]
  split
  next => rfl
  next tx rest found => rw [popped] at found; cases found

theorem popLoop_some {world : World} {buffer rest : heap.Carrier} {tx : PendingTransaction}
    {processed failed : Nat} {metrics : Metrics} (popped : heap.pop buffer = some (tx, rest)) :
    popLoop heap receivers world buffer processed failed metrics =
      let res := (apply world tx.message).1
      let metrics := metrics ++ [Measurement.ofOutcome tx.message res]
      let processed := if res.isOk then processed + 1 else processed
      let failed := if res.isOk then failed else failed + 1
      match handleTransaction receivers world tx with
      | (.ok (), world) => popLoop heap receivers world rest processed failed metrics
      | (.error error, world) => (((.error error, world, rest), metrics), processed, failed) := by
  rw [popLoop]
  split
  next found => rw [popped] at found; cases found
  next other after found =>
    rw [popped] at found
    cases found
    rfl

theorem popLoop_looped (world : World) (buffer : heap.Carrier) (processed failed : Nat)
    (metrics : Metrics) :
    let looped := popLoop heap receivers world buffer processed failed metrics
    looped.1.1 = Service.popLoop heap receivers world buffer ∧
      ∃ messages, Applied world buffer messages looped.1.1 ∧
        looped.1.2 = metrics ++ outputs Accounts.measure world.accounts messages ∧
        looped.2.1 = processed + Accounts.countOf true world.accounts messages ∧
        looped.2.2 = failed + Accounts.countOf false world.accounts messages := by
  induction buffer using BinaryHeap.drain.induct heap generalizing world processed failed metrics with
  | case1 buffer popped =>
    rw [popLoop_none popped, Service.popLoop_none heap receivers popped]
    exact ⟨rfl, [], ⟨by simp, rfl, by simp⟩, by simp, rfl, rfl⟩
  | case2 buffer tx rest popped ih =>
    have size := congrArg Multiset.card (heap.contents_pop_some buffer tx rest popped)
    rw [Multiset.card_cons, ← heap.len_eq, ← heap.len_eq] at size
    rw [popLoop_some popped, Service.popLoop_some heap receivers popped]
    cases isOpen : receivers.isOpen world.sent.length tx.callback with
    | true =>
      rw [handleTransaction_open receivers isOpen]
      obtain ⟨same, messages, ⟨applied, accounts, left⟩, recorded, ok, refused⟩ :=
        ih (world.handled [tx]) (if (apply world tx.message).1.isOk then processed + 1 else processed)
          (if (apply world tx.message).1.isOk then failed else failed + 1)
          (metrics ++ [Measurement.ofOutcome tx.message (apply world tx.message).1])
      refine ⟨same, tx.message :: messages, ⟨?_, accounts, ?_⟩, ?_, ?_, ?_⟩
      · rw [applied]
        simp [World.handled]
      · simp only [List.length_cons]
        omega
      · rw [recorded, List.append_assoc]
        rfl
      · exact ok.trans (world.accounts.processed_cons tx.message messages processed)
      · exact refused.trans (world.accounts.failed_cons tx.message messages failed)
    | false =>
      rw [handleTransaction_closed receivers isOpen]
      refine ⟨rfl, [tx.message], ⟨?_, ?_, ?_⟩, ?_, ?_, ?_⟩
      · simp [World.unsent, World.handled]
      · simp [World.unsent, World.handled, Accounts.respond]
      · simp only [List.length_singleton]
        omega
      · rfl
      · exact world.accounts.processed_cons tx.message [] processed
      · exact world.accounts.failed_cons tx.message [] failed

/-- What a flush records of the messages that it applies.  The counters of the batch and the gauge
    are left alone when a send fails. -/
structure Records (world : World) (buffer : heap.Carrier) (metrics : Metrics)
    (messages : List InputMessage) (flushed : Flush heap) : Prop where
  ticks : flushed.2.sum Measurement.ticks = metrics.sum Measurement.ticks
  outcomes : flushed.2.filter Measurement.isOutcome =
    metrics.filter Measurement.isOutcome ++ outputs Accounts.measure world.accounts messages
  sizes : flushed.2.sum Measurement.batchSize = metrics.sum Measurement.batchSize + heap.len buffer
  returned : flushed.1.1 = .ok () →
    flushed.2.sum Measurement.batchOk =
        metrics.sum Measurement.batchOk + Accounts.countOf true world.accounts messages ∧
      flushed.2.sum Measurement.batchFailed =
        metrics.sum Measurement.batchFailed + Accounts.countOf false world.accounts messages ∧
      flushed.2.accountsTotal =
        if messages = [] then metrics.accountsTotal else some flushed.1.2.1.accounts.keys.card
  failed : flushed.1.1 ≠ .ok () →
    flushed.2.sum Measurement.batchOk = metrics.sum Measurement.batchOk ∧
      flushed.2.sum Measurement.batchFailed = metrics.sum Measurement.batchFailed

/-- Without an error nothing is left in the buffer. -/
theorem len_of_flushed {world : World} {buffer : heap.Carrier}
    (ok : (Service.handleBuffer heap receivers world buffer).1 = .ok ()) :
    heap.len (Service.handleBuffer heap receivers world buffer).2.2 = 0 := by
  obtain ⟨-, -, drained⟩ := Service.handleBuffer_ok (Prod.ext ok rfl)
  rw [drained, heap.len_eq, (heap.drain_contents buffer).2]
  rfl

theorem handleBuffer_records (world : World) (buffer : heap.Carrier) (metrics : Metrics) :
    let flushed := handleBuffer heap receivers world buffer metrics
    flushed.1 = Service.handleBuffer heap receivers world buffer ∧
      ∃ messages, Applied world buffer messages flushed.1 ∧
        Records world buffer metrics messages flushed := by
  rw [handleBuffer, Service.handleBuffer]
  by_cases empty : heap.len buffer = 0
  · simp only [empty, if_true]
    exact ⟨trivial, [], ⟨by simp, rfl, by simp⟩, by simp, by simp, by simp [empty], by simp [Accounts.countOf],
      by simp⟩
  · simp only [empty, if_false]
    obtain ⟨same, messages, applied, recorded, ok, refused⟩ := @popLoop_looped heap receivers world buffer
      0 0 (metrics ++ [.serviceBatchesProcessed, .serviceBatchSize (heap.len buffer)])
    -- A batch that is flushed to its end has applied something.
    have some : (Service.popLoop heap receivers world buffer).1 = .ok () → messages ≠ [] := by
      rintro done rfl
      have left := applied.left
      rw [same] at left
      rw [← Service.handleBuffer_eq_popLoop] at done left
      rw [len_of_flushed done] at left
      exact empty left.symm
    generalize popLoop heap receivers world buffer 0 0 _ = looped at *
    obtain ⟨⟨⟨result, next, left⟩, recordedMetrics⟩, processed, failed⟩ := looped
    dsimp only at same recorded ok refused
    subst recorded ok refused
    rw [← same] at some
    have ticks := sum_measure world.accounts messages Measurement.ticks fun _ _ _ => rfl
    have sizes := sum_measure world.accounts messages Measurement.batchSize fun _ _ _ => rfl
    have batchOk := sum_measure world.accounts messages Measurement.batchOk fun _ _ _ => rfl
    have batchFailed :=
      sum_measure world.accounts messages Measurement.batchFailed fun _ _ _ => rfl
    cases result with
    | ok =>
      refine ⟨same, messages, applied, ?_, ?_, ?_, ?_, ?_⟩
      · simp [ticks, Measurement.ticks]
      · simp [isOutcome_measure, Measurement.isOutcome]
      · simp [sizes, Measurement.batchSize]
      · intro _
        refine ⟨?_, ?_, ?_⟩
        · simp [batchOk, Measurement.batchOk]
        · simp [batchFailed, Measurement.batchFailed]
        · rw [if_neg (some rfl)]
          exact Metrics.accountsTotal_concat _ _ _ _
      · intro failed; exact absurd rfl failed
    | error error =>
      refine ⟨same, messages, applied, ?_, ?_, ?_, ?_, ?_⟩
      · simp [ticks, Measurement.ticks]
      · simp [isOutcome_measure, Measurement.isOutcome]
      · simp [sizes, Measurement.batchSize]
      · intro ok; cases ok
      · intro _
        exact ⟨by simp [batchOk, Measurement.batchOk], by simp [batchFailed, Measurement.batchFailed]⟩

/-! ## Every run -/

/-- What the metrics say when the service has come to `world`, with `left` transactions of a batch
    that a failed send has interrupted. -/
structure Recorded (result : AnyResult) (world : World) (left : Nat) (received : List ServiceMessage)
    (metrics : Metrics) : Prop where
  accounts : world.accounts = after Accounts.process ∅ world.applied
  ticks : metrics.sum Measurement.ticks = received.length
  outcomes : metrics.filter Measurement.isOutcome = outputs Accounts.measure ∅ world.applied
  sizes : metrics.sum Measurement.batchSize = world.applied.length + left
  counted : metrics.sum Measurement.batchOk ≤ Accounts.countOf true ∅ world.applied ∧
    metrics.sum Measurement.batchFailed ≤ Accounts.countOf false ∅ world.applied
  returned : result = .ok () → left = 0 ∧
    metrics.sum Measurement.batchOk = Accounts.countOf true ∅ world.applied ∧
    metrics.sum Measurement.batchFailed = Accounts.countOf false ∅ world.applied ∧
    metrics.accountsTotal = if world.applied = [] then none else some world.accounts.keys.card

theorem recorded_new : Recorded (.ok ()) .new 0 [] [] where
  accounts := rfl
  ticks := rfl
  outcomes := rfl
  sizes := rfl
  counted := ⟨Nat.zero_le _, Nat.zero_le _⟩
  returned := fun _ => ⟨rfl, rfl, rfl, rfl⟩

section Recorded

variable {world : World} {received : List ServiceMessage} {metrics : Metrics}

theorem Recorded.ticked {left : Nat} (recorded : Recorded (.ok ()) world left received metrics)
    (msg : ServiceMessage) :
    Recorded (.ok ()) world left (received ++ [msg]) (metrics ++ [.serviceTicks]) where
  accounts := recorded.accounts
  ticks := by simp [recorded.ticks, Measurement.ticks]
  outcomes := by simp [recorded.outcomes, Measurement.isOutcome]
  sizes := by simp [recorded.sizes, Measurement.batchSize]
  counted := by simpa [Measurement.batchOk, Measurement.batchFailed] using recorded.counted
  returned := by
    intro ok
    simpa [Measurement.batchOk, Measurement.batchFailed, Metrics.accountsTotal, Measurement.accountsTotal]
      using recorded.returned ok

/-- A send changes nothing that is recorded. -/
theorem Recorded.sent {left : Nat} (recorded : Recorded (.ok ()) world left received metrics)
    (callback : ChannelId) (event : Event) (error : String) :
    Recorded (send receivers world callback event error).1 (send receivers world callback event error).2
      left received metrics := by
  obtain ⟨accounts, ticks, outcomes, sizes, counted, returned⟩ := recorded
  rw [send]
  split
  · exact ⟨accounts, ticks, outcomes, sizes, counted, returned⟩
  · exact ⟨accounts, ticks, outcomes, sizes, counted, fun _ => returned rfl⟩

theorem Recorded.flushed (recorded : Recorded (.ok ()) world 0 received metrics)
    (buffer : heap.Carrier) :
    let flushed := handleBuffer heap receivers world buffer metrics
    flushed.1 = Service.handleBuffer heap receivers world buffer ∧
      Recorded flushed.1.1 flushed.1.2.1 (heap.len flushed.1.2.2) received flushed.2 := by
  obtain ⟨same, messages, ⟨applied, accounts, left⟩, ticks, outcomes, sizes, returned, failed⟩ :=
    @handleBuffer_records heap receivers world buffer metrics
  have emptied := @len_of_flushed heap receivers world buffer
  rw [← same] at emptied
  refine ⟨same, ?_⟩
  generalize handleBuffer heap receivers world buffer metrics = flushed at *
  obtain ⟨⟨result, next, left⟩, metrics'⟩ := flushed
  dsimp only at *
  obtain ⟨-, ok, refused, total⟩ := recorded.returned rfl
  have okNow := Accounts.countOf_append true ∅ world.applied messages
  have refusedNow := Accounts.countOf_append false ∅ world.applied messages
  rw [← recorded.accounts] at okNow refusedNow
  constructor
  · rw [accounts, applied, after_append, ← recorded.accounts]
  · rw [ticks, recorded.ticks]
  · rw [outcomes, recorded.outcomes, applied, outputs_append, Accounts.after_measure, ← recorded.accounts]
  · rw [sizes, recorded.sizes, applied, List.length_append]
    omega
  · rw [applied]
    cases result with
    | ok =>
      obtain ⟨okCount, refusedCount, _⟩ := returned rfl
      omega
    | error error =>
      obtain ⟨okCount, refusedCount⟩ := failed (by simp)
      omega
  · rintro rfl
    obtain ⟨okCount, refusedCount, totalCount⟩ := returned rfl
    rw [applied]
    refine ⟨emptied rfl, by omega, by omega, ?_⟩
    rw [totalCount]
    by_cases nothing : messages = []
    · subst nothing
      rw [if_pos rfl, total, List.append_nil, accounts, after_nil]
    · rw [if_neg nothing, if_neg (by simp [nothing])]

theorem Recorded.iterated (recorded : Recorded (.ok ()) world 0 received metrics)
    (buffer : heap.Carrier) (msg : ServiceMessage) :
    let iterated := iteration heap receivers config world buffer (metrics ++ [.serviceTicks]) msg
    iterated.1 = Service.iteration heap receivers config world buffer msg ∧
      ∃ left, Recorded iterated.1.1 iterated.1.2.1 left (received ++ [msg]) iterated.2 ∧
        (iterated.1.1 ≠ .ok () → left = heap.len iterated.1.2.2) := by
  have ticked := recorded.ticked msg
  cases msg with
  | incoming message callback =>
    rw [iteration, Service.iteration]
    by_cases full : heap.len (heap.push ⟨message, callback⟩ buffer) ≥ config.batchSize
    · simp only [full, if_true]
      obtain ⟨same, flushed⟩ := @Recorded.flushed heap receivers _ _ _ ticked (heap.push ⟨message, callback⟩ buffer)
      exact ⟨same, _, flushed, fun _ => rfl⟩
    · simp only [full, if_false]
      exact ⟨trivial, 0, ticked, fun failed => absurd rfl failed⟩
  | transactionBatchCompletion callback =>
    rw [iteration, Service.iteration]
    obtain ⟨same, flushed⟩ := @Recorded.flushed heap receivers _ _ _ ticked buffer
    rw [← same]
    generalize handleBuffer heap receivers world buffer (metrics ++ [.serviceTicks]) = outcome at *
    obtain ⟨⟨result, next, left⟩, metrics'⟩ := outcome
    cases result with
    | ok => exact ⟨rfl, _, flushed.sent callback _ _, fun _ => rfl⟩
    | error error => exact ⟨rfl, _, flushed, fun _ => rfl⟩

theorem eventLoop_recorded (stop : Stop) (messages : List ServiceMessage) :
    ∀ (world : World) (buffer : heap.Carrier) (received : List ServiceMessage) (metrics : Metrics),
      Recorded (.ok ()) world 0 received metrics →
      let metered := eventLoop heap receivers config world buffer stop received metrics messages
      metered.1 = Service.eventLoop heap receivers config world buffer stop received messages ∧
        Recorded metered.1.result metered.1.world (heap.len metered.1.buffer) metered.1.received
          metered.2 := by
  induction messages with
  | nil =>
    intro world buffer received metrics recorded
    obtain ⟨same, flushed⟩ := @Recorded.flushed heap receivers _ _ _ recorded buffer
    rw [Service.eventLoop_nil, ← same]
    cases stop <;> exact ⟨rfl, flushed⟩
  | cons msg messages ih =>
    intro world buffer received metrics recorded
    obtain ⟨same, left, iterated, interrupted⟩ :=
      @Recorded.iterated heap receivers config _ _ _ recorded buffer msg
    rw [eventLoop, Service.eventLoop, ← same]
    generalize iteration heap receivers config world buffer (metrics ++ [.serviceTicks]) msg = outcome at *
    obtain ⟨⟨result, next, rest⟩, metrics'⟩ := outcome
    cases result with
    | ok =>
      obtain ⟨rfl, _⟩ := iterated.returned rfl
      exact ih next rest (received ++ [msg]) metrics' iterated
    | error error =>
      have stays := interrupted (by simp)
      subst stays
      exact ⟨rfl, iterated⟩

end Recorded

/-- Recording changes nothing of a run.  However it returns, the ticks are the messages received,
    the outcomes counted are those of the messages applied, in their order, and the sizes of the
    batches add up to the transactions received.  Without an error the counters of the batches are
    the numbers of the outcomes that were sent, and the gauge has the number of the accounts. -/
theorem metrics_agree (heap : PendingHeap) (receivers : Receivers) (config : ServiceConfig)
    (stop : Stop) (messages : List ServiceMessage) :
    let run := Service.serverForever heap receivers config stop messages
    let metered := serverForever heap receivers config stop messages
    let resolutions := run.world.sent.filterMap Event.resolution
    metered.1 = run ∧
    metered.2.sum Measurement.ticks = run.received.length ∧
    metered.2.filter Measurement.isOutcome = outputs Accounts.measure ∅ run.world.applied ∧
    metered.2.sum Measurement.batchSize = (incomingMessages run.received).length ∧
    metered.2.sum Measurement.batchOk + metered.2.sum Measurement.batchFailed ≤
      run.world.applied.length ∧
    (run.result = .ok () →
      metered.2.sum Measurement.batchOk = resolutions.countP (fun resolution => resolution.2.2.isOk) ∧
      metered.2.sum Measurement.batchFailed =
        resolutions.countP (fun resolution => !resolution.2.2.isOk) ∧
      metered.2.accountsTotal =
        if run.world.applied = [] then none else some run.world.accounts.keys.card) := by
  intro run metered resolutions
  obtain ⟨same, recorded⟩ := @eventLoop_recorded heap receivers config stop messages .new heap.new [] []
    recorded_new
  change metered.1 = run at same
  change Recorded metered.1.result metered.1.world (heap.len metered.1.buffer) metered.1.received
    metered.2 at recorded
  rw [same] at recorded
  obtain ⟨unsent, accounted, sentAll⟩ := serverForever_accounted heap receivers config stop messages
  change Accounted heap run.world run.buffer run.received unsent at accounted
  refine ⟨same, recorded.ticks, recorded.outcomes, ?_, ?_, ?_⟩
  · have card := congrArg Multiset.card accounted.messages
    rw [Multiset.card_add, Multiset.card_map, Multiset.coe_card, Multiset.coe_card, ← heap.len_eq] at card
    rw [recorded.sizes, card]
  · have all := Accounts.countOf_add ∅ run.world.applied
    have counted := recorded.counted
    omega
  · intro ok
    obtain ⟨-, okCount, failedCount, total⟩ := recorded.returned ok
    have outcomes := accounted.outcomes
    rw [sentAll ok, List.append_nil] at outcomes
    refine ⟨?_, ?_, total⟩
    · rw [okCount, Accounts.countOf, ← outcomes]
      simp [resolutions]
    · rw [failedCount, Accounts.countOf, ← outcomes]
      simp [resolutions]

end Service.Metered

end PaymentsEngine
