import PaymentsEngine.Pipeline.ServerTask

/-! # Rows are applied in the order of the file

The heap hands the messages out by their sequence numbers.  As long as these ascend, the
applied messages followed by those in the heap are the received ones in their order,
whenever the service is interrupted.
-/

namespace PaymentsEngine.Pipeline

open PaymentsEngine.Library

/-- The sequence numbers ascend. -/
def Numbered (messages : List InputMessage) : Prop :=
  messages.Pairwise fun earlier later => earlier.chronoOrder < later.chronoOrder

theorem numbered_loadFile {file : List Record} (build : Build) (short : file.length ≤ 2 ^ 64) :
    Numbered (loadFile build (.new file)).1 := by
  rw [CsvReader.loadFile_eq]
  exact (CsvReader.readRows_numbered (by simpa [CsvReader.new] using short)).1

/-- What is in the heap comes after what is applied. -/
def InOrder (heap : PendingHeap) (world : World) (received : List ServiceMessage)
    (buffer : heap.Carrier) : Prop :=
  ∃ waiting : List PendingTransaction, heap.contents buffer = waiting ∧
    world.applied ++ waiting.map PendingTransaction.message = incomingMessages received

section

variable {heap : PendingHeap} {world : World} {received : List ServiceMessage}
variable {buffer rest : heap.Carrier} {tx : PendingTransaction}

theorem inOrder_pushed (inOrder : InOrder heap world received buffer) (tx : PendingTransaction) :
    InOrder heap world (received ++ [.incoming tx.message tx.callback]) (heap.push tx buffer) := by
  obtain ⟨waiting, contents, order⟩ := inOrder
  refine ⟨waiting ++ [tx], ?_, ?_⟩
  · rw [heap.contents_push, contents, Multiset.cons_coe, Multiset.coe_eq_coe]
    exact (List.perm_append_singleton tx waiting).symm
  · rw [incomingMessages_append, ← order, List.map_append, List.append_assoc]
    rfl

theorem inOrder_popped (inOrder : InOrder heap world received buffer)
    (numbered : Numbered (incomingMessages received)) (popped : heap.pop buffer = some (tx, rest)) :
    InOrder heap (Service.apply world tx.message).2 received rest := by
  obtain ⟨waiting, contents, order⟩ := inOrder
  have ascending : Numbered (waiting.map PendingTransaction.message) := by
    rw [← order] at numbered
    exact (List.pairwise_append.mp numbered).2.1
  have sorted : waiting.Pairwise fun earlier later => earlier.cmp later = .gt := by
    apply (List.pairwise_map.mp ascending).imp
    intro earlier later lower
    exact InputMessage.cmp_of_lt lower
  obtain ⟨others, rfl, remaining⟩ := heap.pop_of_sorted contents sorted popped
  refine ⟨others, remaining, ?_⟩
  rw [← order]
  simp [Service.apply]

/-- Without anything in the heap everything received is applied. -/
theorem inOrder_empty (inOrder : InOrder heap world received buffer)
    (empty : heap.contents buffer = 0) : world.applied = incomingMessages received := by
  obtain ⟨waiting, contents, order⟩ := inOrder
  rw [empty, eq_comm, Multiset.coe_eq_zero] at contents
  subst contents
  simpa using order

end

namespace Server

variable {heap : PendingHeap} {receivers : Receivers} {world next : World}
variable {received : List ServiceMessage} {server following : Server heap}

def InOrder (world : World) (received : List ServiceMessage) : Server heap → Prop
  | .receiving buffer | .popping buffer _ | .sending _ _ buffer _ | .confirming _ buffer =>
    Pipeline.InOrder heap world received buffer
  | .ended _ => True

theorem InOrder.receive {config : ServiceConfig} {buffer : heap.Carrier} {msg : ServiceMessage}
    (inOrder : Pipeline.InOrder heap world received buffer) :
    (Server.receive config buffer msg).InOrder world (received ++ [msg]) := by
  cases msg with
  | incoming message callback =>
    have pushed := inOrder_pushed inOrder ⟨message, callback⟩
    rw [Server.receive]
    split <;> exact pushed
  | transactionBatchCompletion callback =>
    obtain ⟨waiting, contents, order⟩ := inOrder
    refine ⟨waiting, contents, ?_⟩
    rw [order, incomingMessages_append]
    exact (List.append_nil _).symm

/-- A send changes nothing about what is applied. -/
theorem InOrder.sent {callback : ChannelId} {event : Event} {error : String}
    (inOrder : following.InOrder world received)
    (advanced : Server.sent following (Service.send receivers world callback event error) =
      (next, server)) : server.InOrder next received := by
  rw [Service.send] at advanced
  split at advanced
  · cases advanced
    cases server <;> exact inOrder
  · cases advanced; trivial

theorem InOrder.advance (inOrder : server.InOrder world received)
    (numbered : Numbered (incomingMessages received))
    (advanced : server.advance receivers world = some (next, following)) :
    following.InOrder next received := by
  cases server with
  | receiving buffer => cases advanced
  | popping buffer caller =>
    rw [Server.advance] at advanced
    split at advanced
    next popped =>
      cases advanced
      cases caller with
      | incoming | completion callback => exact inOrder
      | serverForever => trivial
    next tx rest popped =>
      cases advanced
      exact inOrder_popped inOrder numbered popped
  | sending tx res buffer caller =>
    have popping : (Server.popping buffer caller).InOrder world received := inOrder
    exact popping.sent (Option.some.inj advanced)
  | confirming callback buffer =>
    have receiving : (Server.receiving buffer).InOrder world received := inOrder
    exact receiving.sent (Option.some.inj advanced)
  | ended outcome => cases advanced

end Server

end PaymentsEngine.Pipeline
