import PaymentsEngine.Pipeline.Tasks

/-! # The service between two messages

The operations of the service in the pipeline are those of its `iteration`: without
interruption they lead to where `iteration` does.  Each of them keeps the messages
that were received accounted for, as applied or as in the heap, and a completion
signal is acknowledged with nothing left in the heap.
-/

namespace PaymentsEngine.Pipeline

open PaymentsEngine.Library PaymentsEngine.Library.Machine

namespace Server

variable {heap : PendingHeap} {receivers : Receivers}

/-! ## The operations make up an iteration -/

theorem running_of_advance {world : World} {server : Server heap} {left : World × Server heap}
    (advanced : server.advance receivers world = some left) : server.outcome = none := by
  cases server with
  | ended outcome => cases advanced
  | receiving | popping | sending | confirming => rfl

/-- One operation, with the receivers as they are. -/
def Advances (receivers : Receivers) (first second : World × Server heap) : Prop :=
  first.2.advance receivers first.1 = some second

/-- Where the service is when `handle_buffer` has returned. -/
def returned (caller : Caller) : AnyResult × World × heap.Carrier → World × Server heap
  | (.ok (), world, buffer) => (world, returnTo buffer caller)
  | (.error error, world, _) => (world, .ended (.err error))

theorem popLoop_advances (world : World) (buffer : heap.Carrier) (caller : Caller) :
    Relation.ReflTransGen (Advances receivers) (world, .popping buffer caller)
      (returned caller (Service.popLoop heap receivers world buffer)) := by
  induction buffer using BinaryHeap.drain.induct heap generalizing world with
  | case1 buffer popped =>
    rw [Service.popLoop_none heap receivers popped]
    apply Relation.ReflTransGen.single
    simp [Advances, advance, popped, returned]
  | case2 buffer tx rest popped ih =>
    let answered := Service.apply world tx.message
    have applies : Advances receivers (world, .popping buffer caller)
        (answered.2, .sending tx answered.1 rest caller) := by
      simp [Advances, advance, popped, answered]
    have sends : Advances receivers (answered.2, .sending tx answered.1 rest caller)
        (sent (.popping rest caller) (Service.handleTransaction receivers world tx)) := rfl
    apply Relation.ReflTransGen.head applies
    apply Relation.ReflTransGen.head sends
    rw [Service.popLoop_some heap receivers popped]
    -- The loop goes on exactly when the send went through.
    generalize Service.handleTransaction receivers world tx = handled
    obtain ⟨result, world⟩ := handled
    cases result with
    | ok => exact ih world
    | error error => exact .refl

theorem handleBuffer_advances (world : World) (buffer : heap.Carrier) (caller : Caller) :
    Relation.ReflTransGen (Advances receivers) (world, .popping buffer caller)
      (returned caller (Service.handleBuffer heap receivers world buffer)) := by
  rw [Service.handleBuffer_eq_popLoop]
  exact popLoop_advances world buffer caller

/-- Uninterrupted, the operations on a message lead to where `iteration` leads. -/
theorem iteration_advances (config : ServiceConfig) (world : World) (buffer : heap.Carrier)
    (msg : ServiceMessage) :
    Relation.ReflTransGen (Advances receivers) (world, receive config buffer msg)
      (returned .incoming (Service.iteration heap receivers config world buffer msg)) := by
  cases msg with
  | incoming message callback =>
    rw [receive]
    split
    next full =>
      rw [Service.iteration_full full]
      exact handleBuffer_advances world _ .incoming
    next below =>
      rw [Service.iteration_below below]
      exact .refl
  | transactionBatchCompletion callback =>
    -- The flush comes first; the acknowledgement is one more operation after it.
    apply Relation.ReflTransGen.trans (handleBuffer_advances world buffer (.completion callback))
    generalize flushed : Service.handleBuffer heap receivers world buffer = outcome
    obtain ⟨result, next, left⟩ := outcome
    cases result with
    | error error =>
      rw [Service.iteration_failed flushed]
      exact .refl
    | ok =>
      apply Relation.ReflTransGen.single
      rw [Service.iteration, flushed]
      dsimp only [Advances, returned, returnTo, advance]
      generalize Service.send receivers next callback _ _ = confirmed
      obtain ⟨result, world⟩ := confirmed
      cases result <;> rfl

/-- A send goes through, or the service ends with its error. -/
theorem sent_cases {world next : World} {following server : Server heap} {callback : ChannelId}
    {event : Event} {error : String}
    (sends : sent following (Service.send receivers world callback event error) = (next, server)) :
    (receivers.isOpen world.sent.length callback = true ∧ server = following ∧
      next = { world with sent := world.sent ++ [event] }) ∨
    (receivers.isOpen world.sent.length callback = false ∧ server = .ended (.err error) ∧
      next = world) := by
  rw [Service.send] at sends
  split at sends
  next isOpen => cases sends; exact .inl ⟨isOpen, rfl, rfl⟩
  next closed => cases sends; exact .inr ⟨by simpa using closed, rfl, rfl⟩

/-! ## What the operations keep -/

end Server

/-- A flush for a completion signal is one for a signal that was received. -/
def Caller.Called (received : List ServiceMessage) : Caller → Prop
  | .completion callback => .transactionBatchCompletion callback ∈ received
  | .incoming | .serverForever => True

namespace Server

variable {heap : PendingHeap} {receivers : Receivers}

/-- The received messages are applied or in the heap, and a signal that is about to be
    acknowledged has been received and leaves the heap empty. -/
def Accounted (world : World) (received : List ServiceMessage) : Server heap → Prop
  | .receiving buffer => Service.Accounted heap world buffer received []
  | .popping buffer caller => Service.Accounted heap world buffer received [] ∧ caller.Called received
  | .sending tx res buffer caller =>
    Service.Accounted heap world buffer received [(tx.message.clientId, tx.message.transactionId, res)] ∧
      caller.Called received
  | .confirming callback buffer =>
    Service.Accounted heap world buffer received [] ∧ heap.contents buffer = 0 ∧
      .transactionBatchCompletion callback ∈ received
  | .ended _ => True

variable {world next : World} {received : List ServiceMessage} {server following : Server heap}
variable {buffer rest : heap.Carrier} {caller : Caller}

/-- The transaction that is popped is applied, and its outcome is still to be sent. -/
theorem accounted_popped {tx : PendingTransaction} (popped : heap.pop buffer = some (tx, rest))
    (accounted : Service.Accounted heap world buffer received []) :
    let answered := Service.apply world tx.message
    Service.Accounted heap answered.2 rest received
      [(tx.message.clientId, tx.message.transactionId, answered.1)] where
  messages := by
    rw [← accounted.messages, heap.contents_pop_some _ _ _ popped, Multiset.map_cons,
      Service.apply, ← Multiset.coe_add, ← Multiset.singleton_add, add_assoc]
    rfl
  accounts := by
    rw [Service.apply]
    dsimp only
    rw [accounted.accounts, after_concat]
  outcomes := by
    have outcomes := accounted.outcomes
    rw [List.append_nil] at outcomes
    rw [Service.apply]
    dsimp only
    rw [outcomes, outputs_append, Accounts.after_resolve, ← accounted.accounts]
    rfl

/-- The outcome that was still to be sent is sent. -/
theorem accounted_sent {callback : ChannelId} {resolution : Resolution}
    (accounted : Service.Accounted heap world buffer received [resolution]) :
    Service.Accounted heap { world with sent := world.sent ++ [.resolved callback resolution] } buffer
      received [] where
  messages := accounted.messages
  accounts := accounted.accounts
  outcomes := by
    rw [List.append_nil, List.filterMap_append]
    exact accounted.outcomes

/-- An acknowledgement is no outcome. -/
theorem accounted_confirmed {callback : ChannelId}
    (accounted : Service.Accounted heap world buffer received []) :
    Service.Accounted heap { world with sent := world.sent ++ [.completed callback] } buffer received
      [] where
  messages := accounted.messages
  accounts := accounted.accounts
  outcomes := by
    rw [← accounted.outcomes]
    simp [Event.resolution]

theorem accounted_returnTo (accounted : Service.Accounted heap world buffer received [])
    (empty : heap.contents buffer = 0) (called : caller.Called received) :
    (returnTo buffer caller).Accounted world received := by
  cases caller with
  | incoming => exact accounted
  | completion callback => exact ⟨accounted, empty, called⟩
  | serverForever => exact trivial

theorem Accounted.receive {config : ServiceConfig} {msg : ServiceMessage}
    (accounted : Service.Accounted heap world buffer received []) :
    (Server.receive config buffer msg).Accounted world (received ++ [msg]) := by
  cases msg with
  | incoming message callback =>
    have pushed := accounted.pushed message callback
    rw [Server.receive]
    split
    · exact ⟨pushed, trivial⟩
    · exact pushed
  | transactionBatchCompletion callback =>
    exact ⟨accounted.signalled callback, by simp [Caller.Called]⟩

theorem Accounted.sent {event : Event} {callback : ChannelId} {error : String}
    (delivered : following.Accounted { world with sent := world.sent ++ [event] } received)
    (advanced : Server.sent following (Service.send receivers world callback event error) =
      (next, server)) : server.Accounted next received := by
  rw [Service.send] at advanced
  split at advanced
  · cases advanced; exact delivered
  · cases advanced; exact trivial

theorem Accounted.advance (accounted : server.Accounted world received)
    (advanced : server.advance receivers world = some (next, following)) :
    following.Accounted next received := by
  cases server with
  | receiving buffer => cases advanced
  | popping buffer caller =>
    obtain ⟨accounted, called⟩ := accounted
    rw [Server.advance] at advanced
    split at advanced
    next popped =>
      cases advanced
      exact accounted_returnTo accounted (heap.contents_pop_none _ popped) called
    next tx rest popped =>
      cases advanced
      exact ⟨accounted_popped popped accounted, called⟩
  | sending tx res buffer caller =>
    obtain ⟨accounted, called⟩ := accounted
    let resolution := (tx.message.clientId, tx.message.transactionId, res)
    have delivered : (Server.popping buffer caller).Accounted
        { world with sent := world.sent ++ [.resolved tx.callback resolution] } received :=
      ⟨accounted_sent accounted, called⟩
    exact delivered.sent (Option.some.inj advanced)
  | confirming callback buffer =>
    obtain ⟨accounted, _, _⟩ := accounted
    have delivered : (Server.receiving buffer).Accounted
        { world with sent := world.sent ++ [.completed callback] } received :=
      accounted_confirmed accounted
    exact delivered.sent (Option.some.inj advanced)
  | ended outcome => cases advanced

/-- The only operation that acknowledges a signal is the one that confirms it. -/
theorem advance_acknowledges {callback : ChannelId}
    (advanced : server.advance receivers world = some (next, following))
    (before : .completed callback ∉ world.sent) (acknowledged : .completed callback ∈ next.sent) :
    ∃ buffer, server = .confirming callback buffer ∧ following = .receiving buffer ∧
      next = { world with sent := world.sent ++ [.completed callback] } := by
  -- An acknowledgement that was not there before is the event that was just sent.
  have sends {event : Event} {other : ChannelId} {error : String} {continuation : Server heap}
      (sent : Server.sent continuation (Service.send receivers world other event error) =
        (next, following)) :
      event = .completed callback ∧ following = continuation ∧
        next = { world with sent := world.sent ++ [event] } := by
    rw [Service.send] at sent
    split at sent
    · cases sent
      rw [List.mem_append, List.mem_singleton] at acknowledged
      exact ⟨(acknowledged.resolve_left before).symm, rfl, rfl⟩
    · cases sent; exact absurd acknowledged before
  cases server with
  | receiving buffer => cases advanced
  | popping buffer caller =>
    rw [Server.advance] at advanced
    split at advanced
    next => cases advanced; exact absurd acknowledged before
    next => cases advanced; exact absurd acknowledged before
  | sending tx res buffer caller =>
    obtain ⟨event, _, _⟩ := sends (Option.some.inj advanced)
    cases event
  | confirming other buffer =>
    obtain ⟨event, continuation, leaves⟩ := sends (Option.some.inj advanced)
    cases event
    exact ⟨buffer, rfl, continuation, leaves⟩
  | ended outcome => cases advanced

end Server

end PaymentsEngine.Pipeline
