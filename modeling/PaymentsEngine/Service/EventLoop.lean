import PaymentsEngine.Library.BinaryHeap
import PaymentsEngine.Service.Accounts

/-! # The service

`server_forever` and what it calls.  The service reads messages from one channel,
keeps the incoming ones in a heap, and flushes the heap into the accounts.  What it
does to the world outside is the sequence of the events it sends; a send fails when
the owner of the receiver has closed it.
-/

namespace PaymentsEngine

open PaymentsEngine.Library

/-- Names the receiving end of a callback channel. -/
abbrev ChannelId := Nat

/-- What a callback channel carries. -/
abbrev Resolution := ClientId × TransactionId × TransactionResult

/-- A buffered transaction awaiting processing, with the channel for its outcome. -/
structure PendingTransaction where
  message : InputMessage
  callback : ChannelId
  deriving DecidableEq, Repr

def PendingTransaction.cmp (self other : PendingTransaction) : Ordering :=
  self.message.cmp other.message

instance : Std.TransCmp PendingTransaction.cmp where
  eq_swap := by
    intro first second
    have swapped : first.message.cmp second.message = (second.message.cmp first.message).swap :=
      Std.OrientedCmp.eq_swap
    exact swapped
  isLE_trans := by
    intro first second third
    have messages : (first.message.cmp second.message).isLE →
        (second.message.cmp third.message).isLE → (first.message.cmp third.message).isLE :=
      Std.TransCmp.isLE_trans
    exact messages

/-- The heap that the service is built on. -/
abbrev PendingHeap := BinaryHeap PendingTransaction PendingTransaction.cmp

inductive ServiceMessage where
  | incoming (message : InputMessage) (callback : ChannelId)
  | transactionBatchCompletion (callback : ChannelId)
  deriving DecidableEq, Repr

/-- The transactions of a stream, without the completion signals. -/
def pendingOf : List ServiceMessage → List PendingTransaction
  | [] => []
  | .incoming message callback :: messages => ⟨message, callback⟩ :: pendingOf messages
  | .transactionBatchCompletion _ :: messages => pendingOf messages

/-- The messages that the service is given to apply. -/
def incomingMessages (messages : List ServiceMessage) : List InputMessage :=
  (pendingOf messages).map PendingTransaction.message

theorem pendingOf_append (first second : List ServiceMessage) :
    pendingOf (first ++ second) = pendingOf first ++ pendingOf second := by
  induction first with
  | nil => rfl
  | cons msg first ih => cases msg <;> simp [pendingOf, ih]

theorem incomingMessages_append (first second : List ServiceMessage) :
    incomingMessages (first ++ second) = incomingMessages first ++ incomingMessages second := by
  rw [incomingMessages, pendingOf_append, List.map_append, incomingMessages, incomingMessages]

structure ServiceConfig where
  batchSize : Nat

/-- An event that reached its receiver. -/
inductive Event where
  | resolved (callback : ChannelId) (resolution : Resolution)
  | completed (callback : ChannelId)
  deriving DecidableEq

/-- When the owners of the receivers close them: whether a receiver is still open after `sent`
    events have been sent.  A closed receiver stays closed. -/
structure Receivers where
  isOpen : (sent : Nat) → ChannelId → Bool
  staysClosed : ∀ sent callback, isOpen sent callback = false → isOpen (sent + 1) callback = false

/-- Nobody opens or closes a receiver for a while. -/
def Receivers.fixed (isOpen : ChannelId → Bool) : Receivers where
  isOpen := fun _ => isOpen
  staysClosed := by intro _ _ closed; exact closed

/-- Nobody closes a receiver. -/
def Receivers.allOpen : Receivers where
  isOpen := fun _ _ => true
  staysClosed := by intro _ _ closed; cases closed

/-- The errors of the service, by their texts. -/
abbrev AnyResult := Except String Unit

/-- The accounts, the events sent so far and, for the proofs, the messages applied so far. -/
structure World where
  accounts : Accounts
  sent : List Event
  applied : List InputMessage

def World.new : World := { accounts := ∅, sent := [], applied := [] }

namespace Service

variable (heap : PendingHeap) (receivers : Receivers) (config : ServiceConfig)

/-- Apply a message to the account of its client and send nothing yet. -/
def apply (world : World) (msg : InputMessage) : TransactionResult × World :=
  let answered := world.accounts.process msg
  (answered.1,
    { world with accounts := answered.2, applied := world.applied ++ [msg] })

/-- `UnboundedSender::send` and the `send` of the oneshot: the event arrives, or the receiver is
    closed and the caller gets an error. -/
def send (world : World) (callback : ChannelId) (event : Event) (error : String) :
    AnyResult × World :=
  if receivers.isOpen world.sent.length callback then
    (.ok (), { world with sent := world.sent ++ [event] })
  else (.error error, world)

/-- One round of the loop in `handle_buffer`. -/
def handleTransaction (world : World) (tx : PendingTransaction) : AnyResult × World :=
  let msg := tx.message
  let answered := apply world msg
  send receivers answered.2 tx.callback
    (.resolved tx.callback (msg.clientId, msg.transactionId, answered.1))
    "Failed to send transaction resolution callback due to closed receiver"

/-- `while let Some(tx) = buffer.pop()`, left by the first send that fails. -/
def popLoop (world : World) (buffer : heap.Carrier) : AnyResult × World × heap.Carrier :=
  match _ : heap.pop buffer with
  | none => (.ok (), world, buffer)
  | some (tx, rest) =>
    match handleTransaction receivers world tx with
    | (.ok (), world) => popLoop world rest
    | (.error error, world) => (.error error, world, rest)
termination_by heap.len buffer
decreasing_by exact heap.len_pop (by assumption)

/-- Processes the messages in the buffer. -/
def handleBuffer (world : World) (buffer : heap.Carrier) : AnyResult × World × heap.Carrier :=
  let batchSize := heap.len buffer
  if batchSize = 0 then (.ok (), world, buffer)
  else popLoop heap receivers world buffer

/-- Handles a single incoming service message. -/
def iteration (world : World) (buffer : heap.Carrier) (msg : ServiceMessage) :
    AnyResult × World × heap.Carrier :=
  match msg with
  | .incoming m c =>
    let buffer := heap.push { message := m, callback := c } buffer
    if heap.len buffer ≥ config.batchSize then handleBuffer heap receivers world buffer
    else (.ok (), world, buffer)
  | .transactionBatchCompletion callback =>
    -- Process the buffer before confirming
    match handleBuffer heap receivers world buffer with
    | (.error error, world, buffer) => (.error error, world, buffer)
    | (.ok (), world, buffer) =>
      let confirmed := send receivers world callback (.completed callback)
        "Failed to send callback due to closed receiver"
      (confirmed.1, confirmed.2, buffer)

/-- Why the loop ends without an error. -/
inductive Stop where
  | cancelled
  | channelClosed
  deriving DecidableEq, Repr

/-- How `server_forever` returns: what it left, and the messages it had received. -/
structure Run where
  result : AnyResult
  world : World
  buffer : heap.Carrier
  received : List ServiceMessage

/-- The event loop from a given world and buffer.  `messages` are those that it can still receive
    before `stop`. -/
def eventLoop (world : World) (buffer : heap.Carrier) (stop : Stop)
    (received : List ServiceMessage) : List ServiceMessage → Run heap
  | [] =>
    match stop with
    | .cancelled | .channelClosed =>
      let flushed := handleBuffer heap receivers world buffer
      { result := flushed.1, world := flushed.2.1, buffer := flushed.2.2, received := received }
  | msg :: messages =>
    match iteration heap receivers config world buffer msg with
    | (.ok (), world, buffer) => eventLoop world buffer stop (received ++ [msg]) messages
    | (.error error, world, buffer) =>
      { result := .error error, world := world, buffer := buffer, received := received ++ [msg] }

/-- Runs the event loop, receiving messages until cancellation or channel close. -/
def serverForever (stop : Stop) (messages : List ServiceMessage) : Run heap :=
  eventLoop heap receivers config .new heap.new stop [] messages

end Service

end PaymentsEngine
