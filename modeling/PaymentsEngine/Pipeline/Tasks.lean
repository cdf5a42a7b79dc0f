import PaymentsEngine.Infrastructure.LoadFile
import PaymentsEngine.Library.Schedule
import PaymentsEngine.Service.Accounting

/-! # The pipeline

`main` spawns the service, the loader of the file and the handler of the outcomes, and
waits for the completion signal before it writes the snapshot.  The four parties share
the service channel, the outcome channel and the oneshot of the completion signal.
Each advances from one operation that the others can observe to the next.  A task that
ends, also by an error or a panic, drops its ends of the channels: a sender or a
receiver is open exactly while one of the parties or channels holds it.
-/

namespace PaymentsEngine.Pipeline

open PaymentsEngine.Library

/-- The channel from `tx_sx` to `tx_rx`. -/
def outcomeChannel : ChannelId := 0

/-- The oneshot from `signal_sx` to `signal_rx`. -/
def completionChannel : ChannelId := 1

inductive Task where
  | server
  | loader
  | handler
  deriving DecidableEq, Repr

/-! ## The loader -/

/-- `load_file`, by what it does next. -/
inductive LoadFile where
  | opening (records : List Record)
  | reading (reader : CsvReader)
  | sending (msg : InputMessage) (reader : CsvReader)
  | completing
  | ended (outcome : Outcome Unit)

/-- What `record_callback` sends. -/
def incoming (msg : InputMessage) : ServiceMessage := .incoming msg outcomeChannel

/-- What `file_callback` sends. -/
def completion : ServiceMessage := .transactionBatchCompletion completionChannel

namespace LoadFile

def outcome : LoadFile → Option (Outcome Unit)
  | .ended outcome => some outcome
  | _ => none

/-- One operation of `load_file`, and what it puts on the service channel.  A send fails when the
    service has dropped the receiver; what it could not send counts as dropped at once, although the
    error holds it until `main` joins the loader. -/
def advance (build : Build) (listening : Bool) : LoadFile → Option (LoadFile × List ServiceMessage)
  -- That the file cannot be opened is one of the failures that may strike at any time.
  | .opening records => some (.reading (.new records), [])
  | .reading reader =>
    match reader.next build with
    | (.ok (some msg), rest) => some (.sending msg rest, [])
    | (.ok none, _) => some (.completing, [])
    | (.err error, _) => some (.ended (.err error), [])
    | (.panic, _) => some (.ended .panic, [])
  | .sending msg reader =>
    if listening then some (.reading reader, [incoming msg])
    else some (.ended (.err "channel closed"), [])
  | .completing =>
    if listening then some (.ended (.ok ()), [completion])
    else some (.ended (.err "channel closed"), [])
  | .ended _ => none

end LoadFile

/-! ## The service -/

/-- Where `handle_buffer` returns to. -/
inductive Caller where
  | incoming
  | completion (callback : ChannelId)
  | serverForever
  deriving DecidableEq, Repr

/-- `server_forever`, by what it does next. -/
inductive Server (heap : PendingHeap) where
  | receiving (buffer : heap.Carrier)
  | popping (buffer : heap.Carrier) (caller : Caller)
  | sending (tx : PendingTransaction) (res : TransactionResult) (buffer : heap.Carrier)
      (caller : Caller)
  | confirming (callback : ChannelId) (buffer : heap.Carrier)
  | ended (outcome : Outcome Unit)

namespace Server

variable {heap : PendingHeap}

def outcome : Server heap → Option (Outcome Unit)
  | .ended outcome => some outcome
  | _ => none

/-- The transactions in the heap. -/
def buffered : Server heap → Multiset PendingTransaction
  | .receiving buffer | .popping buffer _ | .sending _ _ buffer _ | .confirming _ buffer =>
    heap.contents buffer
  | .ended _ => 0

/-- Whether a callback of a transaction is still held. -/
def holdsOutcomeSender : Server heap → Bool
  | .receiving buffer | .popping buffer _ | .confirming _ buffer => heap.len buffer ≠ 0
  | .sending _ _ _ _ => true
  | .ended _ => false

/-- Whether the callback of a completion signal is still held. -/
def holdsSignalSender : Server heap → Bool
  | .popping _ (.completion _) | .sending _ _ _ (.completion _) | .confirming _ _ => true
  | _ => false

def returnTo (buffer : heap.Carrier) : Caller → Server heap
  | .incoming => .receiving buffer
  | .completion callback => .confirming callback buffer
  | .serverForever => .ended (.ok ())

/-- `iteration` up to its call of `handle_buffer`. -/
def receive (config : ServiceConfig) (buffer : heap.Carrier) : ServiceMessage → Server heap
  | .incoming m c =>
    let buffer := heap.push { message := m, callback := c } buffer
    if heap.len buffer ≥ config.batchSize then .popping buffer .incoming else .receiving buffer
  | .transactionBatchCompletion callback => .popping buffer (.completion callback)

/-- How the service goes on when a send has returned. -/
def sent (next : Server heap) : AnyResult × World → World × Server heap
  | (.ok (), world) => (world, next)
  | (.error error, world) => (world, .ended (.err error))

/-- One operation of the service between two messages. -/
def advance (receivers : Receivers) (world : World) : Server heap → Option (World × Server heap)
  | .popping buffer caller =>
    match heap.pop buffer with
    | none => some (world, returnTo buffer caller)
    | some (tx, rest) =>
      let answered := Service.apply world tx.message
      some (answered.2, .sending tx answered.1 rest caller)
  | .sending tx res buffer caller =>
    some (sent (.popping buffer caller) (Service.send receivers world tx.callback
      (.resolved tx.callback (tx.message.clientId, tx.message.transactionId, res))
      "Failed to send transaction resolution callback due to closed receiver"))
  | .confirming callback buffer =>
    some (sent (.receiving buffer) (Service.send receivers world callback (.completed callback)
      "Failed to send callback due to closed receiver"))
  | .receiving _ | .ended _ => none

end Server

/-! ## The outcome handler and `main` -/

/-- The loop over the outcomes; `handled` of them have been read. -/
inductive Handler where
  | receiving (handled : Nat)
  | ended (outcome : Outcome Unit)

def Handler.outcome : Handler → Option (Outcome Unit)
  | .ended outcome => some outcome
  | _ => none

/-- `main` waits for one of `tasks` or for the signal, writes the snapshot, and returns. -/
inductive Main where
  | waiting (tasks : List Task)
  | writingSnapshot
  | returned (result : AnyResult)
  deriving DecidableEq

def Main.isRunning : Main → Bool
  | .returned _ => false
  | _ => true

/-! ## All parties -/

/-- `received` has the messages that the service took from the channel. -/
structure State (heap : PendingHeap) where
  loader : LoadFile
  server : Server heap
  handler : Handler
  main : Main
  channel : List ServiceMessage
  received : List ServiceMessage
  world : World
  cancelled : Bool

inductive Action where
  | advance (task : Task)
  /-- The service leaves its loop: it is cancelled, or the channel is closed. -/
  | leaveLoop
  /-- A task stops with an error or a panic. -/
  | fail (task : Task) (failure : Outcome Unit)
  | join (task : Task)
  | signal
  | writeSnapshot (result : AnyResult)
  deriving DecidableEq

def Action.isFailure : Action → Bool
  | .fail _ _ => true
  | _ => false

namespace State

variable {heap : PendingHeap}

/-- The three tasks are spawned, and `main` waits for them. -/
def initial (heap : PendingHeap) (file : List Record) : State heap where
  loader := .opening file
  server := .receiving heap.new
  handler := .receiving 0
  main := .waiting [.server, .loader, .handler]
  channel := []
  received := []
  world := .new
  cancelled := false

def outcome (s : State heap) : Task → Option (Outcome Unit)
  | .server => s.server.outcome
  | .loader => s.loader.outcome
  | .handler => s.handler.outcome

/-- Whether the service still holds the receiver of its channel. -/
def listening (s : State heap) : Bool := s.server.outcome.isNone

/-- The receivers that the service sends to. -/
def receivers (s : State heap) : Receivers :=
  .fixed fun callback =>
    if callback = outcomeChannel then s.handler.outcome.isNone else s.main.isRunning

/-- `main` keeps a sender of the service channel, and the loader has the two others. -/
def serviceSenderHeld (s : State heap) : Bool := s.main.isRunning || s.loader.outcome.isNone

def outcomeSenderHeld (s : State heap) : Bool :=
  s.loader.outcome.isNone || !(pendingOf s.channel).isEmpty || s.server.holdsOutcomeSender

def signalSenderHeld (s : State heap) : Bool :=
  s.loader.outcome.isNone || s.channel.contains completion || s.server.holdsSignalSender

def acknowledged (s : State heap) : Bool := s.world.sent.contains (.completed completionChannel)

/-- The service goes on as `server`; when it has ended, its channel and what is in it are gone. -/
def withServer (s : State heap) (server : Server heap) : State heap :=
  { s with server := server, channel := if server.outcome.isNone then s.channel else [] }

def stop (s : State heap) (failure : Outcome Unit) : Task → State heap
  | .server => s.withServer (.ended failure)
  | .loader => { s with loader := .ended failure }
  | .handler => { s with handler := .ended failure }

def advance (config : ServiceConfig) (build : Build) (s : State heap) : Task → Option (State heap)
  | .loader =>
    (s.loader.advance build s.listening).map fun advanced =>
      { s with loader := advanced.1, channel := s.channel ++ advanced.2 }
  | .server =>
    match s.server with
    | .receiving buffer =>
      match s.channel with
      | [] => none
      | msg :: channel => some { s with
          server := .receive config buffer msg, channel := channel, received := s.received ++ [msg] }
    | server =>
      (server.advance s.receivers s.world).map fun advanced =>
        { s with world := advanced.1 }.withServer advanced.2
  | .handler =>
    match s.handler with
    | .receiving handled =>
      if handled < (s.world.sent.filterMap Event.resolution).length then
        some { s with handler := .receiving (handled + 1) }
      else if s.outcomeSenderHeld then none
      else some { s with handler := .ended (.ok ()) }
    | .ended _ => none

def step (config : ServiceConfig) (build : Build) (action : Action) (s : State heap) :
    Option (State heap) :=
  match action with
  | .advance task => s.advance config build task
  | .leaveLoop =>
    match s.server with
    | .receiving buffer =>
      if s.cancelled || (s.channel.isEmpty && !s.serviceSenderHeld) then
        some { s with server := .popping buffer .serverForever }
      else none
    | _ => none
  | .fail task failure =>
    if failure ≠ .ok () ∧ s.outcome task = none then some (s.stop failure task) else none
  | .join task =>
    match s.main with
    | .waiting tasks =>
      if task ∈ tasks ∧ s.outcome task ≠ none then
        -- `while !tasks.is_empty()`
        some { s with main :=
          if tasks.erase task = [] then .returned (.ok ()) else .waiting (tasks.erase task) }
      else none
    | _ => none
  | .signal =>
    match s.main with
    | .waiting _ =>
      if s.acknowledged then some { s with main := .writingSnapshot }
      else if s.signalSenderHeld then none
      else some { s with main := .returned (.error "channel closed") }
    | _ => none
  | .writeSnapshot result =>
    match s.main with
    | .writingSnapshot =>
      -- `svc.write_snapshot(..).await?`, then `ctx.cancel()`
      some { s with main := .returned result, cancelled := s.cancelled || result.isOk }
    | _ => none

end State

end PaymentsEngine.Pipeline
