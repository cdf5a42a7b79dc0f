import PaymentsEngine.Pipeline.Snapshot

/-! # When the service and the handler do not fail

As long as neither of them is struck by a failure, no send of the service is lost: the
handler keeps the receiver of the outcomes as long as somebody can send one, and `main`
keeps that of the signal.  So the service leaves its loop only when `main` has returned,
and `main` goes by the signal.  The loader may fail.
-/

namespace PaymentsEngine.Pipeline

open PaymentsEngine.Library PaymentsEngine.Library.Schedule PaymentsEngine.Library.Machine

variable {heap : PendingHeap} {config : ServiceConfig} {build : Build} {file : List Record}
variable {s t : State heap}

/-! ## The service, when its receivers are open -/

/-- A message for the two receivers of the pipeline. -/
def Own : ServiceMessage → Prop
  | .incoming _ callback => callback = outcomeChannel
  | .transactionBatchCompletion callback => callback = completionChannel

def Caller.Own : Caller → Prop
  | .completion callback => callback = completionChannel
  | .incoming | .serverForever => True

def Caller.closing : Caller → Bool
  | .serverForever => true
  | .incoming | .completion _ => false

namespace Server

/-- The service holds callbacks of the pipeline only. -/
def Own (server : Server heap) : Prop :=
  (∀ tx ∈ server.buffered, tx.callback = outcomeChannel) ∧
    match server with
    | .popping _ caller => caller.Own
    | .sending tx _ _ caller => tx.callback = outcomeChannel ∧ caller.Own
    | .confirming callback _ => callback = completionChannel
    | .receiving _ | .ended _ => True

/-- The service has left its loop. -/
def closing : Server heap → Bool
  | .popping _ caller | .sending _ _ _ caller => caller.closing
  | .ended _ => true
  | .receiving _ | .confirming _ _ => false

theorem closing_of_ended {server : Server heap} (ended : server.outcome ≠ none) :
    server.closing = true := by
  cases server with
  | ended outcome => rfl
  | receiving | popping | sending | confirming => exact absurd rfl ended

/-- An operation of the service whose send goes through. -/
inductive Serves (world : World) : Server heap → World → Server heap → Prop where
  | returns {buffer : heap.Carrier} (caller : Caller) (empty : heap.contents buffer = 0) :
      Serves world (.popping buffer caller) world (returnTo buffer caller)
  | applies {buffer rest : heap.Carrier} {tx : PendingTransaction} (caller : Caller)
      (popped : heap.pop buffer = some (tx, rest)) :
      Serves world (.popping buffer caller) (Service.apply world tx.message).2
        (.sending tx (Service.apply world tx.message).1 rest caller)
  | answers (tx : PendingTransaction) (res : TransactionResult) (buffer : heap.Carrier)
      (caller : Caller) :
      Serves world (.sending tx res buffer caller)
        { world with sent := world.sent ++
          [.resolved tx.callback (tx.message.clientId, tx.message.transactionId, res)] }
        (.popping buffer caller)
  | confirms (callback : ChannelId) (buffer : heap.Carrier) :
      Serves world (.confirming callback buffer)
        { world with sent := world.sent ++ [.completed callback] } (.receiving buffer)

variable {receivers : Receivers} {world next : World} {server following : Server heap}
variable {received : List ServiceMessage}

theorem serves_of_advance
    (listening : ∀ tx res buffer caller, server = .sending tx res buffer caller →
      receivers.isOpen world.sent.length tx.callback = true)
    (waiting : ∀ callback buffer, server = .confirming callback buffer →
      receivers.isOpen world.sent.length callback = true)
    (advanced : server.advance receivers world = some (next, following)) :
    server.Serves world next following := by
  cases server with
  | receiving buffer => cases advanced
  | popping buffer caller =>
    rw [advance] at advanced
    split at advanced
    next popped =>
      cases advanced
      exact .returns caller (heap.contents_pop_none _ popped)
    next tx rest popped =>
      cases advanced
      exact .applies caller popped
  | sending tx res buffer caller =>
    have isOpen := listening tx res buffer caller rfl
    simp only [advance, Service.send, isOpen, if_true, sent, Option.some.injEq, Prod.mk.injEq]
      at advanced
    obtain ⟨rfl, rfl⟩ := advanced
    exact .answers tx res buffer caller
  | confirming callback buffer =>
    have isOpen := waiting callback buffer rfl
    simp only [advance, Service.send, isOpen, if_true, sent, Option.some.injEq, Prod.mk.injEq]
      at advanced
    obtain ⟨rfl, rfl⟩ := advanced
    exact .confirms callback buffer
  | ended outcome => cases advanced

theorem Serves.own (serves : server.Serves world next following) (own : server.Own) :
    following.Own := by
  obtain ⟨buffered, held⟩ := own
  cases serves with
  | returns caller empty =>
    cases caller with
    | incoming => exact ⟨buffered, trivial⟩
    | completion callback => exact ⟨buffered, held⟩
    | serverForever => exact ⟨by simp [returnTo, Server.buffered], trivial⟩
  | @applies buffer rest tx caller popped =>
    rw [Server.buffered, heap.contents_pop_some _ _ _ popped, Multiset.forall_mem_cons] at buffered
    exact ⟨buffered.2, buffered.1, held⟩
  | answers tx res buffer caller => exact ⟨buffered, held.2⟩
  | confirms callback buffer => exact ⟨buffered, trivial⟩

theorem Serves.closing_eq (serves : server.Serves world next following) :
    following.closing = server.closing := by
  cases serves with
  | returns caller empty => cases caller <;> rfl
  | applies | answers | confirms => rfl

theorem Serves.holdsOutcomeSender (serves : server.Serves world next following)
    (held : following.holdsOutcomeSender = true) : server.holdsOutcomeSender = true := by
  cases serves with
  | returns caller empty =>
    cases caller with
    | incoming | completion callback => exact held
    | serverForever => cases held
  | @applies buffer rest tx caller popped =>
    have shorter := heap.len_pop popped
    simp only [Server.holdsOutcomeSender, decide_eq_true_eq]
    omega
  | answers tx res buffer caller => rfl
  | confirms callback buffer => exact held

theorem Serves.holdsSignalSender (serves : server.Serves world next following) :
    following.holdsSignalSender = true → server.holdsSignalSender = true := by
  intro held
  cases serves with
  | returns caller empty => cases caller <;> first | rfl | cases held
  | applies caller popped => cases caller <;> first | rfl | cases held
  | answers tx res buffer caller => cases caller <;> first | rfl | cases held
  | confirms callback buffer => rfl

/-- The signal that the service has is acknowledged before it is dropped. -/
theorem Serves.signalled (serves : server.Serves world next following) (own : server.Own)
    (held : server.holdsSignalSender = true) :
    following.holdsSignalSender = true ∨ .completed completionChannel ∈ next.sent := by
  cases serves with
  | returns caller empty => cases caller <;> first | exact .inl rfl | cases held
  | applies caller popped => cases caller <;> first | exact .inl rfl | cases held
  | answers tx res buffer caller => cases caller <;> first | exact .inl rfl | cases held
  | confirms callback buffer =>
    obtain ⟨_, rfl⟩ := own
    simp

theorem Serves.sent_prefix (serves : server.Serves world next following) :
    world.sent <+: next.sent := by
  cases serves with
  | returns | applies => exact List.prefix_rfl
  | answers | confirms => exact List.prefix_append _ _

theorem Own.receive {buffer : heap.Carrier} {msg : ServiceMessage} (own : (receiving buffer).Own)
    (ownMsg : Pipeline.Own msg) : (Server.receive config buffer msg).Own := by
  cases msg with
  | incoming m c =>
    have pushed : ∀ tx ∈ heap.contents (heap.push ⟨m, c⟩ buffer), tx.callback = outcomeChannel := by
      rw [heap.contents_push, Multiset.forall_mem_cons]
      exact ⟨ownMsg, own.1⟩
    simp only [Server.receive]
    split
    · exact ⟨pushed, trivial⟩
    · exact ⟨pushed, trivial⟩
  | transactionBatchCompletion callback => exact ⟨own.1, ownMsg⟩

theorem closing_receive (config : ServiceConfig) (buffer : heap.Carrier) (msg : ServiceMessage) :
    (receive config buffer msg).closing = false := by
  cases msg with
  | incoming m c => simp only [receive]; split <;> rfl
  | transactionBatchCompletion callback => rfl

/-- The service takes over the sender of the signal with the completion. -/
theorem holdsSignalSender_receive {buffer : heap.Carrier} {msg : ServiceMessage}
    (own : Pipeline.Own msg) :
    (receive config buffer msg).holdsSignalSender = true ↔ msg = completion := by
  cases msg with
  | incoming m c =>
    simp only [receive, completion, reduceCtorEq, iff_false]
    split <;> simp [holdsSignalSender]
  | transactionBatchCompletion callback =>
    have callback := own.symm
    simp [receive, holdsSignalSender, completion, callback]

/-- And a sender of outcomes with a transaction. -/
theorem pending_of_receive {buffer : heap.Carrier} {msg : ServiceMessage}
    {channel : List ServiceMessage}
    (held : (receive config buffer msg).holdsOutcomeSender = true) :
    pendingOf (msg :: channel) ≠ [] ∨ (Server.receiving buffer).holdsOutcomeSender = true := by
  cases msg with
  | incoming m c => simp [pendingOf]
  | transactionBatchCompletion callback => exact .inr held

theorem Idle.holdsSignalSender (idle : server.Idle) : server.holdsSignalSender = false := by
  cases server with
  | popping buffer caller =>
    cases caller with
    | serverForever => rfl
    | incoming | completion => cases idle
  | sending | confirming => cases idle
  | receiving | ended => rfl

/-- What was received is applied or in the heap, all of it applied when the service has returned. -/
def Kept (world : World) (received : List ServiceMessage) : Server heap → Prop
  | .ended _ => Service.Accounted heap world heap.new received [] ∧
      (Numbered (incomingMessages received) → Pipeline.InOrder heap world received heap.new)
  | server => server.Accounted world received ∧
      (Numbered (incomingMessages received) → server.InOrder world received)

theorem kept_of_running (running : server.outcome = none) (accounted : server.Accounted world received)
    (inOrder : Numbered (incomingMessages received) → server.InOrder world received) :
    server.Kept world received := by
  cases server with
  | receiving | popping | sending | confirming => exact ⟨accounted, inOrder⟩
  | ended outcome => cases running

theorem Serves.kept (serves : server.Serves world next following) (kept : server.Kept world received) :
    following.Kept next received := by
  cases serves with
  | returns caller empty =>
    obtain ⟨⟨accounted, called⟩, inOrder⟩ := kept
    cases caller with
    | incoming => exact ⟨accounted, inOrder⟩
    | completion callback => exact ⟨⟨accounted, empty, called⟩, inOrder⟩
    | serverForever =>
      refine ⟨⟨?_, accounted.accounts, accounted.outcomes⟩, ?_⟩
      · rw [heap.contents_new, ← accounted.messages, empty]
      · intro numbered
        exact ⟨[], heap.contents_new, by simp [inOrder_empty (inOrder numbered) empty]⟩
  | applies caller popped =>
    obtain ⟨⟨accounted, called⟩, inOrder⟩ := kept
    refine ⟨⟨accounted_popped popped accounted, called⟩, ?_⟩
    intro numbered
    exact inOrder_popped (inOrder numbered) numbered popped
  | answers tx res buffer caller =>
    obtain ⟨⟨accounted, called⟩, inOrder⟩ := kept
    exact ⟨⟨accounted_sent accounted, called⟩, inOrder⟩
  | confirms callback buffer =>
    obtain ⟨⟨accounted, _, _⟩, inOrder⟩ := kept
    exact ⟨accounted_confirmed accounted, inOrder⟩

theorem Kept.receive {buffer : heap.Carrier} {msg : ServiceMessage}
    (kept : (receiving buffer).Kept world received) :
    (Server.receive config buffer msg).Kept world (received ++ [msg]) := by
  obtain ⟨accounted, inOrder⟩ := kept
  refine kept_of_running ?_ (Accounted.receive accounted) ?_
  · cases msg with
    | incoming m c => simp only [Server.receive]; split <;> rfl
    | transactionBatchCompletion callback => rfl
  · intro numbered
    rw [incomingMessages_append] at numbered
    exact Server.InOrder.receive (inOrder (List.pairwise_append.mp numbered).1)

end Server

/-! ## The actions -/

/-- A failure of the service or of the handler. -/
def Action.disturbs : Action → Bool
  | .fail .server _ | .fail .handler _ => true
  | _ => false

/-- Where `main` goes on with the tasks that are left. -/
def Main.joined (left : List Task) : Main := if left = [] then .returned (.ok ()) else .waiting left

namespace State

/-- What an action that does not disturb can do, with what has to hold for it. -/
inductive Goes (config : ServiceConfig) (build : Build) (s : State heap) : Action → State heap → Prop where
  | loads {loader : LoadFile} {posted : List ServiceMessage}
      (advanced : s.loader.advance build s.listening = some (loader, posted)) :
      Goes config build s (.advance .loader)
        { s with loader := loader, channel := s.channel ++ posted }
  | loaderFails {failure : Outcome Unit} (failed : failure ≠ .ok ()) (running : s.loader.outcome = none) :
      Goes config build s (.fail .loader failure) { s with loader := .ended failure }
  | receives {buffer : heap.Carrier} {msg : ServiceMessage} {channel : List ServiceMessage}
      (receiving : s.server = .receiving buffer) (queued : s.channel = msg :: channel) :
      Goes config build s (.advance .server) { s with
        server := .receive config buffer msg, channel := channel, received := s.received ++ [msg] }
  | serves {world : World} {server : Server heap}
      (advanced : s.server.advance s.receivers s.world = some (world, server)) :
      Goes config build s (.advance .server) ({ s with world := world }.withServer server)
  | leavesLoop {buffer : heap.Carrier} (receiving : s.server = .receiving buffer)
      (leaves : s.cancelled = true ∨
        s.channel = [] ∧ s.main.isRunning = false ∧ s.loader.outcome ≠ none) :
      Goes config build s .leaveLoop { s with server := .popping buffer .serverForever }
  | handles {handled : Nat} (receiving : s.handler = .receiving handled)
      (unread : handled < (s.world.sent.filterMap Event.resolution).length) :
      Goes config build s (.advance .handler) { s with handler := .receiving (handled + 1) }
  | handlerReturns {handled : Nat} (receiving : s.handler = .receiving handled)
      (read : (s.world.sent.filterMap Event.resolution).length ≤ handled)
      (dropped : s.outcomeSenderHeld = false) :
      Goes config build s (.advance .handler) { s with handler := .ended (.ok ()) }
  | joins {tasks : List Task} {task : Task} (waiting : s.main = .waiting tasks)
      (ended : s.outcome task ≠ none) :
      Goes config build s (.join task) { s with main := .joined (tasks.erase task) }
  | isSignalled {tasks : List Task} (waiting : s.main = .waiting tasks)
      (acknowledged : s.acknowledged = true) :
      Goes config build s .signal { s with main := .writingSnapshot }
  | signalDropped {tasks : List Task} (waiting : s.main = .waiting tasks)
      (unacknowledged : s.acknowledged = false) (dropped : s.signalSenderHeld = false) :
      Goes config build s .signal { s with main := .returned (.error "channel closed") }
  | writes {result : AnyResult} (writing : s.main = .writingSnapshot) :
      Goes config build s (.writeSnapshot result)
        { s with main := .returned result, cancelled := s.cancelled || result.isOk }

theorem goes_of_advance {task : Task} (taken : s.advance config build task = some t) :
    Goes config build s (.advance task) t := by
  cases task with
  | loader =>
    obtain ⟨⟨loader, posted⟩, advanced, rfl⟩ := Option.map_eq_some_iff.mp taken
    exact .loads advanced
  | server =>
    rw [advance] at taken
    split at taken
    next buffer receiving =>
      split at taken
      next => cases taken
      next msg channel queued => cases taken; exact .receives receiving queued
    next =>
      obtain ⟨⟨world, server⟩, advanced, rfl⟩ := Option.map_eq_some_iff.mp taken
      exact .serves advanced
  | handler =>
    rw [advance] at taken
    split at taken
    next handled receiving =>
      split at taken
      next unread => cases taken; exact .handles receiving unread
      next read =>
        split at taken
        next => cases taken
        next dropped =>
          cases taken
          exact .handlerReturns receiving (by omega) (by simpa using dropped)
    next => cases taken

theorem goes_of_step {action : Action} (regular : action.disturbs = false)
    (taken : step config build action s = some t) : Goes config build s action t := by
  cases action with
  | advance task => exact goes_of_advance taken
  | leaveLoop =>
    rw [step] at taken
    split at taken
    next buffer receiving =>
      obtain ⟨leaves, left⟩ := Option.ite_none_right_eq_some.mp taken
      cases left
      refine .leavesLoop receiving ?_
      simpa [serviceSenderHeld, Option.isSome_iff_ne_none] using leaves
    next => cases taken
  | fail task failure =>
    obtain ⟨⟨failed, running⟩, stopped⟩ := Option.ite_none_right_eq_some.mp taken
    cases stopped
    cases task with
    | loader => exact .loaderFails failed running
    | server | handler => cases regular
  | join task =>
    rw [step] at taken
    split at taken
    next tasks waiting =>
      obtain ⟨⟨_, ended⟩, joined⟩ := Option.ite_none_right_eq_some.mp taken
      cases joined
      exact .joins waiting ended
    next => cases taken
  | signal =>
    rw [step] at taken
    split at taken
    next tasks waiting =>
      split at taken
      next acknowledged => cases taken; exact .isSignalled waiting acknowledged
      next unacknowledged =>
        split at taken
        next => cases taken
        next dropped =>
          cases taken
          exact .signalDropped waiting (by simpa using unacknowledged) (by simpa using dropped)
    next => cases taken
  | writeSnapshot result =>
    rw [step] at taken
    split at taken
    next writing => cases taken; exact .writes writing
    next => cases taken

/-- And one that disturbs stops a task. -/
theorem stops_of_step {action : Action} (disturbs : action.disturbs = true)
    (taken : step config build action s = some t) :
    ∃ task failure, action = .fail task failure ∧ t = s.stop failure task := by
  cases action with
  | fail task failure =>
    obtain ⟨_, stopped⟩ := Option.ite_none_right_eq_some.mp taken
    cases stopped
    exact ⟨task, failure, rfl, rfl⟩
  | advance | leaveLoop | join | signal | writeSnapshot => cases disturbs

theorem Goes.takes {action : Action} (goes : s.Goes config build action t) : s.Takes config build t := by
  cases goes with
  | loads advanced => exact .loads advanced
  | @loaderFails failure failed running => exact @Takes.fails _ _ _ _ .loader failure failed running
  | receives receiving queued => exact .receives receiving queued
  | serves advanced => exact .serves advanced
  | leavesLoop receiving leaves => exact .leavesLoop receiving
  | handles receiving unread => exact .handles _
  | handlerReturns receiving read dropped => exact .handles _
  | joins waiting ended =>
    refine .goesOn s.cancelled ?_
    rw [Main.joined]
    split <;> intro writing <;> cases writing
  | isSignalled waiting acknowledged =>
    exact .goesOn s.cancelled fun _ => List.contains_iff_mem.mp acknowledged
  | signalDropped waiting unacknowledged dropped =>
    exact .goesOn s.cancelled fun writing => by cases writing
  | writes writing => exact .goesOn _ fun writing => by cases writing

theorem signalSenderHeld_eq_false : s.signalSenderHeld = false ↔
    s.loader.outcome ≠ none ∧ completion ∉ s.channel ∧ s.server.holdsSignalSender = false := by
  simp [signalSenderHeld, Option.isSome_iff_ne_none, and_assoc]

/-- The signal is on its way when the loader has sent it. -/
theorem signalSenderHeld_of_ended {outcome : Outcome Unit} (ended : s.loader = .ended outcome) :
    s.signalSenderHeld = true ↔ completion ∈ s.channel ∨ s.server.holdsSignalSender = true := by
  have loaded : s.loader.outcome = some outcome := by rw [ended]; rfl
  simp [signalSenderHeld, loaded]

theorem outcomeSenderHeld_eq_false : s.outcomeSenderHeld = false ↔
    s.loader.outcome ≠ none ∧ pendingOf s.channel = [] ∧ s.server.holdsOutcomeSender = false := by
  simp [outcomeSenderHeld, Option.isSome_iff_ne_none, and_assoc]

/-- Nobody has lost a receiver that is still needed, and the service is there as long as `main`
    runs. -/
structure Undisturbed (s : State heap) : Prop where
  own : ∀ msg ∈ s.channel, Own msg
  server : s.server.Own
  closing : s.server.closing = true →
    s.loader.outcome ≠ none ∧ s.channel = [] ∧ s.main.isRunning = false
  returned : s.main.isRunning = false → s.signalSenderHeld = false
  handled : s.handler.outcome ≠ none → s.outcomeSenderHeld = false
  joined : ∀ tasks, s.main = .waiting tasks → .server ∈ tasks
  signalled : s.loader = .ended (.ok ()) → s.acknowledged = true ∨ s.signalSenderHeld = true
  cancelled : s.cancelled = true → s.acknowledged = true ∧ s.main.isRunning = false
  kept : s.server.Kept s.world s.received

namespace Undisturbed

theorem initial (heap : PendingHeap) (file : List Record) : (State.initial heap file).Undisturbed where
  own := by intro msg member; cases member
  server := ⟨by simp [State.initial, Server.buffered, heap.contents_new], trivial⟩
  closing := by intro closing; cases closing
  returned := by intro returned; cases returned
  handled := by intro ended; exact absurd rfl ended
  joined := by
    intro tasks waiting
    cases waiting
    simp
  signalled := by intro ended; cases ended
  cancelled := by intro cancelled; cases cancelled
  kept := ⟨Service.accounted_new heap, fun _ => ⟨[], heap.contents_new, rfl⟩⟩

variable (undisturbed : s.Undisturbed)

include undisturbed

/-- The service listens as long as the loader has something to send. -/
theorem listening (running : s.loader.outcome = none) : s.listening = true := by
  rw [State.listening, Option.isNone_iff_eq_none]
  by_contra ended
  exact (undisturbed.closing (Server.closing_of_ended ended)).1 running

/-- No send of the service fails. -/
theorem serves {world : World} {server : Server heap}
    (advanced : s.server.advance s.receivers s.world = some (world, server)) :
    s.server.Serves s.world world server := by
  refine Server.serves_of_advance ?_ ?_ advanced
  · intro tx res buffer caller sending
    have own := undisturbed.server.2
    rw [sending] at own
    by_contra closed
    have ended : s.handler.outcome ≠ none := by
      simpa [State.receivers, Receivers.fixed, own.1, Option.isSome_iff_ne_none] using closed
    have dropped := (outcomeSenderHeld_eq_false.mp (undisturbed.handled ended)).2.2
    rw [sending] at dropped
    cases dropped
  · intro callback buffer confirming
    have own := undisturbed.server.2
    rw [confirming] at own
    by_contra closed
    have returned : s.main.isRunning = false := by
      have other : completionChannel ≠ outcomeChannel := by decide
      simpa [State.receivers, Receivers.fixed, own, other] using closed
    have dropped := (signalSenderHeld_eq_false.mp (undisturbed.returned returned)).2.2
    rw [confirming] at dropped
    cases dropped

theorem afterLoads {loader : LoadFile} {posted : List ServiceMessage}
    (advanced : s.loader.advance build s.listening = some (loader, posted)) :
    { s with loader := loader, channel := s.channel ++ posted }.Undisturbed := by
  have running := LoadFile.running_of_advance advanced
  rw [undisturbed.listening running] at advanced
  -- While the loader runs everybody has to be there.
  have open' : s.server.closing = false ∧ s.main.isRunning = true ∧ s.handler.outcome = none := by
    refine ⟨?_, ?_, ?_⟩
    · by_contra closing
      exact (undisturbed.closing (by simpa using closing)).1 running
    · by_contra returned
      exact (signalSenderHeld_eq_false.mp (undisturbed.returned (by simpa using returned))).1 running
    · by_contra ended
      exact (outcomeSenderHeld_eq_false.mp (undisturbed.handled ended)).1 running
  obtain ⟨inLoop, mainRuns, handlerRuns⟩ := open'
  have posts : (∀ msg ∈ posted, Own msg) ∧ (loader = .ended (.ok ()) → completion ∈ posted) := by
    cases stage : s.loader with
    | opening records => rw [stage] at advanced; cases advanced; simp
    | reading reader =>
      rw [stage, LoadFile.advance] at advanced
      split at advanced <;> cases advanced <;> simp
    | sending msg reader => rw [stage] at advanced; cases advanced; simp [Own, incoming]
    | completing => rw [stage] at advanced; cases advanced; simp [Own, completion]
    | ended outcome => rw [stage] at running; cases running
  exact {
    own := by
      intro msg member
      obtain queued | new := List.mem_append.mp member
      · exact undisturbed.own msg queued
      · exact posts.1 msg new
    server := undisturbed.server
    closing := by intro closing; rw [inLoop] at closing; cases closing
    returned := by intro returned; rw [mainRuns] at returned; cases returned
    handled := by intro ended; exact absurd handlerRuns ended
    joined := undisturbed.joined
    signalled := by
      intro ended
      right
      simp [signalSenderHeld, posts.2 ended]
    cancelled := undisturbed.cancelled
    kept := undisturbed.kept }

theorem afterLoaderFails {failure : Outcome Unit} (failed : failure ≠ .ok ())
    (running : s.loader.outcome = none) : { s with loader := .ended failure }.Undisturbed where
  own := undisturbed.own
  server := undisturbed.server
  closing := by intro closing; exact absurd running (undisturbed.closing closing).1
  returned := by
    intro returned
    exact absurd running (signalSenderHeld_eq_false.mp (undisturbed.returned returned)).1
  handled := by
    intro ended
    exact absurd running (outcomeSenderHeld_eq_false.mp (undisturbed.handled ended)).1
  joined := undisturbed.joined
  signalled := by intro ended; cases ended; exact absurd rfl failed
  cancelled := undisturbed.cancelled
  kept := undisturbed.kept

theorem afterReceives {buffer : heap.Carrier} {msg : ServiceMessage} {channel : List ServiceMessage}
    (receiving : s.server = .receiving buffer) (queued : s.channel = msg :: channel) :
    { s with
      server := .receive config buffer msg
      channel := channel
      received := s.received ++ [msg] }.Undisturbed := by
  have own := undisturbed.own
  rw [queued, List.forall_mem_cons] at own
  have server := undisturbed.server
  have kept := undisturbed.kept
  rw [receiving] at server kept
  exact {
    own := own.2
    server := server.receive own.1
    closing := by intro closing; rw [Server.closing_receive] at closing; cases closing
    returned := by
      intro returned
      obtain ⟨loaded, unsignalled, _⟩ := signalSenderHeld_eq_false.mp (undisturbed.returned returned)
      rw [queued, List.mem_cons, not_or] at unsignalled
      refine signalSenderHeld_eq_false.mpr ⟨loaded, unsignalled.2, ?_⟩
      by_contra held
      exact unsignalled.1 ((Server.holdsSignalSender_receive own.1).mp (by simpa using held)).symm
    handled := by
      intro ended
      obtain ⟨loaded, none, dropped⟩ := outcomeSenderHeld_eq_false.mp (undisturbed.handled ended)
      rw [queued] at none
      rw [receiving] at dropped
      refine outcomeSenderHeld_eq_false.mpr ⟨loaded, ?_, ?_⟩
      · cases msg with
        | incoming m c => cases none
        | transactionBatchCompletion callback => exact none
      · by_contra held
        obtain some | held := Server.pending_of_receive (by simpa using held)
        · exact some none
        · rw [dropped] at held; cases held
    joined := undisturbed.joined
    signalled := by
      intro ended
      refine (undisturbed.signalled ended).imp_right ?_
      intro held
      have loaded : s.loader = .ended (.ok ()) := ended
      obtain queuedSignal | serverSignal := (signalSenderHeld_of_ended loaded).mp held
      · rw [queued, List.mem_cons] at queuedSignal
        obtain same | later := queuedSignal
        · exact (signalSenderHeld_of_ended ended).mpr
            (.inr ((Server.holdsSignalSender_receive own.1).mpr same.symm))
        · exact (signalSenderHeld_of_ended ended).mpr (.inl later)
      · rw [receiving] at serverSignal
        cases serverSignal
    cancelled := undisturbed.cancelled
    kept := kept.receive }

/-- The channel of a service that ends is empty already. -/
theorem withServer_eq {world next : World} {server : Server heap}
    (serves : s.server.Serves world next server) :
    ({ s with world := next } : State heap).withServer server =
      { s with world := next, server := server } := by
  cases ended : server.outcome with
  | none => simp [withServer, ended]
  | some outcome =>
    have closing : server.closing = true := Server.closing_of_ended (by simp [ended])
    have drained := (undisturbed.closing (serves.closing_eq ▸ closing)).2.1
    simp [withServer, ended, drained]

theorem afterServes {world : World} {server : Server heap}
    (serves : s.server.Serves s.world world server) :
    { s with world := world, server := server }.Undisturbed := by
  have acknowledged : s.acknowledged = true →
      ({ s with world := world, server := server } : State heap).acknowledged = true := by
    simp only [State.acknowledged, List.contains_iff_mem]
    exact fun member => serves.sent_prefix.subset member
  exact {
    own := undisturbed.own
    server := serves.own undisturbed.server
    closing := by
      intro closing
      rw [serves.closing_eq] at closing
      exact undisturbed.closing closing
    returned := by
      intro returned
      obtain ⟨loaded, unsignalled, dropped⟩ :=
        signalSenderHeld_eq_false.mp (undisturbed.returned returned)
      refine signalSenderHeld_eq_false.mpr ⟨loaded, unsignalled, ?_⟩
      by_contra held
      rw [serves.holdsSignalSender (by simpa using held)] at dropped
      cases dropped
    handled := by
      intro ended
      obtain ⟨loaded, none, dropped⟩ := outcomeSenderHeld_eq_false.mp (undisturbed.handled ended)
      refine outcomeSenderHeld_eq_false.mpr ⟨loaded, none, ?_⟩
      by_contra held
      rw [serves.holdsOutcomeSender (by simpa using held)] at dropped
      cases dropped
    joined := undisturbed.joined
    signalled := by
      intro ended
      have loaded : s.loader = .ended (.ok ()) := ended
      rw [signalSenderHeld_of_ended ended]
      obtain done | held := undisturbed.signalled ended
      · exact .inl (acknowledged done)
      · obtain queued | holds := (signalSenderHeld_of_ended loaded).mp held
        · exact .inr (.inl queued)
        · obtain holds | done := serves.signalled undisturbed.server holds
          · exact .inr (.inr holds)
          · exact .inl (List.contains_iff_mem.mpr done)
    cancelled := by
      intro cancelled
      exact (undisturbed.cancelled cancelled).imp_left acknowledged
    kept := serves.kept undisturbed.kept }

theorem afterLeavesLoop {buffer : heap.Carrier} (receiving : s.server = .receiving buffer)
    (leaves : s.loader.outcome ≠ none ∧ s.channel = [] ∧ s.main.isRunning = false) :
    { s with server := .popping buffer .serverForever }.Undisturbed := by
  obtain ⟨own, server, closing, returned, handled, joined, signalled, cancelled, kept⟩ := undisturbed
  rw [receiving] at server kept
  simp only [signalSenderHeld, outcomeSenderHeld, receiving] at returned handled signalled
  exact ⟨own, ⟨server.1, trivial⟩, fun _ => leaves, returned, handled, joined, signalled, cancelled,
    ⟨kept.1, trivial⟩, kept.2⟩

/-- `main` goes on, and the service is still in its loop. -/
theorem afterMain {main : Main} {cancelled : Bool} (running : s.main.isRunning = true)
    (returned : main.isRunning = false → s.signalSenderHeld = false)
    (joined : ∀ tasks, main = .waiting tasks → .server ∈ tasks)
    (wasCancelled : cancelled = true → s.acknowledged = true ∧ main.isRunning = false) :
    { s with main := main, cancelled := cancelled }.Undisturbed where
  own := undisturbed.own
  server := undisturbed.server
  closing := by
    intro closing
    rw [(undisturbed.closing closing).2.2] at running
    cases running
  returned := returned
  handled := undisturbed.handled
  joined := joined
  signalled := undisturbed.signalled
  cancelled := wasCancelled
  kept := undisturbed.kept

theorem afterHandler {handler : Handler}
    (handled : handler.outcome ≠ none → s.outcomeSenderHeld = false) :
    { s with handler := handler }.Undisturbed :=
  ⟨undisturbed.own, undisturbed.server, undisturbed.closing, undisturbed.returned, handled,
    undisturbed.joined, undisturbed.signalled, undisturbed.cancelled, undisturbed.kept⟩

/-- While `main` waits the service has not ended, so it is still to be joined. -/
theorem server_left {tasks : List Task} {task : Task} (waiting : s.main = .waiting tasks)
    (ended : s.outcome task ≠ none) : .server ∈ tasks.erase task := by
  refine (List.mem_erase_of_ne ?_).mpr (undisturbed.joined tasks waiting)
  intro same
  rw [← same] at ended
  have returned := (undisturbed.closing (Server.closing_of_ended ended)).2.2
  rw [waiting] at returned
  cases returned

theorem goes {action : Action} (progress : Working build file s ∨ Complete build file s)
    (goes : s.Goes config build action t) : t.Undisturbed := by
  have complete : s.acknowledged = true → Complete build file s := by
    intro acknowledged
    obtain working | complete := progress
    · exact absurd (List.contains_iff_mem.mp acknowledged) working.unacknowledged
    · exact complete
  cases goes with
  | loads advanced => exact undisturbed.afterLoads advanced
  | loaderFails failed running => exact undisturbed.afterLoaderFails failed running
  | receives receiving queued => exact undisturbed.afterReceives receiving queued
  | serves advanced =>
    have serves := undisturbed.serves advanced
    rw [undisturbed.withServer_eq serves]
    exact undisturbed.afterServes serves
  | leavesLoop receiving leaves =>
    refine undisturbed.afterLeavesLoop receiving ?_
    obtain cancelled | ⟨drained, returned, loaded⟩ := leaves
    · obtain ⟨acknowledged, returned⟩ := undisturbed.cancelled cancelled
      have done := complete acknowledged
      exact ⟨by simp [done.loaded, LoadFile.outcome], done.channel, returned⟩
    · exact ⟨loaded, drained, returned⟩
  | handles receiving unread =>
    refine undisturbed.afterHandler ?_
    intro ended
    exact absurd rfl ended
  | handlerReturns receiving read dropped => exact undisturbed.afterHandler fun _ => dropped
  | @joins tasks task waiting ended =>
    have running : s.main.isRunning = true := by rw [waiting]; rfl
    have other := undisturbed.server_left waiting ended
    rw [Main.joined, if_neg (List.ne_nil_of_mem other)]
    refine undisturbed.afterMain running ?_ ?_ ?_
    · intro returned; cases returned
    · intro others waiting; cases waiting; exact other
    · intro cancelled
      rw [(undisturbed.cancelled cancelled).2] at running
      cases running
  | isSignalled waiting acknowledged =>
    have running : s.main.isRunning = true := by rw [waiting]; rfl
    refine undisturbed.afterMain running ?_ ?_ ?_
    · intro returned; cases returned
    · intro others waiting; cases waiting
    · intro cancelled
      rw [(undisturbed.cancelled cancelled).2] at running
      cases running
  | signalDropped waiting unacknowledged dropped =>
    have running : s.main.isRunning = true := by rw [waiting]; rfl
    refine undisturbed.afterMain running (fun _ => dropped) ?_ ?_
    · intro others waiting; cases waiting
    · intro cancelled
      exact ⟨(undisturbed.cancelled cancelled).1, rfl⟩
  | @writes result writing =>
    have running : s.main.isRunning = true := by rw [writing]; rfl
    have done : Complete build file s := by
      obtain working | complete := progress
      · exact absurd writing working.noSnapshot
      · exact complete
    refine undisturbed.afterMain running ?_ ?_ ?_
    · intro _
      exact signalSenderHeld_eq_false.mpr ⟨by simp [done.loaded, LoadFile.outcome],
        by simp [done.channel], done.idle.holdsSignalSender⟩
    · intro others waiting; cases waiting
    · intro _
      exact ⟨List.contains_iff_mem.mpr done.acknowledged, rfl⟩

end Undisturbed

end State

/-- What every undisturbed action keeps, of the state and of the actions taken so far, holds
    wherever an undisturbed schedule gets to. -/
theorem undisturbed_run (Invariant : List Action → State heap → Prop)
    (begins : Invariant [] (.initial heap file))
    (keeps : ∀ done {action state next}, State.step config build action state = some next →
      state.Undisturbed → Working build file state ∨ Complete build file state →
      state.Goes config build action next → Invariant done state → Invariant (done ++ [action]) next)
    {schedule : List Action} (regular : ∀ action ∈ schedule, action.disturbs = false)
    (ran : run (State.step config build) schedule (.initial heap file) = some s) :
    s.Undisturbed ∧ (Working build file s ∨ Complete build file s) ∧ Invariant schedule s := by
  have kept := run_invariant
    (fun done state => (∀ action ∈ done, action.disturbs = false) →
      state.Undisturbed ∧ (Working build file state ∨ Complete build file state) ∧
        Invariant done state) ?_ ran
    (fun _ => ⟨.initial heap file, .inl working_initial, begins⟩)
  · exact kept regular
  · intro done action state next taken before calm
    obtain ⟨calm, last⟩ := List.forall_mem_append.mp calm
    have goes := State.goes_of_step (last action (by simp)) taken
    obtain ⟨undisturbed, progress, holds⟩ := before calm
    refine ⟨undisturbed.goes progress goes, ?_, keeps done taken undisturbed progress goes holds⟩
    obtain working | complete := progress
    · exact working.takes goes.takes
    · exact .inr (complete.takes goes.takes)

end PaymentsEngine.Pipeline
