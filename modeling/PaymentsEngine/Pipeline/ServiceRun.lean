import PaymentsEngine.Pipeline.Undisturbed

/-! # The service of the pipeline runs `server_forever`

In the pipeline the operations of the service take turns with those of the other
parties, which close its receivers and fill its channel meanwhile.  `Alone` is the
service with all its messages given and receivers that close after some number of
events: it is deterministic, and it ends as `server_forever` does.  What the service
has done in the pipeline, the service alone does as well.
-/

namespace PaymentsEngine

/-- The receivers are closed when `count` events have been sent. -/
def Receivers.openFor (count : Nat) : Receivers where
  isOpen := fun sent _ => sent < count
  staysClosed := by
    intro sent _ closed
    rw [decide_eq_false_iff_not] at closed ⊢
    omega

/-- How a function that returned has ended, as a task. -/
def Outcome.ofResult : AnyResult → Outcome Unit
  | .ok () => .ok ()
  | .error error => .err error

namespace Pipeline

open PaymentsEngine.Library PaymentsEngine.Library.Schedule

variable {heap : PendingHeap} {config : ServiceConfig} {build : Build} {file : List Record}

namespace Server

variable {receivers : Receivers} {world next : World} {server following : Server heap}
variable {messages rest : List ServiceMessage}

/-! ## The service alone -/

/-- One operation of a service that `messages` are still given to. -/
inductive Alone (config : ServiceConfig) (receivers : Receivers) :
    World × Server heap × List ServiceMessage → World × Server heap × List ServiceMessage → Prop where
  | advances {world next : World} {server following : Server heap} {messages : List ServiceMessage}
      (advanced : server.advance receivers world = some (next, following)) :
      Alone config receivers (world, server, messages) (next, following, messages)
  | receives {world : World} {buffer : heap.Carrier} {msg : ServiceMessage}
      {messages : List ServiceMessage} :
      Alone config receivers (world, .receiving buffer, msg :: messages)
        (world, .receive config buffer msg, messages)
  | leavesLoop {world : World} {buffer : heap.Carrier} :
      Alone config receivers (world, .receiving buffer, []) (world, .popping buffer .serverForever, [])

/-- Any number of its operations. -/
def AloneSteps (config : ServiceConfig) (receivers : Receivers) :
    World × Server heap × List ServiceMessage → World × Server heap × List ServiceMessage → Prop :=
  Relation.ReflTransGen (Alone config receivers)

theorem alone_rightUnique : Relator.RightUnique (@Alone heap config receivers) := by
  intro first second third one other
  cases one with
  | advances advanced =>
    cases other with
    | advances again =>
      rw [advanced] at again
      cases again
      rfl
    | receives | leavesLoop => cases advanced
  | receives =>
    cases other with
    | advances advanced => cases advanced
    | receives => rfl
  | leavesLoop =>
    cases other with
    | advances advanced => cases advanced
    | leavesLoop => rfl

theorem not_alone_ended {outcome : Outcome Unit}
    {last : World × Server heap × List ServiceMessage} :
    ¬ Alone config receivers (world, .ended outcome, messages) last := by
  intro alone
  cases alone with
  | advances advanced => cases advanced

theorem aloneSteps_of_advances (config : ServiceConfig) {first second : World × Server heap}
    (advances : Relation.ReflTransGen (Advances receivers) first second)
    (messages : List ServiceMessage) :
    AloneSteps config receivers (first.1, first.2, messages) (second.1, second.2, messages) := by
  induction advances with
  | refl => exact .refl
  | tail _ last ih => exact ih.tail (.advances last)

/-- The service alone does what `server_forever` does with the messages. -/
theorem aloneSteps_eventLoop (stop : Service.Stop) (received messages : List ServiceMessage)
    (world : World) (buffer : heap.Carrier) :
    let run := Service.eventLoop heap receivers config world buffer stop received messages
    ∃ rest, received ++ messages = run.received ++ rest ∧
      AloneSteps config receivers (world, .receiving buffer, messages)
        (run.world, .ended (.ofResult run.result), rest) := by
  -- The recursion of the event loop; an error leaves the other messages unreceived.
  induction messages generalizing received world buffer with
  | nil =>
    rw [Service.eventLoop_nil]
    refine ⟨[], rfl, .head .leavesLoop ?_⟩
    have flushes : AloneSteps config receivers _ _ :=
      aloneSteps_of_advances config (handleBuffer_advances world buffer .serverForever) []
    generalize Service.handleBuffer heap receivers world buffer = flushed at flushes
    obtain ⟨result, next, left⟩ := flushed
    cases result <;> exact flushes
  | cons msg messages ih =>
    have iterates : AloneSteps config receivers _ _ :=
      aloneSteps_of_advances config (iteration_advances config world buffer msg) messages
    generalize iterated : Service.iteration heap receivers config world buffer msg = outcome
    rw [iterated] at iterates
    obtain ⟨result, next, left⟩ := outcome
    cases result with
    | ok =>
      rw [Service.eventLoop_ok iterated]
      obtain ⟨rest, split, ends⟩ := ih (received ++ [msg]) next left
      refine ⟨rest, by rw [← split, List.append_assoc]; rfl, .head .receives ?_⟩
      exact Relation.ReflTransGen.trans iterates ends
    | error error =>
      rw [Service.eventLoop_error iterated]
      exact ⟨messages, by simp, .head .receives iterates⟩

theorem aloneSteps_serverForever (heap : PendingHeap) (config : ServiceConfig)
    (receivers : Receivers) (stop : Service.Stop) (messages : List ServiceMessage) :
    let run := Service.serverForever heap receivers config stop messages
    ∃ rest, messages = run.received ++ rest ∧
      AloneSteps config receivers (.new, .receiving heap.new, messages)
        (run.world, .ended (.ofResult run.result), rest) :=
  aloneSteps_eventLoop stop [] messages .new heap.new

/-! ## Receivers that close after some number of events -/

variable {count : Nat}

/-- How many events have to be sent before the receivers close: those that were sent, and no more
    when the service has ended. -/
def Permits (count : Nat) (world : World) (server : Server heap) : Prop :=
  world.sent.length ≤ count ∧ (server.outcome ≠ none → count = world.sent.length)

theorem permits_running (running : server.outcome = none) (sent : world.sent.length ≤ count) :
    Permits count world server :=
  ⟨sent, fun ended => absurd running ended⟩

/-- A send in the pipeline succeeds or fails as it does with those receivers. -/
theorem sent_openFor {callback : ChannelId} {event : Event} {error : String}
    (running : following.outcome = none)
    (sends : sent following (Service.send receivers world callback event error) = (next, server))
    (permits : Permits count next server) :
    world.sent.length ≤ count ∧
      sent following (Service.send (.openFor count) world callback event error) = (next, server) := by
  obtain ⟨_, rfl, rfl⟩ | ⟨_, rfl, rfl⟩ := sent_cases sends
  · have more := permits.1
    rw [List.length_append, List.length_singleton] at more
    have isOpen : (Receivers.openFor count).isOpen world.sent.length callback = true := by
      simp only [Receivers.openFor, decide_eq_true_eq]
      omega
    rw [Service.send, if_pos isOpen]
    exact ⟨by omega, rfl⟩
  · have none := permits.2 (by simp [outcome])
    have closed : (Receivers.openFor count).isOpen next.sent.length callback = false := by
      simp [Receivers.openFor, none]
    rw [Service.send, closed]
    exact ⟨by omega, rfl⟩

theorem advance_openFor (advanced : server.advance receivers world = some (next, following))
    (permits : Permits count next following) :
    world.sent.length ≤ count ∧ server.advance (.openFor count) world = some (next, following) := by
  cases server with
  | receiving buffer => cases advanced
  | popping buffer caller =>
    refine ⟨?_, advanced⟩
    rw [advance] at advanced
    split at advanced
    next => cases advanced; exact permits.1
    next => cases advanced; exact permits.1
  | sending tx res buffer caller =>
    obtain ⟨sofar, sends⟩ := sent_openFor rfl (Option.some.inj advanced) permits
    exact ⟨sofar, congrArg some sends⟩
  | confirming callback buffer =>
    obtain ⟨sofar, sends⟩ := sent_openFor rfl (Option.some.inj advanced) permits
    exact ⟨sofar, congrArg some sends⟩
  | ended outcome => cases advanced

/-- A service that has left its loop does not get back into it. -/
theorem closing_advance (advanced : server.advance receivers world = some (next, following))
    (closing : server.closing = true) : following.closing = true := by
  cases server with
  | receiving | confirming => cases closing
  | popping buffer caller =>
    rw [advance] at advanced
    split at advanced
    next =>
      cases advanced
      cases caller with
      | serverForever => rfl
      | incoming | completion => cases closing
    next => cases advanced; exact closing
  | sending tx res buffer caller =>
    obtain ⟨_, rfl, _⟩ | ⟨_, rfl, _⟩ := sent_cases (Option.some.inj advanced)
    · exact closing
    · rfl
  | ended outcome => cases advanced

theorem advance_closed (advanced : server.advance (.openFor count) world = some (next, following))
    (closed : count ≤ world.sent.length) :
    next.sent = world.sent ∧ world.applied <+: next.applied := by
  have fails {callback : ChannelId} {event : Event} {error : String} {after : Server heap}
      (sends : sent after (Service.send (.openFor count) world callback event error) =
        (next, following)) : next = world := by
    obtain ⟨isOpen, _⟩ | ⟨_, _, same⟩ := sent_cases sends
    · simp only [Receivers.openFor, decide_eq_true_eq] at isOpen
      omega
    · exact same
  cases server with
  | receiving buffer => cases advanced
  | popping buffer caller =>
    rw [advance] at advanced
    split at advanced
    next => cases advanced; exact ⟨rfl, List.prefix_rfl⟩
    next => cases advanced; exact ⟨rfl, List.prefix_append _ _⟩
  | sending tx res buffer caller =>
    obtain rfl := fails (Option.some.inj advanced)
    exact ⟨rfl, List.prefix_rfl⟩
  | confirming callback buffer =>
    obtain rfl := fails (Option.some.inj advanced)
    exact ⟨rfl, List.prefix_rfl⟩
  | ended outcome => cases advanced

/-- Once the receivers are closed nothing more is sent; and without a message none is received. -/
theorem aloneSteps_closed {last : World × Server heap × List ServiceMessage}
    (steps : AloneSteps config (.openFor world.sent.length) (world, server, []) last) :
    last.1.sent = world.sent ∧ world.applied <+: last.1.applied ∧ last.2.2 = [] := by
  induction steps with
  | refl => exact ⟨rfl, List.prefix_rfl, rfl⟩
  | tail _ alone ih =>
    obtain ⟨sent, applied, empty⟩ := ih
    cases alone with
    | advances advanced =>
      obtain ⟨unsent, extended⟩ := advance_closed advanced (by rw [sent])
      exact ⟨unsent.trans sent, applied.trans extended, empty⟩
    | receives => cases empty
    | leavesLoop => exact ⟨sent, applied, rfl⟩

/-! ## The service in the pipeline -/

/-- What the service has done in the pipeline, it does alone: with the messages that it received,
    and with any others that it has not yet turned away, given to it from the beginning. -/
def Follows (config : ServiceConfig) (received : List ServiceMessage) (world : World)
    (server : Server heap) : Prop :=
  ∀ count rest, Permits count world server → (server.closing = true → rest = []) →
    AloneSteps config (.openFor count) (.new, .receiving heap.new, received ++ rest)
      (world, server, rest)

theorem follows_new (config : ServiceConfig) :
    Follows config [] .new (.receiving heap.new) := by
  intro count rest _ _
  exact .refl

namespace Follows

variable {received : List ServiceMessage} {buffer : heap.Carrier}

theorem receive (follows : Follows config received world (.receiving buffer)) (msg : ServiceMessage) :
    Follows config (received ++ [msg]) world (.receive config buffer msg) := by
  intro count rest permits _
  have inLoop : (receiving buffer).closing = true → msg :: rest = [] := by
    intro closing
    cases closing
  have before := follows count (msg :: rest) (permits_running rfl permits.1) inLoop
  rw [List.append_assoc]
  exact before.tail .receives

theorem leaveLoop (follows : Follows config received world (.receiving buffer)) :
    Follows config received world (.popping buffer .serverForever) := by
  intro count rest permits left
  obtain rfl := left rfl
  exact (follows count [] (permits_running rfl permits.1) fun _ => rfl).tail .leavesLoop

theorem advance (follows : Follows config received world server)
    (advanced : server.advance receivers world = some (next, following)) :
    Follows config received next following := by
  intro count rest permits left
  obtain ⟨sofar, alone⟩ := advance_openFor advanced permits
  have running := running_of_advance advanced
  refine (follows count rest (permits_running running sofar) ?_).tail (.advances alone)
  intro closing
  exact left (closing_advance advanced closing)

/-- So `server_forever` sends what was sent, and ends as the service did. -/
theorem serverForever (follows : Follows config received world server) (stop : Service.Stop) :
    let run := Service.serverForever heap (.openFor world.sent.length) config stop received
    run.received = received ∧ run.world.sent = world.sent ∧ world.applied <+: run.world.applied ∧
      ∀ outcome, server = .ended outcome → outcome = .ofResult run.result ∧ run.world = world := by
  obtain ⟨rest, split, ends⟩ :=
    aloneSteps_serverForever heap config (.openFor world.sent.length) stop received
  generalize Service.serverForever heap (.openFor world.sent.length) config stop received = run
    at split ends ⊢
  have sofar := follows world.sent.length [] ⟨le_rfl, fun _ => rfl⟩ fun _ => rfl
  rw [List.append_nil] at sofar
  -- `server_forever` has gone the same way, and on from here.
  have on := reaches_final alone_rightUnique sofar ends fun _ => not_alone_ended
  obtain ⟨sent, applied, rfl⟩ := aloneSteps_closed on
  rw [List.append_nil] at split
  refine ⟨split.symm, sent, applied, ?_⟩
  intro outcome ended
  rw [ended] at on
  obtain same | ⟨next, alone, _⟩ := Relation.ReflTransGen.cases_head on
  · simp only [Prod.mk.injEq, Server.ended.injEq] at same
    exact ⟨same.2.1, same.1.symm⟩
  · exact absurd alone not_alone_ended

end Follows

end Server

/-- The service of a state follows `server_forever`, up to the failure that struck it if one did. -/
def State.Follows (config : ServiceConfig) (done : List Action) (s : State heap) : Prop :=
  ∃ server : Server heap, server.Follows config s.received s.world ∧
    (s.server = server ∨ s.server.outcome ≠ none ∧ ∃ failure, .fail .server failure ∈ done)

namespace State.Follows

variable {s t : State heap} {done : List Action} {action : Action}

/-- A service that still runs has not been struck. -/
theorem of_running (follows : s.Follows config done) (running : s.server.outcome = none) :
    s.server.Follows config s.received s.world := by
  obtain ⟨server, follows, same | ⟨ended, _⟩⟩ := follows
  · rwa [same]
  · exact absurd running ended

theorem of_server (follows : s.server.Follows config s.received s.world) : s.Follows config done :=
  ⟨s.server, follows, .inl rfl⟩

theorem later (follows : s.Follows config done) : s.Follows config (done ++ [action]) := by
  obtain ⟨server, follows, same | ⟨ended, failure, struck⟩⟩ := follows
  · exact ⟨server, follows, .inl same⟩
  · exact ⟨server, follows, .inr ⟨ended, failure, List.mem_append_left _ struck⟩⟩

theorem goes (follows : s.Follows config done) (goes : s.Goes config build action t) :
    t.Follows config (done ++ [action]) := by
  cases goes with
  | receives receiving queued =>
    have running := follows.of_running (by rw [receiving]; rfl)
    rw [receiving] at running
    exact of_server (running.receive _)
  | serves advanced =>
    exact of_server ((follows.of_running (Server.running_of_advance advanced)).advance advanced)
  | leavesLoop receiving leaves =>
    have running := follows.of_running (by rw [receiving]; rfl)
    rw [receiving] at running
    exact of_server running.leaveLoop
  -- The others leave the service as it is.
  | loads | loaderFails | handles | handlerReturns | joins | isSignalled | signalDropped | writes =>
    exact follows.later

theorem step (follows : s.Follows config done) (taken : State.step config build action s = some t) :
    t.Follows config (done ++ [action]) := by
  cases disturbs : action.disturbs with
  | false => exact follows.goes (goes_of_step disturbs taken)
  | true =>
    obtain ⟨task, failure, rfl, rfl⟩ := stops_of_step disturbs taken
    cases task with
    | loader | handler => exact follows.later
    | server =>
      obtain ⟨server, follows, _⟩ := follows
      exact ⟨server, follows, .inr ⟨by simp [stop, withServer, Server.outcome], failure, by simp⟩⟩

end State.Follows

/-- The service task of the pipeline refines `server_forever`: in every state of every
    interleaving, the events it has sent are those of `server_forever` on the messages it has
    received, with receivers that close just then; and when the service has ended and no failure
    has struck it, its outcome and all that it did are those of `server_forever`. -/
theorem service_refines (heap : PendingHeap) (config : ServiceConfig) (build : Build)
    (file : List Record) (schedule : List Action) (s : State heap)
    (ran : run (State.step config build) schedule (.initial heap file) = some s)
    (stop : Service.Stop) :
    let alone := Service.serverForever heap (.openFor s.world.sent.length) config stop s.received
    alone.received = s.received ∧ alone.world.sent = s.world.sent ∧
      s.world.applied <+: alone.world.applied ∧
      ∀ outcome, s.server = .ended outcome → (∀ failure, .fail .server failure ∉ schedule) →
        outcome = .ofResult alone.result ∧ alone.world = s.world := by
  intro alone
  have begins : (State.initial heap file).Follows config [] :=
    .of_server (Server.follows_new config)
  obtain ⟨server, follows, same⟩ := run_invariant (fun done state => state.Follows config done)
    (fun _ _ {_ _} taken follows => follows.step taken) ran begins
  obtain ⟨received, sent, applied, ends⟩ := follows.serverForever stop
  refine ⟨received, sent, applied, ?_⟩
  intro outcome ended regular
  obtain same | ⟨_, failure, struck⟩ := same
  · exact ends outcome (same ▸ ended)
  · exact absurd struck (regular failure)

/-- The deposit is applied and its snapshot written, and the service is cancelled. -/
def cancelledSchedule : List Action :=
  depositSchedule ++ [.writeSnapshot (.ok ()), .leaveLoop, .advance .server]

theorem service_refines_of_deposit :
    ∃ s : State (listHeap PendingTransaction.cmp), s.server = .ended (.ok ()) ∧
      let alone := Service.serverForever (listHeap PendingTransaction.cmp)
        (.openFor s.world.sent.length) ⟨1⟩ .cancelled s.received
      .ok () = Outcome.ofResult alone.result ∧ alone.world = s.world := by
  have ends : (run (State.step ⟨1⟩ .debug) cancelledSchedule
      (.initial (listHeap PendingTransaction.cmp) depositFile)).map (fun s => s.server.outcome) =
        some (some (.ok ())) := by
    decide +kernel
  obtain ⟨s, ran, outcome⟩ := Option.map_eq_some_iff.mp ends
  have ended : s.server = .ended (.ok ()) := by
    cases server : s.server with
    | ended result => rw [server] at outcome; cases outcome; rfl
    | receiving | popping | sending | confirming => rw [server] at outcome; cases outcome
  have regular : ∀ failure, .fail .server failure ∉ cancelledSchedule := by
    intro failure
    simp [cancelledSchedule, depositSchedule]
  obtain ⟨_, _, _, result⟩ := service_refines _ ⟨1⟩ .debug depositFile _ s ran .cancelled
  exact ⟨s, ended, result _ ended regular⟩

end Pipeline

end PaymentsEngine
