import PaymentsEngine.Pipeline.Snapshot

/-! # `main` always returns

Every operation of a party uses up something: a row of the file, a message on the
channel, a transaction in the heap, an outcome that is not handled yet.  So a file of
`n` rows has no schedule of more than `7 * n + 14` actions, failures included.  Nobody
waits for ever either: as long as `main` has not returned some party can go on.
-/

namespace PaymentsEngine.Pipeline

open PaymentsEngine.Library PaymentsEngine.Library.Schedule

variable {heap : PendingHeap} {config : ServiceConfig} {build : Build} {file : List Record}
variable {s t : State heap}

/-! ## What is left to do -/

/-- A row that is still in the file will be read, sent, received, applied, answered and handled. -/
def LoadFile.rank : LoadFile → Nat
  | .opening records => 7 * records.length + 6
  | .reading reader => 7 * reader.records.length + 5
  | .sending _ reader => 7 * reader.records.length + 11
  | .completing => 4
  | .ended _ => 0

def messageRank : ServiceMessage → Nat
  | .incoming _ _ => 5
  | .transactionBatchCompletion _ => 3

def channelRank : List ServiceMessage → Nat
  | [] => 0
  | msg :: channel => messageRank msg + channelRank channel

def Caller.rank : Caller → Nat
  | .incoming => 2
  | .completion _ => 3
  | .serverForever => 0

def Server.rank : Server heap → Nat
  | .receiving buffer => 3 * heap.len buffer + 2
  | .popping buffer caller => 3 * heap.len buffer + 1 + caller.rank
  | .sending _ _ buffer caller => 3 * heap.len buffer + 3 + caller.rank
  | .confirming _ buffer => 3 * heap.len buffer + 3
  | .ended _ => 0

/-- How many outcomes have been sent. -/
def World.resolved (world : World) : Nat := (world.sent.filterMap Event.resolution).length

def Handler.rank (resolved : Nat) : Handler → Nat
  | .receiving handled => resolved - handled + 1
  | .ended _ => 0

def Main.rank : Main → Nat
  | .waiting tasks => tasks.length + 2
  | .writingSnapshot => 1
  | .returned _ => 0

namespace State

def rank (s : State heap) : Nat :=
  s.loader.rank + channelRank s.channel + s.server.rank + s.handler.rank (World.resolved s.world) +
    s.main.rank

end State

theorem channelRank_append (first second : List ServiceMessage) :
    channelRank (first ++ second) = channelRank first + channelRank second := by
  induction first with
  | nil => simp [channelRank]
  | cons msg first ih =>
    simp only [List.cons_append, channelRank, ih]
    omega

/-! ## Every operation lowers it -/

theorem LoadFile.advance_lowers {loader following : LoadFile} {new : List ServiceMessage}
    {listening : Bool} (advanced : loader.advance build listening = some (following, new)) :
    following.rank + channelRank new < loader.rank := by
  cases loader with
  | opening records =>
    cases advanced
    simp [rank, channelRank, CsvReader.new]
  | reading reader =>
    rw [LoadFile.advance] at advanced
    split at advanced
    next msg rest next =>
      have shorter := CsvReader.next_shorter next
      cases advanced
      simp only [rank, channelRank]
      omega
    all_goals
      cases advanced
      simp only [rank, channelRank]
      omega
  | sending msg reader =>
    rw [LoadFile.advance] at advanced
    split at advanced <;> cases advanced <;> simp [rank, channelRank, incoming, messageRank]
  | completing =>
    rw [LoadFile.advance] at advanced
    split at advanced <;> cases advanced <;> simp [rank, channelRank, completion, messageRank]
  | ended outcome => cases advanced

theorem Server.receive_lowers (config : ServiceConfig) (buffer : heap.Carrier) (msg : ServiceMessage) :
    (Server.receive config buffer msg).rank <
      (Server.receiving buffer : Server heap).rank + messageRank msg := by
  cases msg with
  | incoming m c =>
    have grown : heap.len (heap.push ⟨m, c⟩ buffer) = heap.len buffer + 1 := by
      rw [heap.len_eq, heap.len_eq, heap.contents_push, Multiset.card_cons]
    simp only [Server.receive]
    split <;> simp only [rank, Caller.rank, messageRank, grown] <;> omega
  | transactionBatchCompletion callback =>
    simp only [Server.receive, rank, Caller.rank, messageRank]
    omega

/-- A send that goes through leaves one outcome more, at most. -/
theorem Server.sent_lowers {receivers : Receivers} {world next : World} {following after : Server heap}
    {callback : ChannelId} {event : Event} {error : String}
    (sends : Server.sent following (Service.send receivers world callback event error) = (next, after)) :
    World.resolved world ≤ World.resolved next ∧ after.rank + World.resolved next ≤
      following.rank + World.resolved world + event.resolution.toList.length := by
  rw [Service.send] at sends
  split at sends
  · cases sends
    have outcomes : World.resolved { world with sent := world.sent ++ [event] } =
        World.resolved world + event.resolution.toList.length := by
      cases event <;> simp [World.resolved, Event.resolution]
    omega
  · cases sends
    simp only [rank]
    omega

theorem Server.advance_lowers {receivers : Receivers} {world next : World}
    {server following : Server heap}
    (advanced : server.advance receivers world = some (next, following)) :
    World.resolved world ≤ World.resolved next ∧
      following.rank + World.resolved next < server.rank + World.resolved world := by
  cases server with
  | receiving buffer => cases advanced
  | popping buffer caller =>
    rw [Server.advance] at advanced
    split at advanced
    next popped =>
      have empty : heap.len buffer = 0 := by
        rw [heap.len_eq, heap.contents_pop_none _ popped, Multiset.card_zero]
      cases advanced
      refine ⟨le_refl _, ?_⟩
      cases caller <;> simp only [returnTo, rank, Caller.rank, empty] <;> omega
    next tx rest popped =>
      have shorter := heap.len_pop popped
      have applied : World.resolved (Service.apply world tx.message).2 = World.resolved world := rfl
      cases advanced
      refine ⟨le_refl _, ?_⟩
      simp only [rank, applied]
      omega
  | sending tx res buffer caller =>
    obtain ⟨more, lower⟩ := Server.sent_lowers (Option.some.inj advanced)
    have popping : (Server.popping buffer caller : Server heap).rank =
        3 * heap.len buffer + 1 + caller.rank := rfl
    have sending : (Server.sending tx res buffer caller).rank =
        3 * heap.len buffer + 3 + caller.rank := rfl
    simp only [Event.resolution, Option.toList_some, List.length_singleton] at lower
    omega
  | confirming callback buffer =>
    obtain ⟨more, lower⟩ := Server.sent_lowers (Option.some.inj advanced)
    have receiving : (Server.receiving buffer : Server heap).rank = 3 * heap.len buffer + 2 := rfl
    have confirming : (Server.confirming callback buffer : Server heap).rank =
        3 * heap.len buffer + 3 := rfl
    simp only [Event.resolution, Option.toList_none, List.length_nil] at lower
    omega
  | ended outcome => cases advanced

theorem Server.rank_pos {server : Server heap} (running : server.outcome = none) : 0 < server.rank := by
  cases server with
  | ended outcome => cases running
  | receiving | popping | sending | confirming => simp only [rank]; omega

theorem LoadFile.rank_pos {loader : LoadFile} (running : loader.outcome = none) : 0 < loader.rank := by
  cases loader with
  | ended outcome => cases running
  | opening | reading | sending | completing => simp only [rank]; omega

theorem Handler.rank_pos {handler : Handler} (resolved : Nat) (running : handler.outcome = none) :
    0 < handler.rank resolved := by
  cases handler with
  | ended outcome => cases running
  | receiving handled => simp only [rank]; omega

/-- New outcomes give the handler no more to do than there are of them. -/
theorem Handler.rank_le (handler : Handler) (first second : Nat) :
    handler.rank second ≤ handler.rank first + (second - first) := by
  cases handler with
  | receiving handled => simp only [rank]; omega
  | ended outcome => simp [rank]

namespace State

/-- A channel that is closed has nothing left to do in it. -/
theorem withServer_rank_le (s : State heap) (server : Server heap) :
    (s.withServer server).rank ≤ s.loader.rank + channelRank s.channel + server.rank +
      s.handler.rank (World.resolved s.world) + s.main.rank := by
  simp only [withServer, rank]
  split
  · exact le_refl _
  · have empty : channelRank [] = 0 := rfl
    omega

theorem stop_lowers {task : Task} {failure : Outcome Unit} (running : s.outcome task = none) :
    (s.stop failure task).rank < s.rank := by
  cases task with
  | server =>
    have positive := Server.rank_pos running
    have ended : (Server.ended failure : Server heap).rank = 0 := rfl
    have less := withServer_rank_le s (.ended failure)
    simp only [stop, rank, ended] at less ⊢
    omega
  | loader =>
    have positive := LoadFile.rank_pos running
    have ended : (LoadFile.ended failure).rank = 0 := rfl
    simp only [stop, rank, ended]
    omega
  | handler =>
    have positive := Handler.rank_pos (World.resolved s.world) running
    have ended : Handler.rank (World.resolved s.world) (.ended failure) = 0 := rfl
    simp only [stop, rank, ended]
    omega

theorem advance_lowers {task : Task} (advanced : s.advance config build task = some t) :
    t.rank < s.rank := by
  cases task with
  | loader =>
    obtain ⟨⟨loader, posted⟩, loads, rfl⟩ := Option.map_eq_some_iff.mp advanced
    have lower := LoadFile.advance_lowers loads
    simp only [rank, channelRank_append]
    omega
  | server =>
    rw [advance] at advanced
    split at advanced
    next buffer receiving =>
      split at advanced
      next => cases advanced
      next msg channel queued =>
        have lower := Server.receive_lowers config buffer msg
        cases advanced
        simp only [rank, receiving, queued, channelRank]
        omega
    next =>
      obtain ⟨⟨world, server⟩, serves, rfl⟩ := Option.map_eq_some_iff.mp advanced
      obtain ⟨more, lower⟩ := Server.advance_lowers serves
      have handled := s.handler.rank_le (World.resolved s.world) (World.resolved world)
      refine lt_of_le_of_lt (withServer_rank_le _ _) ?_
      simp only [rank]
      omega
  | handler =>
    rw [advance] at advanced
    split at advanced
    next handled receiving =>
      split at advanced
      next unread =>
        cases advanced
        simp only [rank, receiving, Handler.rank, World.resolved]
        omega
      next =>
        split at advanced
        · cases advanced
        · cases advanced
          simp only [rank, receiving, Handler.rank]
          omega
    next => cases advanced

/-- Every action uses something up. -/
theorem step_lowers {action : Action} (taken : step config build action s = some t) :
    t.rank < s.rank := by
  cases action with
  | advance task => exact advance_lowers taken
  | leaveLoop =>
    rw [step] at taken
    split at taken
    next buffer receiving =>
      obtain ⟨_, left⟩ := Option.ite_none_right_eq_some.mp taken
      cases left
      simp only [rank, receiving, Server.rank, Caller.rank]
      omega
    next => cases taken
  | fail task failure =>
    obtain ⟨⟨_, running⟩, stopped⟩ := Option.ite_none_right_eq_some.mp taken
    cases stopped
    exact stop_lowers running
  | join task =>
    rw [step] at taken
    split at taken
    next tasks waiting =>
      obtain ⟨⟨member, _⟩, joined⟩ := Option.ite_none_right_eq_some.mp taken
      cases joined
      have fewer := List.length_erase_of_mem member
      have some := List.length_pos_of_mem member
      simp only [rank, waiting]
      split <;> simp only [Main.rank] <;> omega
    next => cases taken
  | signal =>
    rw [step] at taken
    split at taken
    next tasks waiting =>
      split at taken
      next =>
        cases taken
        simp only [rank, waiting, Main.rank]
        omega
      next =>
        split at taken
        · cases taken
        · cases taken
          simp only [rank, waiting, Main.rank]
          omega
    next => cases taken
  | writeSnapshot result =>
    rw [step] at taken
    split at taken
    next writing =>
      cases taken
      simp only [rank, writing, Main.rank]
      omega
    next => cases taken

theorem rank_initial (heap : PendingHeap) (file : List Record) :
    (State.initial heap file).rank = 7 * file.length + 14 := by
  simp [rank, initial, LoadFile.rank, channelRank, Server.rank, Handler.rank, World.resolved, World.new,
    Main.rank, heap.len_eq, heap.contents_new]

/-! ## Somebody can always go on -/

/-- The channel of a service that has ended is gone. -/
def Drained (s : State heap) : Prop := s.server.outcome ≠ none → s.channel = []

theorem Takes.drained (taken : s.Takes config build t) (drained : s.Drained) : t.Drained := by
  cases taken with
  | @loads loader posted advanced =>
    intro ended
    have gone : s.listening = false := by
      rw [listening, Option.isNone_eq_false_iff]
      exact Option.isSome_iff_ne_none.mpr ended
    have empty : s.channel = [] := drained ended
    rw [gone] at advanced
    -- Nothing is sent to a service that does not listen.
    have silent : posted = [] := by
      cases stage : s.loader with
      | opening records => rw [stage] at advanced; cases advanced; rfl
      | reading reader =>
        rw [stage, LoadFile.advance] at advanced
        split at advanced <;> cases advanced <;> rfl
      | sending msg reader => rw [stage] at advanced; cases advanced; rfl
      | completing => rw [stage] at advanced; cases advanced; rfl
      | ended outcome => rw [stage] at advanced; cases advanced
    simp [empty, silent]
  | @receives buffer msg channel receiving queued =>
    intro ended
    cases msg with
    | incoming m c =>
      simp only [Server.receive] at ended
      split at ended <;> exact absurd rfl ended
    | transactionBatchCompletion callback => exact absurd rfl ended
  | @serves world server advanced =>
    intro ended
    simp only [withServer] at ended ⊢
    simp [ended]
  | leavesLoop receiving => intro ended; exact absurd rfl ended
  | handles | goesOn => exact drained
  | @fails task failure failed running =>
    cases task with
    | server => intro ended; rfl
    | loader | handler => exact drained

theorem drained_initial : (State.initial heap file).Drained := by
  intro ended
  exact absurd rfl ended

end State

theorem loader_goesOn (running : s.loader.outcome = none) :
    ∃ next, State.step config build (.advance .loader) s = some next := by
  have advances : ∃ advanced, s.loader.advance build s.listening = some advanced := by
    cases stage : s.loader with
    | opening records => exact ⟨_, rfl⟩
    | reading reader => rw [LoadFile.advance]; split <;> exact ⟨_, rfl⟩
    | sending msg reader => rw [LoadFile.advance]; split <;> exact ⟨_, rfl⟩
    | completing => rw [LoadFile.advance]; split <;> exact ⟨_, rfl⟩
    | ended outcome => rw [stage] at running; cases running
  obtain ⟨advanced, loads⟩ := advances
  simp [State.step, State.advance, loads]

/-- Only an empty channel keeps the service waiting. -/
theorem server_goesOn (running : s.server.outcome = none)
    (awake : s.channel ≠ [] ∨ s.server.holdsSignalSender = true) :
    ∃ next, State.step config build (.advance .server) s = some next := by
  cases stage : s.server with
  | receiving buffer =>
    have queued : s.channel ≠ [] := by simpa [stage, Server.holdsSignalSender] using awake
    obtain ⟨msg, channel, queued⟩ := List.exists_cons_of_ne_nil queued
    simp [State.step, State.advance, stage, queued]
  | popping buffer caller =>
    simp only [State.step, State.advance, stage, Server.advance]
    split <;> simp
  | sending tx res buffer caller => simp [State.step, State.advance, stage, Server.advance]
  | confirming callback buffer => simp [State.step, State.advance, stage, Server.advance]
  | ended outcome => rw [stage] at running; cases running

/-- While `main` runs, some action is enabled that is no failure. -/
theorem somebody_goesOn (drained : s.Drained) (running : s.main.isRunning = true) :
    ∃ action next, action.isFailure = false ∧ State.step config build action s = some next := by
  cases waits : s.main with
  | returned result => rw [waits] at running; cases running
  | writingSnapshot => exact ⟨.writeSnapshot (.ok ()), _, rfl, by rw [State.step, waits]⟩
  | waiting tasks =>
    by_cases signals : s.acknowledged = true ∨ s.signalSenderHeld = false
    · refine ⟨.signal, ?_⟩
      obtain acknowledged | dropped := signals
      · simp [State.step, waits, acknowledged, Action.isFailure]
      · by_cases acknowledged : s.acknowledged <;>
          simp [State.step, waits, acknowledged, dropped, Action.isFailure]
    · -- The signal has not been sent, and the loader, the channel or the service has its sender.
      have held : s.signalSenderHeld = true := by simp_all
      cases loader : s.loader.outcome with
      | none =>
        obtain ⟨next, loads⟩ := loader_goesOn loader
        exact ⟨_, next, rfl, loads⟩
      | some outcome =>
        have awake : s.channel ≠ [] ∨ s.server.holdsSignalSender = true := by
          simp only [State.signalSenderHeld, loader, Option.isNone_some, Bool.false_or,
            Bool.or_eq_true, List.contains_iff_mem] at held
          exact held.imp_left List.ne_nil_of_mem
        have listening : s.server.outcome = none := by
          by_contra ended
          obtain queued | holds := awake
          · exact queued (drained ended)
          · cases stage : s.server <;> simp_all [Server.holdsSignalSender, Server.outcome]
        obtain ⟨next, serves⟩ := server_goesOn listening awake
        exact ⟨_, next, rfl, serves⟩

/-- Whatever fails and in whatever order the parties take their turns, no schedule for a file of
    `n` rows has more than `7 * n + 14` actions; `main` has returned where no party can go on but
    by a failure; and what was scheduled so far never keeps `main` from returning. -/
theorem main_returns (heap : PendingHeap) (config : ServiceConfig) (build : Build)
    (file : List Record) (schedule : List Action) (s : State heap)
    (ran : run (State.step config build) schedule (.initial heap file) = some s) :
    schedule.length ≤ 7 * file.length + 14 ∧
      ((∀ action, action.isFailure = false → State.step config build action s = none) →
        s.main.isRunning = false) ∧
      ∃ later t, (∀ action ∈ later, action.isFailure = false) ∧
        run (State.step config build) later s = some t ∧ t.main.isRunning = false := by
  have keeps : ∀ action {state next : State heap}, State.step config build action state = some next →
      state.Drained → next.Drained := by
    intro action state next taken
    exact (State.takes_of_step taken).drained
  have drained : s.Drained := (steps_of_run ran).invariant keeps State.drained_initial
  refine ⟨?_, ?_, ?_⟩
  · have bounded := length_le_rank (fun action _ _ taken => State.step_lowers taken) ran
    rw [State.rank_initial] at bounded
    omega
  · intro stuck
    by_contra running
    obtain ⟨action, next, regular, taken⟩ :=
      @somebody_goesOn heap config build s drained (by simpa using running)
    rw [stuck action regular] at taken
    cases taken
  · refine exists_run_to_goal (fun action _ _ taken => State.step_lowers taken) keeps ?_ drained
    intro state drained running
    obtain ⟨action, next, regular, taken⟩ :=
      @somebody_goesOn heap config build state drained (by simpa using running)
    exact ⟨action, next, regular, taken⟩

/-- The service has failed in the middle of the file of one deposit. -/
theorem main_returns_after_failure :
    ∃ (s t : State (listHeap PendingTransaction.cmp)) (later : List Action),
      s.server.outcome = some .panic ∧ (∀ action ∈ later, action.isFailure = false) ∧
        run (State.step ⟨1⟩ .debug) later s = some t ∧ t.main.isRunning = false := by
  have fails : (run (State.step ⟨1⟩ .debug) [.advance .loader, .advance .loader, .fail .server .panic]
      (.initial (listHeap PendingTransaction.cmp) depositFile)).map (fun s => s.server.outcome) =
        some (some .panic) := by
    decide +kernel
  obtain ⟨s, ran, failed⟩ := Option.map_eq_some_iff.mp fails
  obtain ⟨_, _, later, t, regular, rest, returned⟩ := main_returns _ ⟨1⟩ .debug depositFile _ s ran
  exact ⟨s, t, later, failed, regular, rest, returned⟩

end PaymentsEngine.Pipeline
