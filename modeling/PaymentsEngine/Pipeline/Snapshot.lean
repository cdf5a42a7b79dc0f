import PaymentsEngine.Pipeline.LoadTask
import PaymentsEngine.Pipeline.InOrder

/-! # The snapshot is all-or-nothing

`main` writes the snapshot when the completion signal has been acknowledged.  The
signal is behind all rows of the file in one channel, the service flushes before it
acknowledges, and whoever fails on the way drops the sender of the signal.
-/

namespace PaymentsEngine.Pipeline

open PaymentsEngine.Library PaymentsEngine.Library.Schedule PaymentsEngine.Library.Machine

variable {heap : PendingHeap} {config : ServiceConfig} {build : Build} {file : List Record}
variable {s t : State heap}

namespace State

/-! ## What an action can do -/

inductive Takes (config : ServiceConfig) (build : Build) (s : State heap) : State heap → Prop where
  | loads {loader : LoadFile} {posted : List ServiceMessage}
      (advanced : s.loader.advance build s.listening = some (loader, posted)) :
      Takes config build s { s with loader := loader, channel := s.channel ++ posted }
  | receives {buffer : heap.Carrier} {msg : ServiceMessage} {channel : List ServiceMessage}
      (receiving : s.server = .receiving buffer) (queued : s.channel = msg :: channel) :
      Takes config build s { s with
        server := .receive config buffer msg, channel := channel, received := s.received ++ [msg] }
  | serves {world : World} {server : Server heap}
      (advanced : s.server.advance s.receivers s.world = some (world, server)) :
      Takes config build s ({ s with world := world }.withServer server)
  | leavesLoop {buffer : heap.Carrier} (receiving : s.server = .receiving buffer) :
      Takes config build s { s with server := .popping buffer .serverForever }
  | handles (handler : Handler) : Takes config build s { s with handler := handler }
  | fails {task : Task} {failure : Outcome Unit} (failed : failure ≠ .ok ())
      (running : s.outcome task = none) : Takes config build s (s.stop failure task)
  | goesOn {main : Main} (cancelled : Bool)
      (signalled : main = .writingSnapshot → .completed completionChannel ∈ s.world.sent) :
      Takes config build s { s with main := main, cancelled := cancelled }

theorem takes_of_advance {task : Task} (taken : s.advance config build task = some t) :
    Takes config build s t := by
  cases task with
  | loader =>
    obtain ⟨⟨loader, posted⟩, advanced, rfl⟩ := Option.map_eq_some_iff.mp taken
    exact .loads advanced
  | server =>
    rw [advance] at taken
    split at taken
    next buffer receiving =>
      split at taken
      next => cases taken
      next msg channel queued => cases taken; exact .receives receiving queued
    next =>
      obtain ⟨⟨world, server⟩, advanced, rfl⟩ := Option.map_eq_some_iff.mp taken
      exact .serves advanced
  | handler =>
    rw [advance] at taken
    split at taken
    next handled receiving =>
      split at taken
      · cases taken; exact .handles _
      · split at taken
        · cases taken
        · cases taken; exact .handles _
    next => cases taken

theorem takes_of_step {action : Action} (taken : step config build action s = some t) :
    Takes config build s t := by
  cases action with
  | advance task => exact takes_of_advance taken
  | leaveLoop =>
    rw [step] at taken
    split at taken
    next buffer receiving =>
      split at taken
      · cases taken; exact .leavesLoop receiving
      · cases taken
    next => cases taken
  | fail task failure =>
    obtain ⟨⟨failed, running⟩, stopped⟩ := Option.ite_none_right_eq_some.mp taken
    cases stopped
    exact .fails failed running
  -- Joining a task changes what `main` waits for, or ends it.
  | join task =>
    rw [step] at taken
    split at taken
    next tasks waiting =>
      obtain ⟨_, joined⟩ := Option.ite_none_right_eq_some.mp taken
      cases joined
      apply Takes.goesOn s.cancelled
      split <;> intro writing <;> cases writing
    next => cases taken
  | signal =>
    rw [step] at taken
    split at taken
    next tasks waiting =>
      split at taken
      next acknowledged =>
        cases taken
        exact .goesOn s.cancelled fun _ => List.contains_iff_mem.mp acknowledged
      next =>
        split at taken
        · cases taken
        · cases taken
          exact .goesOn s.cancelled fun writing => by cases writing
    next => cases taken
  | writeSnapshot result =>
    rw [step] at taken
    split at taken
    · cases taken
      exact .goesOn _ fun writing => by cases writing
    · cases taken

end State

/-! ## Before and after the acknowledgement -/

/-- Nothing is acknowledged yet: the rows are on their way, and no snapshot is written. -/
structure Working (build : Build) (file : List Record) (s : State heap) : Prop where
  unacknowledged : .completed completionChannel ∉ s.world.sent
  noSnapshot : s.main ≠ .writingSnapshot
  posted : s.server.outcome = none → s.loader.Posted build file (s.received ++ s.channel)
  accounted : s.server.Accounted s.world s.received
  inOrder : Numbered (incomingMessages s.received) → s.server.InOrder s.world s.received

/-- The service has nothing left to do. -/
def Server.Idle : Server heap → Prop
  | .receiving buffer | .popping buffer .serverForever => heap.contents buffer = 0
  | .ended _ => True
  | _ => False

/-- Every row has been read and applied, in the order of the file if its numbers ascend, and
    nothing is left of them. -/
structure Complete (build : Build) (file : List Record) (s : State heap) : Prop where
  acknowledged : .completed completionChannel ∈ s.world.sent
  applied : ∃ messages, CsvReader.readAll build 0 file = some messages ∧
    s.world.applied.Perm messages ∧ (Numbered messages → s.world.applied = messages)
  accounts : s.world.accounts = after Accounts.process ∅ s.world.applied
  loaded : s.loader = .ended (.ok ())
  channel : s.channel = []
  idle : s.server.Idle

theorem working_initial : Working build file (State.initial heap file) where
  unacknowledged := by intro member; cases member
  noSnapshot := by intro writing; cases writing
  posted := fun _ => ⟨rfl, rfl⟩
  accounted := Service.accounted_new heap
  inOrder := fun _ => ⟨[], heap.contents_new, rfl⟩

/-- The acknowledgement finds everything applied. -/
theorem Working.acknowledges {next : World} {following : Server heap}
    (working : Working build file s)
    (advanced : s.server.advance s.receivers s.world = some (next, following))
    (acknowledged : .completed completionChannel ∈ next.sent) :
    Complete build file ({ s with world := next }.withServer following) := by
  obtain ⟨buffer, confirming, rfl, rfl⟩ :=
    Server.advance_acknowledges advanced working.unacknowledged acknowledged
  have accounted := working.accounted
  rw [confirming] at accounted
  obtain ⟨accounted, empty, signalled⟩ := accounted
  have posted := working.posted (by rw [confirming]; rfl)
  obtain ⟨loaded, drained, read⟩ := posted.completed signalled
  -- With the heap empty, what was received has all been applied.
  have applied := accounted.messages
  rw [empty, Multiset.map_zero, add_zero, Multiset.coe_eq_coe] at applied
  have inOrder : Numbered (incomingMessages s.received) →
      s.world.applied = incomingMessages s.received := by
    intro numbered
    have inOrder := working.inOrder numbered
    rw [confirming] at inOrder
    exact inOrder_empty inOrder empty
  exact {
    acknowledged := acknowledged
    applied := ⟨_, read, applied, inOrder⟩
    accounts := accounted.accounts
    loaded := loaded
    channel := drained
    idle := empty }

theorem Working.receives {buffer : heap.Carrier} {msg : ServiceMessage}
    {channel : List ServiceMessage} (working : Working build file s)
    (receiving : s.server = .receiving buffer) (queued : s.channel = msg :: channel) :
    Working build file { s with
      server := .receive config buffer msg, channel := channel, received := s.received ++ [msg] } := by
  obtain ⟨unacknowledged, noSnapshot, posted, accounted, inOrder⟩ := working
  rw [receiving] at posted accounted inOrder
  rw [queued] at posted
  refine ⟨unacknowledged, noSnapshot, ?_, Server.Accounted.receive accounted, ?_⟩
  · intro _
    rw [List.append_assoc]
    exact posted rfl
  · intro numbered
    rw [incomingMessages_append] at numbered
    exact Server.InOrder.receive (inOrder (List.pairwise_append.mp numbered).1)

theorem Working.serves {next : World} {following : Server heap} (working : Working build file s)
    (advanced : s.server.advance s.receivers s.world = some (next, following))
    (unacknowledged : .completed completionChannel ∉ next.sent) :
    Working build file ({ s with world := next }.withServer following) := by
  refine ⟨unacknowledged, working.noSnapshot, ?_, working.accounted.advance advanced,
    fun numbered => (working.inOrder numbered).advance numbered advanced⟩
  intro running
  change following.outcome = none at running
  simp only [State.withServer, running]
  exact working.posted (Server.running_of_advance advanced)

theorem Working.fails {task : Task} {failure : Outcome Unit} (working : Working build file s)
    (failed : failure ≠ .ok ()) (running : s.outcome task = none) :
    Working build file (s.stop failure task) := by
  obtain ⟨unacknowledged, noSnapshot, posted, accounted, inOrder⟩ := working
  cases task with
  | server =>
    -- What was in the channel and in the heap is gone, and so is the signal.
    exact ⟨unacknowledged, noSnapshot, (fun running => by cases running), trivial, fun _ => trivial⟩
  | loader =>
    refine ⟨unacknowledged, noSnapshot, ?_, accounted, inOrder⟩
    intro serverRunning
    exact (posted serverRunning).failed running failed
  | handler => exact ⟨unacknowledged, noSnapshot, posted, accounted, inOrder⟩

theorem Working.takes (working : Working build file s) (taken : s.Takes config build t) :
    Working build file t ∨ Complete build file t := by
  cases taken with
  | loads advanced =>
    obtain ⟨unacknowledged, noSnapshot, posted, accounted, inOrder⟩ := working
    refine .inl ⟨unacknowledged, noSnapshot, ?_, accounted, inOrder⟩
    intro running
    have listening : s.listening = true := Option.isNone_iff_eq_none.mpr running
    rw [listening] at advanced
    rw [← List.append_assoc]
    exact (posted running).advance advanced
  | receives receiving queued => exact .inl (working.receives receiving queued)
  | @serves next following advanced =>
    by_cases acknowledged : .completed completionChannel ∈ next.sent
    · exact .inr (working.acknowledges advanced acknowledged)
    · exact .inl (working.serves advanced acknowledged)
  | leavesLoop receiving =>
    obtain ⟨unacknowledged, noSnapshot, posted, accounted, inOrder⟩ := working
    rw [receiving] at posted accounted inOrder
    exact .inl ⟨unacknowledged, noSnapshot, fun _ => posted rfl, ⟨accounted, trivial⟩, inOrder⟩
  | handles handler =>
    obtain ⟨unacknowledged, noSnapshot, posted, accounted, inOrder⟩ := working
    exact .inl ⟨unacknowledged, noSnapshot, posted, accounted, inOrder⟩
  | fails failed running => exact .inl (working.fails failed running)
  | goesOn cancelled signalled =>
    obtain ⟨unacknowledged, noSnapshot, posted, accounted, inOrder⟩ := working
    refine .inl ⟨unacknowledged, ?_, posted, accounted, inOrder⟩
    intro writing
    exact unacknowledged (signalled writing)

theorem Server.Idle.buffered {server : Server heap} (idle : server.Idle) : server.buffered = 0 := by
  cases server with
  | receiving buffer => exact idle
  | popping buffer caller =>
    cases caller with
    | serverForever => exact idle
    | incoming | completion => cases idle
  | sending | confirming => cases idle
  | ended => rfl

/-- An idle service with an empty channel changes no account any more. -/
theorem Server.Idle.advance {receivers : Receivers} {world next : World}
    {server following : Server heap} (idle : server.Idle)
    (advanced : server.advance receivers world = some (next, following)) :
    next = world ∧ following = .ended (.ok ()) := by
  cases server with
  | receiving buffer => cases advanced
  | popping buffer caller =>
    cases caller with
    | serverForever =>
      rw [Server.advance, heap.pop_of_empty idle] at advanced
      cases advanced
      exact ⟨rfl, rfl⟩
    | incoming => cases idle
    | completion callback => cases idle
  | sending tx res buffer caller => cases idle
  | confirming callback buffer => cases idle
  | ended outcome => cases advanced

theorem Complete.takes (complete : Complete build file s) (taken : s.Takes config build t) :
    Complete build file t := by
  obtain ⟨acknowledged, applied, accounts, loaded, channel, idle⟩ := complete
  -- The loader has returned, the channel is empty and the service idle: nothing is left to do.
  cases taken with
  | loads advanced =>
    rw [loaded] at advanced
    cases advanced
  | receives receiving queued =>
    rw [channel] at queued
    cases queued
  | serves advanced =>
    obtain ⟨rfl, rfl⟩ := idle.advance advanced
    exact ⟨acknowledged, applied, accounts, loaded, rfl, trivial⟩
  | leavesLoop receiving =>
    rw [receiving] at idle
    exact ⟨acknowledged, applied, accounts, loaded, channel, idle⟩
  | handles handler => exact ⟨acknowledged, applied, accounts, loaded, channel, idle⟩
  | @fails task failure failed running =>
    cases task with
    | server => exact ⟨acknowledged, applied, accounts, loaded, rfl, trivial⟩
    | loader =>
      change s.loader.outcome = none at running
      rw [loaded] at running
      cases running
    | handler => exact ⟨acknowledged, applied, accounts, loaded, channel, idle⟩
  | goesOn cancelled signalled => exact ⟨acknowledged, applied, accounts, loaded, channel, idle⟩

theorem reachable_cases (steps : Steps (State.step config build) (.initial heap file) s) :
    Working build file s ∨ Complete build file s := by
  apply steps.invariant _ (.inl working_initial)
  intro action state next taken before
  obtain working | complete := before
  · exact working.takes (State.takes_of_step taken)
  · exact .inr (complete.takes (State.takes_of_step taken))

/-! ## A task that has ended -/

namespace State

theorem Takes.loader_ended {outcome : Outcome Unit} (taken : s.Takes config build t)
    (ended : s.loader = .ended outcome) : t.loader = .ended outcome := by
  cases taken with
  | loads advanced =>
    rw [ended] at advanced
    cases advanced
  | @fails task failure failed running =>
    cases task with
    | loader =>
      change s.loader.outcome = none at running
      rw [ended] at running
      cases running
    | server | handler => exact ended
  | receives | serves | leavesLoop | handles | goesOn => exact ended

theorem Takes.server_ended {outcome : Outcome Unit} (taken : s.Takes config build t)
    (ended : s.server = .ended outcome) : t.server = .ended outcome ∧ t.world = s.world := by
  cases taken with
  | receives receiving queued => rw [ended] at receiving; cases receiving
  | serves advanced => rw [ended] at advanced; cases advanced
  | leavesLoop receiving => rw [ended] at receiving; cases receiving
  | @fails task failure failed running =>
    cases task with
    | server =>
      change s.server.outcome = none at running
      rw [ended] at running
      cases running
    | loader | handler => exact ⟨ended, rfl⟩
  | loads | handles | goesOn => exact ⟨ended, rfl⟩

/-- The loader has failed, or the service has ended, and nobody has acknowledged the signal. -/
def StoppedEarly (s : State heap) : Prop :=
  .completed completionChannel ∉ s.world.sent ∧
    ((∃ failure, s.loader = .ended failure ∧ failure ≠ .ok ()) ∨ ∃ outcome, s.server = .ended outcome)

end State

theorem Working.takes_stopped (working : Working build file s) (stopped : s.StoppedEarly)
    (taken : s.Takes config build t) : Working build file t ∧ t.StoppedEarly := by
  obtain ⟨unacknowledged, failed | ended⟩ := stopped
  · obtain ⟨failure, loader, failed⟩ := failed
    have loader := taken.loader_ended loader
    obtain working | complete := working.takes taken
    · exact ⟨working, working.unacknowledged, .inl ⟨failure, loader, failed⟩⟩
    · -- The signal comes from a loader that has returned.
      rw [complete.loaded] at loader
      cases loader
      exact absurd rfl failed
  · obtain ⟨outcome, server⟩ := ended
    obtain ⟨server, world⟩ := taken.server_ended server
    rw [← world] at unacknowledged
    obtain working | complete := working.takes taken
    · exact ⟨working, unacknowledged, .inr ⟨outcome, server⟩⟩
    · exact absurd complete.acknowledged unacknowledged

theorem stopped_never_writes (steps : Steps (State.step config build) (.initial heap file) s)
    (stopped : s.StoppedEarly) (later : Steps (State.step config build) s t) :
    t.main ≠ .writingSnapshot := by
  have kept : Working build file t ∧ t.StoppedEarly := by
    apply later.invariant
    · intro action state next taken before
      exact before.1.takes_stopped before.2 (State.takes_of_step taken)
    · obtain working | complete := reachable_cases steps
      · exact ⟨working, stopped⟩
      · exact absurd complete.acknowledged stopped.1
  exact kept.1.noSnapshot

/-- In every state that the pipeline can reach over a file: if `main` writes the snapshot then
    every row has been read and applied once, and none is left in the channel or in the heap; so a
    malformed row, or an early stop of the loader or the service, means that it never does. -/
theorem snapshot_all_or_nothing (heap : PendingHeap) (config : ServiceConfig) (build : Build)
    (file : List Record) (s : State heap)
    (steps : Steps (State.step config build) (.initial heap file) s) :
    (s.main = .writingSnapshot →
      (∃ messages, CsvReader.readAll build 0 file = some messages ∧
        s.world.applied.Perm messages) ∧
      s.world.accounts = after Accounts.process ∅ s.world.applied ∧
      pendingOf s.channel = [] ∧ s.server.buffered = 0) ∧
    ((∃ recordResult ∈ file, CsvReader.Malformed build recordResult) → s.main ≠ .writingSnapshot) ∧
    (s.StoppedEarly → ∀ t, Steps (State.step config build) s t → t.main ≠ .writingSnapshot) := by
  refine ⟨?_, ?_, fun stopped t later => stopped_never_writes steps stopped later⟩
  · intro writing
    obtain working | complete := reachable_cases steps
    · exact absurd writing working.noSnapshot
    · obtain ⟨messages, read, applied, _⟩ := complete.applied
      exact ⟨⟨messages, read, applied⟩, complete.accounts, by rw [complete.channel]; rfl,
        complete.idle.buffered⟩
  · rintro ⟨recordResult, member, malformed⟩ writing
    obtain working | complete := reachable_cases steps
    · exact absurd writing working.noSnapshot
    · obtain ⟨messages, read, _, _⟩ := complete.applied
      exact CsvReader.readAll_wellFormed read recordResult member malformed

/-- Two clients, one of whom disputes a deposit. -/
def twoClientsFile : List Record :=
  [.ok { type := "deposit".toList, client := "1".toList, tx := "1".toList, amount := "1.0".toList },
    .ok { type := "deposit".toList, client := "2".toList, tx := "2".toList, amount := "2.5".toList },
    .ok { type := "withdrawal".toList, client := "1".toList, tx := "3".toList, amount := "0.5".toList },
    .ok { type := "dispute".toList, client := "2".toList, tx := "2".toList, amount := "".toList }]

/-- Three rows fill the heap; the last one stays there until the signal comes. -/
def twoClientsSchedule : List Action :=
  .replicate 7 (.advance .loader) ++ .replicate 5 (.advance .server) ++ [.advance .handler] ++
    .replicate 4 (.advance .loader) ++ [.join .loader] ++ .replicate 11 (.advance .server) ++ [.signal]

theorem snapshot_of_twoClients :
    ∃ s : State (listHeap PendingTransaction.cmp), s.main = .writingSnapshot ∧
      s.world.accounts.keys = {1, 2} ∧ s.world.applied.length = 4 ∧
      (∃ messages, CsvReader.readAll .debug 0 twoClientsFile = some messages ∧
        s.world.applied.Perm messages) ∧
      s.world.accounts = after Accounts.process ∅ s.world.applied ∧
      pendingOf s.channel = [] ∧ s.server.buffered = 0 := by
  have writes : (run (State.step ⟨3⟩ .debug) twoClientsSchedule
      (.initial (listHeap PendingTransaction.cmp) twoClientsFile)).map
        (fun s => (s.main, s.world.accounts.keys, s.world.applied.length)) =
        some (.writingSnapshot, {1, 2}, 4) := by
    decide +kernel
  obtain ⟨s, ran, reached⟩ := Option.map_eq_some_iff.mp writes
  simp only [Prod.mk.injEq] at reached
  exact ⟨s, reached.1, reached.2.1, reached.2.2,
    (snapshot_all_or_nothing _ ⟨3⟩ .debug twoClientsFile s (steps_of_run ran)).1 reached.1⟩

/-- The file of one deposit. -/
def depositFile : List Record :=
  [.ok { type := "deposit".toList, client := "1".toList, tx := "1".toList, amount := "1.0".toList }]

def depositSchedule : List Action :=
  [.advance .loader, .advance .loader, .advance .loader, .advance .server, .advance .loader,
    .advance .loader, .join .loader, .advance .server, .advance .server, .advance .handler,
    .advance .server, .advance .server, .advance .server, .advance .server, .signal]

/-- When everything is applied, a file of fewer rows than there are sequence numbers has led to the
    accounts that its rows lead to one after the other. -/
theorem Complete.sequential (complete : Complete build file s) (short : file.length ≤ 2 ^ 64) :
    ∃ messages, CsvReader.readAll build 0 file = some messages ∧
      s.world.accounts = after Accounts.process ∅ messages := by
  obtain ⟨messages, read, _, inOrder⟩ := complete.applied
  have numbered : Numbered messages := CsvReader.readAll_numbered read short
  exact ⟨messages, read, by rw [complete.accounts, inOrder numbered]⟩

/-- The snapshot has these accounts. -/
theorem snapshot_sequential (short : file.length ≤ 2 ^ 64)
    (steps : Steps (State.step config build) (.initial heap file) s)
    (writing : s.main = .writingSnapshot) :
    ∃ messages, CsvReader.readAll build 0 file = some messages ∧
      s.world.accounts = after Accounts.process ∅ messages := by
  obtain working | complete := reachable_cases steps
  · exact absurd writing working.noSnapshot
  · exact complete.sequential short

end PaymentsEngine.Pipeline
