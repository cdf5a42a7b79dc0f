import PaymentsEngine.Service.ReachableAccounts
import PaymentsEngine.Pipeline.Snapshot

/-! # Whenever the pipeline is looked at

What has been done of a file is always what its first rows do one after the other: none
of them is skipped, done twice or overtaken, also when a task has failed.  Of their
outcomes the last one may still be missing.
-/

namespace PaymentsEngine.Pipeline

open PaymentsEngine.Library PaymentsEngine.Library.Schedule PaymentsEngine.Library.Machine

variable {heap : PendingHeap} {config : ServiceConfig} {build : Build} {file : List Record}
variable {s t : State heap}

/-! ## The loader -/

/-- The messages that the loader is still to send when nothing stops it. -/
def LoadFile.ahead (build : Build) : LoadFile → List InputMessage
  | .opening records => (loadFile build (.new records)).1
  | .reading reader => (loadFile build reader).1
  | .sending msg reader => msg :: (loadFile build reader).1
  | .completing | .ended _ => []

theorem LoadFile.ahead_advance {loader following : LoadFile} {listening : Bool}
    {new : List ServiceMessage}
    (advanced : loader.advance build listening = some (following, new)) :
    incomingMessages new ++ following.ahead build <+: loader.ahead build := by
  cases loader with
  | opening records =>
    cases advanced
    exact List.prefix_rfl
  | reading reader =>
    have next := loadFile_next build reader
    rw [LoadFile.advance] at advanced
    generalize reader.next build = outcome at advanced next
    obtain ⟨outcome, rest⟩ := outcome
    rw [LoadFile.ahead, next]
    cases outcome with
    | ok message =>
      cases message with
      | none => cases advanced; exact List.prefix_rfl
      | some msg => cases advanced; exact List.prefix_rfl
    | err error => cases advanced; exact List.prefix_rfl
    | panic => cases advanced; exact List.prefix_rfl
  | sending msg reader =>
    -- With nobody listening the row is lost, and the loader stops.
    cases listening with
    | true => cases advanced; exact List.prefix_rfl
    | false => cases advanced; exact List.nil_prefix
  | completing =>
    cases listening with
    | true => cases advanced; exact List.prefix_rfl
    | false => cases advanced; exact List.prefix_rfl
  | ended outcome => cases advanced

/-! ## The service -/

/-- The accounts are those of the applied messages, and at most the last outcome is missing. -/
structure Settled (world : World) : Prop where
  accounts : world.accounts = after Accounts.process ∅ world.applied
  outcomes : ∃ unsent, unsent.length ≤ 1 ∧
    world.sent.filterMap Event.resolution ++ unsent = outputs Accounts.resolve ∅ world.applied

namespace Server

variable {receivers : Receivers} {world next : World} {received : List ServiceMessage}
variable {server following : Server heap}

theorem settled_of_running (running : server.outcome = none)
    (accounted : server.Accounted world received) : Settled world := by
  cases server with
  | receiving buffer => exact ⟨accounted.accounts, [], by simp, accounted.outcomes⟩
  | popping buffer caller => exact ⟨accounted.1.accounts, [], by simp, accounted.1.outcomes⟩
  | sending tx res buffer caller =>
    exact ⟨accounted.1.accounts, _, by simp, accounted.1.outcomes⟩
  | confirming callback buffer => exact ⟨accounted.1.accounts, [], by simp, accounted.1.outcomes⟩
  | ended outcome => cases running

theorem applied_of_running (running : server.outcome = none)
    (inOrder : server.InOrder world received) : world.applied <+: incomingMessages received := by
  cases server with
  | receiving | popping | sending | confirming =>
    obtain ⟨waiting, _, order⟩ := inOrder
    exact ⟨_, order⟩
  | ended outcome => cases running

/-- The operation with which the service ends changes nothing. -/
theorem advance_ends (advanced : server.advance receivers world = some (next, following))
    (ended : following.outcome ≠ none) : next = world := by
  have unsent {callback : ChannelId} {event : Event} {error : String} {after : Server heap}
      (running : after.outcome = none)
      (sends : Server.sent after (Service.send receivers world callback event error) =
        (next, following)) : next = world := by
    obtain ⟨_, rfl, _⟩ | ⟨_, _, same⟩ := sent_cases sends
    · exact absurd running ended
    · exact same
  cases server with
  | receiving buffer => cases advanced
  | popping buffer caller =>
    rw [Server.advance] at advanced
    split at advanced
    next => cases advanced; rfl
    next => cases advanced; exact absurd rfl ended
  | sending tx res buffer caller => exact unsent rfl (Option.some.inj advanced)
  | confirming callback buffer => exact unsent rfl (Option.some.inj advanced)
  | ended outcome => cases advanced

end Server

/-! ## Every state -/

/-- The rows of a file are at their places in a state: those that were received, then those in the
    channel, then those that the loader has not sent, up to rows that a failure has lost. -/
structure InPlace (build : Build) (messages : List InputMessage) (s : State heap) : Prop where
  accounted : s.server.Accounted s.world s.received
  inOrder : s.server.InOrder s.world s.received
  settled : Settled s.world
  applied : s.world.applied <+: incomingMessages s.received
  received : incomingMessages s.received <+: messages
  ahead : s.server.outcome = none →
    incomingMessages (s.received ++ s.channel) ++ s.loader.ahead build <+: messages

namespace InPlace

variable {messages : List InputMessage}

theorem initial (heap : PendingHeap) (build : Build) (file : List Record) :
    InPlace build (loadFile build (.new file)).1 (State.initial heap file) where
  accounted := Service.accounted_new heap
  inOrder := ⟨[], heap.contents_new, rfl⟩
  settled := ⟨rfl, [], by simp, rfl⟩
  applied := List.prefix_rfl
  received := List.nil_prefix
  ahead := fun _ => List.prefix_rfl

variable (inPlace : InPlace build messages s)

include inPlace

theorem loads {loader : LoadFile} {posted : List ServiceMessage}
    (advanced : s.loader.advance build s.listening = some (loader, posted)) :
    InPlace build messages { s with loader := loader, channel := s.channel ++ posted } := by
  obtain ⟨accounted, inOrder, settled, applied, received, ahead⟩ := inPlace
  refine ⟨accounted, inOrder, settled, applied, received, ?_⟩
  intro running
  have sends := LoadFile.ahead_advance advanced
  have all := (List.prefix_append_right_inj (incomingMessages (s.received ++ s.channel))).mpr sends
  rw [← List.append_assoc, ← incomingMessages_append, List.append_assoc] at all
  exact all.trans (ahead running)

theorem receives {buffer : heap.Carrier} {msg : ServiceMessage} {channel : List ServiceMessage}
    (receiving : s.server = .receiving buffer) (queued : s.channel = msg :: channel) :
    InPlace build messages { s with
      server := .receive config buffer msg, channel := channel, received := s.received ++ [msg] } := by
  obtain ⟨accounted, inOrder, settled, applied, received, ahead⟩ := inPlace
  rw [receiving] at accounted inOrder ahead
  rw [queued] at ahead
  have all := ahead rfl
  rw [List.append_cons] at all
  have sofar : incomingMessages (s.received ++ [msg]) <+: messages := by
    rw [incomingMessages_append (s.received ++ [msg]), List.append_assoc] at all
    exact (List.prefix_append _ _).trans all
  refine ⟨.receive accounted, .receive inOrder, settled, ?_, sofar, fun _ => all⟩
  rw [incomingMessages_append]
  exact applied.trans (List.prefix_append _ _)

theorem serves (numbered : Numbered messages) {world : World} {server : Server heap}
    (advanced : s.server.advance s.receivers s.world = some (world, server)) :
    InPlace build messages ({ s with world := world }.withServer server) := by
  obtain ⟨accounted, inOrder, settled, applied, received, ahead⟩ := inPlace
  have accounted := accounted.advance advanced
  have inOrder := inOrder.advance (numbered.sublist received.sublist) advanced
  have running := Server.running_of_advance advanced
  by_cases ended : server.outcome = none
  · refine ⟨accounted, inOrder, Server.settled_of_running ended accounted,
      Server.applied_of_running ended inOrder, received, ?_⟩
    intro _
    simp only [State.withServer, ended]
    exact ahead running
  · obtain rfl := Server.advance_ends advanced ended
    exact ⟨accounted, inOrder, settled, applied, received, fun runs => absurd runs ended⟩

theorem fails {task : Task} {failure : Outcome Unit} :
    InPlace build messages (s.stop failure task) := by
  obtain ⟨accounted, inOrder, settled, applied, received, ahead⟩ := inPlace
  cases task with
  | server => exact ⟨trivial, trivial, settled, applied, received, fun running => by cases running⟩
  | loader =>
    refine ⟨accounted, inOrder, settled, applied, received, ?_⟩
    intro running
    have sent := (List.prefix_append _ _).trans (ahead running)
    rwa [← List.append_nil (incomingMessages (s.received ++ s.channel))] at sent
  | handler => exact ⟨accounted, inOrder, settled, applied, received, ahead⟩

theorem takes (numbered : Numbered messages) (taken : s.Takes config build t) :
    InPlace build messages t := by
  cases taken with
  | loads advanced => exact inPlace.loads advanced
  | receives receiving queued => exact inPlace.receives receiving queued
  | serves advanced => exact inPlace.serves numbered advanced
  | leavesLoop receiving =>
    obtain ⟨accounted, inOrder, settled, applied, received, ahead⟩ := inPlace
    rw [receiving] at accounted inOrder ahead
    exact ⟨⟨accounted, trivial⟩, inOrder, settled, applied, received, fun _ => ahead rfl⟩
  | fails failed running => exact inPlace.fails
  | handles | goesOn =>
    obtain ⟨accounted, inOrder, settled, applied, received, ahead⟩ := inPlace
    exact ⟨accounted, inOrder, settled, applied, received, ahead⟩

end InPlace

/-- In every state of every interleaving, whatever has failed: the applied messages are the first
    ones of the file, the accounts are those that these lead to one after the other, each of them
    stands for its client and passes the checks of a debug build, and the outcomes that were sent
    are those of these messages in their order, but for the last one at most. -/
theorem every_state_sequential (heap : PendingHeap) (config : ServiceConfig) (build : Build)
    (file : List Record) (short : file.length ≤ 2 ^ 64) (s : State heap)
    (steps : Steps (State.step config build) (.initial heap file) s) :
    let messages := (loadFile build (.new file)).1
    let sent := s.world.sent.filterMap Event.resolution
    ∃ count ≤ messages.length, s.world.applied = messages.take count ∧
      s.world.accounts = after Accounts.process ∅ (messages.take count) ∧
      (∀ clientId account, s.world.accounts.lookup clientId = some account →
        account.Stands clientId ∧ account.checkInvariants = true) ∧
      sent <+: outputs Accounts.resolve ∅ messages ∧ sent.length ≤ count ∧ count ≤ sent.length + 1 := by
  intro messages sent
  have numbered : Numbered messages := numbered_loadFile build short
  have inPlace : InPlace build messages s := by
    refine steps.invariant ?_ (.initial heap build file)
    intro action state next taken before
    exact before.takes numbered (State.takes_of_step taken)
  have first := inPlace.applied.trans inPlace.received
  have applied := List.prefix_iff_eq_take.mp first
  obtain ⟨accounts, unsent, atMostOne, outcomes⟩ := inPlace.settled
  have count := congrArg List.length outcomes
  rw [List.length_append, outputs_length] at count
  refine ⟨s.world.applied.length, first.length_le, applied, ?_, ?_, ?_, ?_, ?_⟩
  · rw [← applied]
    exact accounts
  · intro clientId account found
    rw [accounts] at found
    exact Accounts.stands_after found
  · have answers : outputs Accounts.resolve ∅ s.world.applied <+: outputs Accounts.resolve ∅ messages := by
      obtain ⟨rest, all⟩ := first
      rw [← all, outputs_append]
      exact List.prefix_append _ _
    exact (outcomes ▸ List.prefix_append sent unsent).trans answers
  · change sent.length + unsent.length = _ at count
    omega
  · change sent.length + unsent.length = _ at count
    omega

/-- The service panics with the deposit applied and nothing sent. -/
def panicSchedule : List Action :=
  [.advance .loader, .advance .loader, .advance .loader, .advance .server, .advance .server,
    .fail .server .panic]

theorem every_state_of_deposit :
    ∃ s : State (listHeap PendingTransaction.cmp), s.server.outcome = some .panic ∧
      s.world.applied.length = 1 ∧ s.world.sent = [] ∧
      ∃ count, s.world.applied = (loadFile .debug (.new depositFile)).1.take count ∧
        s.world.accounts = after Accounts.process ∅
          ((loadFile .debug (.new depositFile)).1.take count) := by
  have panics : (run (State.step ⟨1⟩ .debug) panicSchedule
      (.initial (listHeap PendingTransaction.cmp) depositFile)).map
        (fun s => (s.server.outcome, s.world.applied.length, s.world.sent)) =
        some (some .panic, 1, []) := by
    decide +kernel
  obtain ⟨s, ran, reached⟩ := Option.map_eq_some_iff.mp panics
  simp only [Prod.mk.injEq] at reached
  obtain ⟨count, _, applied, accounts, _⟩ :=
    every_state_sequential _ ⟨1⟩ .debug depositFile (by decide) s (steps_of_run ran)
  exact ⟨s, reached.1, reached.2.1, reached.2.2, count, applied, accounts⟩

end PaymentsEngine.Pipeline
