import PaymentsEngine.Domain.Redelivery
import PaymentsEngine.Service.Sequential

/-! # Starting a stream again

A service that was stopped somewhere in a stream gets the whole stream again on the
accounts that it left.  What it accepted the first time it refuses the second time.  A
message that it rejected the first time may be accepted now, when the reason of the
rejection has gone; when no message is, the second pass over the first part leaves no
trace.
-/

namespace PaymentsEngine

open PaymentsEngine.Library PaymentsEngine.Library.Machine

namespace Accounts

/-! ## Accounts without their histories -/

/-- What a release build stores for each client. -/
def released (self : Accounts) (clientId : ClientId) : Option Account :=
  (self.lookup clientId).map Account.released

theorem entry_released {first second : Accounts} (same : first.released = second.released)
    (clientId : ClientId) :
    (first.entry clientId).released = (second.entry clientId).released := by
  have stored : (first.lookup clientId).map Account.released =
      (second.lookup clientId).map Account.released := congrFun same clientId
  rw [entry, entry]
  cases found : first.lookup clientId <;> cases other : second.lookup clientId <;>
    simp_all

theorem released_insert (self : Accounts) (clientId : ClientId) (account : Account) :
    released (self.insert clientId account) =
      Function.update self.released clientId (some account.released) := by
  funext other
  rw [released, lookup_insert_eq, Function.update_apply]
  split <;> rfl

theorem respects_released : Respects process released where
  answers := by
    intro first second msg same
    rw [process_fst, process_fst]
    exact (Account.behavesLike_of_released (entry_released same msg.clientId)).answers msg.call
  views := by
    intro first second msg same
    rw [process_snd, process_snd, released_insert, released_insert, same,
      Account.respects_released.views msg.call (entry_released same msg.clientId)]

/-! ## Messages that a client's account has refused for good -/

theorem entry_process (self : Accounts) (msg : InputMessage) (clientId : ClientId) :
    (self.process msg).2.entry clientId =
      if clientId = msg.clientId then ((self.entry msg.clientId).apply msg.call).2
      else self.entry clientId := by
  rw [process_snd, entry, lookup_insert_eq]
  split <;> rfl

theorem mem_process (self : Accounts) (msg : InputMessage) (clientId : ClientId) :
    clientId ∈ (self.process msg).2 ↔ clientId = msg.clientId ∨ clientId ∈ self := by
  rw [process_snd]
  exact Finmap.mem_insert

/-- The client has an account, and the account has done with the message. -/
structure Settled (accounts : Accounts) (msg : InputMessage) : Prop where
  known : msg.clientId ∈ accounts
  spent : (accounts.entry msg.clientId).Spent msg.call

theorem Settled.process {self : Accounts} {msg : InputMessage} (settled : self.Settled msg)
    (other : InputMessage) : (self.process other).2.Settled msg where
  known := (self.mem_process other msg.clientId).mpr (.inr settled.known)
  spent := by
    rw [entry_process]
    split
    next same => rw [← same]; exact settled.spent.apply other.call
    next => exact settled.spent

theorem Settled.after {self : Accounts} {msg : InputMessage} (settled : self.Settled msg)
    (messages : List InputMessage) : (Machine.after Accounts.process self messages).Settled msg := by
  have keeps : ∀ accounts other, Settled accounts msg → (accounts.process other).2.Settled msg :=
    fun _ other settled => settled.process other
  exact after_invariant Accounts.process keeps settled messages

theorem Settled.refused {self : Accounts} {msg : InputMessage} (settled : self.Settled msg) :
    (self.process msg).1 ≠ .ok () := by
  obtain ⟨error, refused⟩ := settled.spent.apply_eq
  rw [process_fst, refused]
  simp

theorem settled_of_ok {self : Accounts} {msg : InputMessage} (ok : (self.process msg).1 = .ok ()) :
    (self.process msg).2.Settled msg where
  known := (self.mem_process msg msg.clientId).mpr (.inl rfl)
  spent := by
    rw [process_fst] at ok
    rw [entry_process, if_pos rfl]
    exact Account.spent_of_accepts (Account.accepts_of_ok ok) (by simp [Account.redelivers])

theorem settled_of_lasting {self : Accounts} {msg : InputMessage} {error : TransactionError}
    (failed : (self.process msg).1 = .error error) (lasts : error.lasting = true) :
    (self.process msg).2.Settled msg where
  known := (self.mem_process msg msg.clientId).mpr (.inl rfl)
  spent := by
    rw [process_fst] at failed
    rw [entry_process, if_pos rfl]
    exact (Account.spent_of_lasting failed lasts).apply msg.call

/-- A refused message of a known client leaves no trace. -/
theorem released_of_refused {self : Accounts} {msg : InputMessage} (known : msg.clientId ∈ self)
    (refused : (self.process msg).1 ≠ .ok ()) : (self.process msg).2.released = self.released := by
  rw [process_fst] at refused
  rw [process_snd, released_insert, Account.apply_refused refused, Account.released_logged]
  obtain ⟨account, found⟩ := Finmap.mem_iff.mp known
  rw [entry, found]
  exact Function.update_eq_self_iff.mpr (by rw [released, found]; rfl)

theorem released_of_all_refused {self : Accounts} {messages : List InputMessage}
    (known : ∀ msg ∈ messages, msg.clientId ∈ self)
    (refused : ∀ answer ∈ outputs process self messages, answer ≠ .ok ()) :
    (Machine.after process self messages).released = self.released := by
  induction messages generalizing self with
  | nil => rfl
  | cons msg messages ih =>
    rw [outputs_cons, List.forall_mem_cons] at refused
    rw [List.forall_mem_cons] at known
    rw [after_cons, ih ?_ refused.2]
    · exact released_of_refused known.1 refused.1
    · intro other member
      exact (self.mem_process msg other.clientId).mpr (.inr (known.2 other member))

/-! ## The second pass -/

/-- What a run accepted, or rejected with a lasting error, is settled after it. -/
theorem settled_after_log (messages : List InputMessage) :
    ∀ (self : Accounts), ∀ entry ∈ log process self messages,
      (∀ error, entry.2 = .error error → error.lasting = true) →
        (Machine.after process self messages).Settled entry.1 := by
  induction messages with
  | nil => intro self entry member; cases member
  | cons msg messages ih =>
    intro self entry member final
    rw [log, List.mem_cons] at member
    rw [after_cons]
    obtain rfl | member := member
    · apply Settled.after
      cases answered : (self.process msg).1 with
      | ok => exact settled_of_ok answered
      | error error => exact settled_of_lasting answered (final error answered)
    · exact ih _ entry member final

/-- Messages that are settled are refused by a second pass, whatever else it accepts. -/
theorem refused_again (entries : List (InputMessage × TransactionResult)) :
    ∀ (self : Accounts) (final : TransactionResult → Prop),
      (∀ entry ∈ entries, final entry.2 → self.Settled entry.1) →
        ∀ pair ∈ (entries.map Prod.snd).zip (outputs process self (entries.map Prod.fst)),
          final pair.1 → pair.2 ≠ .ok () := by
  induction entries with
  | nil => intro self final settled pair member; cases member
  | cons entry entries ih =>
    intro self final settled pair member isFinal
    rw [List.map_cons, List.map_cons, outputs_cons, List.zip_cons_cons, List.mem_cons] at member
    rw [List.forall_mem_cons] at settled
    obtain rfl | member := member
    · exact (settled.1 isFinal).refused
    · refine ih _ final ?_ pair member isFinal
      intro other member isFinal
      exact (settled.2 other member isFinal).process entry.1

/-- The answers of a service to the first `k` messages, when it gets them first and when it gets
    them once more on the accounts that they led to. -/
def passes (messages : List InputMessage) (k : Nat) : List (TransactionResult × TransactionResult) :=
  (outputs process ∅ (messages.take k)).zip
    (outputs process (Machine.after process ∅ (messages.take k)) (messages.take k))

theorem passes_refused (messages : List InputMessage) (k : Nat) :
    ∀ pair ∈ passes messages k,
      (∀ error, pair.1 = .error error → error.lasting = true) → pair.2 ≠ .ok () := by
  have settled := settled_after_log (messages.take k) ∅
  have refused := refused_again _ (Machine.after process ∅ (messages.take k))
    (fun answer => ∀ error, answer = .error error → error.lasting = true) settled
  rw [map_snd_log, map_fst_log] at refused
  exact refused

theorem passes_accepted (messages : List InputMessage) (k : Nat) :
    ∀ pair ∈ passes messages k, pair.1 = .ok () → pair.2 ≠ .ok () := by
  intro pair member accepted
  apply passes_refused messages k pair member
  intro error rejected
  rw [accepted] at rejected
  cases rejected

theorem known_after (messages : List InputMessage) :
    ∀ msg ∈ messages, msg.clientId ∈ Machine.after process ∅ messages := by
  intro msg member
  rw [process_eq_step, Keyed.mem_after]
  exact .inr ⟨msg, member, rfl⟩

/-- When the second pass accepts none of the first `k` messages, it leaves no trace. -/
theorem released_of_passes {messages : List InputMessage} {k : Nat}
    (refused : ∀ pair ∈ passes messages k, pair.2 ≠ .ok ()) :
    (Machine.after process (Machine.after process ∅ (messages.take k)) messages).released =
      (Machine.after process ∅ messages).released := by
  have second : ∀ answer ∈ outputs process (Machine.after process ∅ (messages.take k))
      (messages.take k), answer ≠ .ok () := by
    intro answer member
    have answers : (passes messages k).map Prod.snd =
        outputs process (Machine.after process ∅ (messages.take k)) (messages.take k) :=
      List.map_snd_zip (by rw [outputs_length, outputs_length])
    rw [← answers, List.mem_map] at member
    obtain ⟨pair, paired, rfl⟩ := member
    exact refused pair paired
  have idle := released_of_all_refused (known_after (messages.take k)) second
  have split : ∀ accounts, Machine.after process accounts messages =
      Machine.after process (Machine.after process accounts (messages.take k)) (messages.drop k) := by
    intro accounts
    rw [← after_append, List.take_append_drop]
  rw [split (Machine.after process ∅ (messages.take k)), split ∅]
  exact respects_released.after idle (messages.drop k)

end Accounts

namespace Service

/-- The accounts that a service leaves when it is started on `accounts` and given `messages`. -/
def feed (heap : PendingHeap) (config : ServiceConfig) (stop : Stop) (accounts : Accounts)
    (messages : List InputMessage) : Accounts :=
  (eventLoop heap .allOpen config { World.new with accounts := accounts } heap.new stop []
    (messages.map fun msg => .incoming msg 0)).world.accounts

theorem pendingOf_incoming (messages : List InputMessage) :
    pendingOf (messages.map fun msg => .incoming msg 0) = messages.map fun msg => ⟨msg, 0⟩ := by
  induction messages with
  | nil => rfl
  | cons msg messages ih => rw [List.map_cons, pendingOf, ih, List.map_cons]

/-- Numbered messages are applied one by one. -/
theorem feed_eq_after (heap : PendingHeap) (config : ServiceConfig) (stop : Stop)
    (accounts : Accounts) {messages : List InputMessage}
    (numbered : messages.Pairwise fun earlier later => earlier.chronoOrder < later.chronoOrder) :
    feed heap config stop accounts messages = after Accounts.process accounts messages := by
  have ascending : Ascending heap heap.new []
      (pendingOf (messages.map fun msg => .incoming msg 0)) := by
    refine ⟨heap.contents_new, ?_⟩
    rw [pendingOf_incoming, List.nil_append, List.pairwise_map]
    exact numbered
  obtain ⟨_, _, applied⟩ := eventLoop_applied config stop
    (messages.map fun msg => .incoming msg 0) { World.new with accounts := accounts } heap.new [] []
    ascending
  rw [feed, applied, pendingOf_incoming, List.nil_append, List.map_map]
  exact congrArg _ (List.map_id messages)

/-- What it means to stop after `k` messages of a stream and to start again from its beginning. -/
structure Restarts (messages : List InputMessage) (k : Nat) : Prop where
  -- A message that was accepted is refused the second time.
  acceptedOnce : ∀ pair ∈ Accounts.passes messages k, pair.1 = .ok () → pair.2 ≠ .ok ()
  -- Unless one that was rejected is accepted the second time, the restart cannot be noticed.
  unnoticed : (∀ pair ∈ Accounts.passes messages k, pair.1 ≠ .ok () → pair.2 ≠ .ok ()) →
    Accounts.released (after Accounts.process
      (after Accounts.process ∅ (messages.take k)) messages) =
        Accounts.released (after Accounts.process ∅ messages)
  -- One that was rejected with a lasting error is rejected the second time.
  lasting : ∀ pair ∈ Accounts.passes messages k,
    ∀ error, pair.1 = .error error → error.lasting = true → pair.2 ≠ .ok ()
  -- Two runs of the event loop, the first one cancelled, do just this.
  eventLoops : (messages.Pairwise fun earlier later => earlier.chronoOrder < later.chronoOrder) →
    ∀ heap config stop,
      feed heap config stop (feed heap config .cancelled ∅ (messages.take k)) messages =
          after Accounts.process (after Accounts.process ∅ (messages.take k)) messages ∧
        feed heap config stop ∅ messages = after Accounts.process ∅ messages

theorem restarts (messages : List InputMessage) (k : Nat) : Restarts messages k where
  acceptedOnce := Accounts.passes_accepted messages k
  unnoticed := by
    intro refused
    apply Accounts.released_of_passes
    intro pair member
    by_cases accepted : pair.1 = .ok ()
    · exact Accounts.passes_accepted messages k pair member accepted
    · exact refused pair member accepted
  lasting := by
    intro pair member error rejected lasts
    apply Accounts.passes_refused messages k pair member
    intro other same
    rw [rejected] at same
    cases same
    exact lasts
  eventLoops := by
    intro numbered heap config stop
    have first : (messages.take k).Pairwise fun earlier later =>
        earlier.chronoOrder < later.chronoOrder := numbered.sublist (List.take_sublist k messages)
    rw [feed_eq_after heap config .cancelled ∅ first, feed_eq_after heap config stop _ numbered,
      feed_eq_after heap config stop ∅ numbered]
    exact ⟨rfl, rfl⟩

/-- The balances, the lock and the transaction states of an account. -/
def standing (account : Account) : Int × Int × Int × Bool × (TransactionId → Option TransactionState) :=
  (account.available, account.held, account.total, account.locked, account.stateOf)

/-- A withdrawal that is rejected before the deposit that it needs is accepted the second time. -/
theorem withdrawal_accepted_again :
    ¬ ∀ (messages : List InputMessage) (k : Nat) (clientId : ClientId),
      ((after Accounts.process (after Accounts.process ∅ (messages.take k)) messages).lookup
          clientId).map standing =
        ((after Accounts.process ∅ messages).lookup clientId).map standing := by
  intro idempotent
  let messages : List InputMessage := [⟨0, .withdrawal, 1, 1, 50000⟩, ⟨1, .deposit, 1, 2, 100000⟩]
  have same := congrArg (Option.map Prod.fst) (idempotent messages 2 1)
  rw [Option.map_map, Option.map_map] at same
  have different : ((after Accounts.process (after Accounts.process ∅ (messages.take 2)) messages).lookup
      1).map Account.available ≠
        ((after Accounts.process ∅ messages).lookup 1).map Account.available := by
    decide +kernel
  exact different same

/-- Each of the other errors is one that a message may get the first time and not the second: of a
    withdrawal before its deposit, a dispute before its deposit, a resolve before its dispute. -/
theorem lasting_iff (error : TransactionError) :
    error.lasting = true ↔ ∀ messages k, ∀ pair ∈ Accounts.passes messages k,
      pair.1 = .error error → pair.2 ≠ .ok () := by
  constructor
  · intro lasts messages k pair member rejected
    apply Accounts.passes_refused messages k pair member
    intro other same
    rw [rejected] at same
    cases same
    exact lasts
  · intro refused
    -- Only an error that is not lasting has a run to show.
    have accepted {messages : List InputMessage} {k : Nat}
        (again : (.error error, .ok ()) ∈ Accounts.passes messages k) : error.lasting = true :=
      absurd rfl (refused messages k _ again rfl)
    let deposit : InputMessage := ⟨1, .deposit, 1, 1, 5⟩
    cases error with
    | insufficientBalance =>
      let withdrawal : InputMessage := ⟨0, .withdrawal, 1, 2, 5⟩
      exact @accepted [withdrawal, deposit] 2 (by decide +kernel)
    | invalidTransaction =>
      let dispute : InputMessage := ⟨0, .dispute, 1, 1, 0⟩
      exact @accepted [dispute, deposit] 2 (by decide +kernel)
    | transactionNotDisputed =>
      let resolve : InputMessage := ⟨2, .resolve, 1, 1, 0⟩
      let dispute : InputMessage := ⟨3, .dispute, 1, 1, 0⟩
      exact @accepted [deposit, resolve, dispute] 3 (by decide +kernel)
    | accountLocked | duplicateTransaction | cannotRevertToNormal | amountNegative
      | transactionTerminalState | alreadyDisputed => rfl

end Service

end PaymentsEngine
