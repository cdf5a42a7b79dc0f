import PaymentsEngine.Library.TwoRuns
import PaymentsEngine.Domain.AccountSteps

/-! # What calls can observe of an account

Two accounts answer every further sequence of calls alike, with the same balances all
along, exactly when their balances are equal and, unless they are locked, so are their
transactions up to what no call looks at any more: the amount of a transaction in a
terminal state, and everything of a message but its amount.
-/

namespace PaymentsEngine

open PaymentsEngine.Library PaymentsEngine.Library.Machine

namespace Account

def balances (self : Account) : Int × Int × Int × Bool :=
  (self.available, self.held, self.total, self.locked)

/-- What calls still see of a recorded transaction. -/
def remaining (entry : TransactionState × InputMessage) : TransactionState × Option Int :=
  (entry.1, if entry.1.isOpen then some entry.2.amount else none)

/-- Equal balances and, while calls are not refused for the lock, equal remains of every
    transaction. -/
structure BehavesLike (first second : Account) : Prop where
  available : first.available = second.available
  held : first.held = second.held
  total : first.total = second.total
  locked : first.locked = second.locked
  transactions : first.locked = false → ∀ id,
    (first.transactions.lookup id).map remaining = (second.transactions.lookup id).map remaining

section BehavesLike

variable {first second : Account}

theorem BehavesLike.logged (like : BehavesLike first second) (msg : InputMessage) :
    BehavesLike (first.logged msg) (second.logged msg) where
  available := like.available
  held := like.held
  total := like.total
  locked := like.locked
  transactions := like.transactions

theorem BehavesLike.mem_iff (like : BehavesLike first second) (unlocked : first.locked = false)
    (id : TransactionId) : id ∈ first.transactions ↔ id ∈ second.transactions := by
  rw [← Finmap.lookup_isSome, ← Finmap.lookup_isSome, ← Option.isSome_map (f := remaining),
    like.transactions unlocked, Option.isSome_map]

/-- An open transaction of the one is open in the other, with the same amount. -/
theorem BehavesLike.found (like : BehavesLike first second) (unlocked : first.locked = false)
    {id : TransactionId} {state : TransactionState} {stored : InputMessage}
    (found : first.transactions.lookup id = some (state, stored)) (isOpen : state.isOpen = true) :
    ∃ other, second.transactions.lookup id = some (state, other) ∧ other.amount = stored.amount := by
  have same := like.transactions unlocked id
  rw [found] at same
  cases lookedUp : second.transactions.lookup id with
  | none => rw [lookedUp] at same; cases same
  | some entry =>
    obtain ⟨otherState, other⟩ := entry
    rw [lookedUp] at same
    simp only [Option.map_some, remaining, isOpen, if_true, Option.some.injEq, Prod.mk.injEq] at same
    obtain ⟨rfl, amounts⟩ := same
    rw [isOpen, if_pos rfl, Option.some.injEq] at amounts
    exact ⟨other, rfl, amounts.symm⟩

/-- Entries of which the same remains, written under one id. -/
theorem BehavesLike.written (like : BehavesLike first second) (unlocked : first.locked = false)
    {key : TransactionId} {entry other : TransactionState × InputMessage} {next follow : Account}
    (same : remaining entry = remaining other)
    (nextWrites : next.transactions = first.transactions.insert key entry)
    (followWrites : follow.transactions = second.transactions.insert key other) (id : TransactionId) :
    (next.transactions.lookup id).map remaining = (follow.transactions.lookup id).map remaining := by
  rw [nextWrites, followWrites, lookup_insert_eq, lookup_insert_eq]
  split
  · rw [Option.map_some, Option.map_some, same]
  · exact like.transactions unlocked id

theorem BehavesLike.accepts (like : BehavesLike first second) {call : Call} {next : Account}
    (accepts : first.Accepts call next) :
    ∃ follow, second.Accepts call follow ∧ BehavesLike next follow := by
  have unlocked := accepts.unlocked
  have available := like.available
  have held := like.held
  have total := like.total
  obtain ⟨follow, follows, alike⟩ := accepts.alike (fun stored other => other.amount = stored.amount)
    (fun _ => rfl) (fun _ _ amounts => amounts) (like.locked ▸ unlocked) (le_of_eq available)
    (like.mem_iff unlocked _).not.mp fun _ _ isOpen found => like.found unlocked found isOpen
  obtain ⟨state, stored, other, nextWrites, followWrites, amounts⟩ := alike.written
  have same : remaining (state, stored) = remaining (state, other) := by simp [remaining, amounts]
  have availableAlike := alike.available
  have heldAlike := alike.held
  have totalAlike := alike.total
  refine ⟨follow, follows, ?_, ?_, ?_, alike.locked.symm, fun _ =>
    like.written unlocked same nextWrites followWrites⟩ <;> omega

theorem BehavesLike.answers (like : BehavesLike first second) (call : Call) :
    (first.apply call).1 = (second.apply call).1 := by
  cases locked : first.locked with
  | true => rw [apply_locked locked, apply_locked (like.locked ▸ locked)]
  | false =>
    have stillUnlocked : second.locked = false := like.locked ▸ locked
    obtain ⟨operation, msg⟩ := call
    have recorded := like.mem_iff locked msg.transactionId
    have entries := like.transactions locked msg.transactionId
    cases operation with
    | deposit =>
      simp only [apply, process, exec_processDeposit, locked, stillUnlocked, recorded]
      split_ifs <;> rfl
    | withdrawal =>
      simp only [apply, process, exec_processWithdrawal, locked, stillUnlocked, recorded, like.available]
      split_ifs <;> rfl
    | dispute | resolve | chargeback =>
      simp only [apply, process, processDispute, processResolve, processChargeback,
        exec_processTransition, locked, stillUnlocked]
      -- The lookups find the same state or nothing at all, and the answer depends on no more.
      cases found : first.transactions.lookup msg.transactionId <;>
        cases sameFound : second.transactions.lookup msg.transactionId <;>
        rw [found, sameFound] at entries
      case none.none => rfl
      case none.some => cases entries
      case some.none => cases entries
      case some.some entry other =>
        obtain ⟨state, stored⟩ := entry
        obtain ⟨otherState, otherStored⟩ := other
        simp only [Option.map_some, remaining, Option.some.injEq, Prod.mk.injEq] at entries
        obtain ⟨rfl, _⟩ := entries
        cases state <;> rfl

theorem bisimulation_behavesLike : Bisimulation Account.apply balances BehavesLike where
  looks := by
    intro first second like
    rw [balances, balances, like.available, like.held, like.total, like.locked]
  answers := fun call like => like.answers call
  related := by
    intro first second call like
    obtain ⟨next, accepts⟩ | ⟨error, refused⟩ := apply_cases first call
    · obtain ⟨follow, follows, nextLike⟩ := like.accepts accepts
      rw [accepts.apply_eq, follows.apply_eq]
      exact nextLike
    · have answers := like.answers call
      have notOk : (second.apply call).1 ≠ .ok () := by rw [← answers, refused]; simp
      rw [refused, apply_refused notOk]
      exact like.logged call.message

end BehavesLike

/-! ## Nothing less is enough -/

/-- How a dispute of a transaction in a state ends. -/
def disputeAnswer : Option TransactionState → TransactionResult
  | none => .error .invalidTransaction
  | some .normal => .ok ()
  | some .disputed => .error .alreadyDisputed
  | some .resolved => .error .transactionTerminalState
  | some .chargeback => .error .accountLocked

theorem disputeAnswer_injective : Function.Injective disputeAnswer := by
  rintro (_ | _ | _ | _ | _) (_ | _ | _ | _ | _) same <;> first | rfl | cases same

theorem apply_dispute_answer {self : Account} (unlocked : self.locked = false) (msg : InputMessage) :
    (self.apply ⟨.dispute, msg⟩).1 = disputeAnswer (self.stateOf msg.transactionId) := by
  simp only [apply, process, processDispute, exec_processTransition, unlocked, stateOf]
  cases self.transactions.lookup msg.transactionId with
  | none => rfl
  | some entry =>
    obtain ⟨state, stored⟩ := entry
    cases state <;> rfl

section Indistinguishable

variable {first second : Account}

theorem balances_eq_iff : balances first = balances second ↔
    first.available = second.available ∧ first.held = second.held ∧ first.total = second.total ∧
      first.locked = second.locked := by
  simp [balances]

theorem stateOf_of_indistinguishable (same : Indistinguishable Account.apply balances first second)
    (unlocked : first.locked = false) (stillUnlocked : second.locked = false) (id : TransactionId) :
    first.stateOf id = second.stateOf id := by
  have answers := same.answers [⟨.dispute, ⟨0, .dispute, 0, id, 0⟩⟩]
  rw [outputs_cons, outputs_cons, apply_dispute_answer unlocked, apply_dispute_answer stillUnlocked]
    at answers
  exact disputeAnswer_injective (List.cons.inj answers).1

/-- The next dispute or resolve of an open transaction shows its amount. -/
theorem amount_of_indistinguishable (same : Indistinguishable Account.apply balances first second)
    (available : first.available = second.available) (unlocked : first.locked = false)
    (stillUnlocked : second.locked = false) {id : TransactionId} {state : TransactionState}
    {stored other : InputMessage} (found : first.transactions.lookup id = some (state, stored))
    (sameFound : second.transactions.lookup id = some (state, other)) (isOpen : state.isOpen = true) :
    stored.amount = other.amount := by
  cases state with
  -- A dispute takes the amount out of the available funds, a resolve puts it back.
  | normal =>
    have looks := same.view_step ⟨.dispute, ⟨0, .dispute, 0, id, 0⟩⟩
    rw [(Accepts.dispute unlocked found).apply_eq, (Accepts.dispute stillUnlocked sameFound).apply_eq,
      balances_eq_iff] at looks
    have after := looks.1
    simp only [withDispute_available] at after
    omega
  | disputed =>
    have looks := same.view_step ⟨.resolve, ⟨0, .resolve, 0, id, 0⟩⟩
    rw [(Accepts.resolve unlocked found).apply_eq, (Accepts.resolve stillUnlocked sameFound).apply_eq,
      balances_eq_iff] at looks
    have after := looks.1
    simp only [withResolve_available] at after
    omega
  | resolved | chargeback => cases isOpen

theorem behavesLike_of_indistinguishable
    (same : Indistinguishable Account.apply balances first second) : BehavesLike first second := by
  have looks := same.views []
  rw [states, states, List.map_cons, List.map_cons, List.cons.injEq, balances_eq_iff] at looks
  obtain ⟨⟨available, held, total, locked⟩, _⟩ := looks
  refine ⟨available, held, total, locked, ?_⟩
  intro unlocked id
  have stillUnlocked : second.locked = false := locked ▸ unlocked
  have sameState := stateOf_of_indistinguishable same unlocked stillUnlocked id
  rw [stateOf, stateOf] at sameState
  cases found : first.transactions.lookup id <;> cases sameFound : second.transactions.lookup id <;>
    rw [found, sameFound] at sameState
  case none.some => cases sameState
  case some.none => cases sameState
  case some.some entry otherEntry =>
    obtain ⟨state, stored⟩ := entry
    obtain ⟨otherState, other⟩ := otherEntry
    cases sameState
    have amounts := amount_of_indistinguishable same available unlocked stillUnlocked found sameFound
    -- The amount of a transaction in a terminal state is not part of the remains.
    cases isOpen : state.isOpen with
    | true => simp [remaining, isOpen, amounts isOpen]
    | false => simp [remaining, isOpen]

/-- Calls tell apart what does not behave alike, and nothing else. -/
theorem indistinguishable_iff :
    Indistinguishable Account.apply balances first second ↔ BehavesLike first second :=
  ⟨behavesLike_of_indistinguishable, bisimulation_behavesLike.indistinguishable⟩

end Indistinguishable

end Account

end PaymentsEngine
