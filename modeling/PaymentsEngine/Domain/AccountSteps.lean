import PaymentsEngine.Domain.Account

/-! # What a call can do

`Account.Accepts` lists, for each operation, when a call succeeds and which account
it leaves.  `apply_cases` says that `Account.apply` does exactly that: it accepts and
leaves the account of the rule, or it refuses and writes only the history.  Every
invariant below is a case analysis on `Accepts`; no later proof unfolds an operation.
-/

namespace PaymentsEngine

open PaymentsEngine.Library

/-! ## Running a program -/

namespace AccountM

variable {First Second : Type} (self : Account)

theorem exec_bind (program : AccountM First) (next : First → AccountM Second) :
    (program >>= next).exec self =
      match program.exec self with
      | (.ok value, account) => (next value).exec account
      | (.error error, account) => (.error error, account) := by
  rw [exec, ExceptT.run_bind, StateT.run_bind, exec]
  cases StateT.run (ExceptT.run program) self with
  | mk result account => cases result <;> rfl

@[simp] theorem exec_pure (value : First) : (pure value : AccountM First).exec self = (.ok value, self) :=
  rfl

@[simp] theorem exec_throw (error : TransactionError) :
    (throw error : AccountM First).exec self = (.error error, self) := rfl

@[simp] theorem exec_get : (get : AccountM Account).exec self = (.ok self, self) := rfl

@[simp] theorem exec_modify (change : Account → Account) :
    (modify change : AccountM PUnit).exec self = (.ok ⟨⟩, change self) := rfl

@[simp] theorem exec_ite (condition : Prop) [Decidable condition] (first second : AccountM First) :
    (if condition then first else second).exec self =
      if condition then first.exec self else second.exec self := by
  split <;> rfl

end AccountM

namespace TransactionState

/-- The transitions that `canTransition` allows. -/
theorem canTransition_ok {self target : TransactionState} {transition : ExecuteTransition}
    (allowed : self.canTransition target = .ok transition) :
    transition = ⟨self, target⟩ ∧
      (self = .normal ∧ target = .disputed ∨ self = .disputed ∧ target = .resolved ∨
        self = .disputed ∧ target = .chargeback) := by
  cases self <;> cases target <;> simp_all [canTransition, eq_comm]

variable {self : TransactionState} {transition : ExecuteTransition}

theorem of_canTransition_disputed (allowed : self.canTransition .disputed = .ok transition) :
    self = .normal := by
  simpa using (canTransition_ok allowed).2

theorem of_canTransition_resolved (allowed : self.canTransition .resolved = .ok transition) :
    self = .disputed := by
  simpa using (canTransition_ok allowed).2

theorem of_canTransition_chargeback (allowed : self.canTransition .chargeback = .ok transition) :
    self = .disputed := by
  simpa using (canTransition_ok allowed).2

/-- Whether the amount of a transaction in this state may still be moved. -/
def isOpen : TransactionState → Bool
  | .normal | .disputed => true
  | .resolved | .chargeback => false

end TransactionState

namespace Account

/-! ## Accounts after a step -/

/-- The account with one more message in its history. -/
def logged (self : Account) (msg : InputMessage) : Account :=
  { self with historyChanges := self.historyChanges ++ [msg] }

/-- The account with `msg` recorded and `change` added to its available and total funds. -/
def record (self : Account) (msg : InputMessage) (change : Int) : Account :=
  { self.logged msg with
    transactions := self.transactions.insert msg.transactionId (.normal, msg)
    normal := insert msg.transactionId self.normal
    available := self.available + change
    total := self.total + change }

/-- The account with the transaction that `msg` names moved to another state and the money moved
    by `effect`. -/
def move (self : Account) (msg : InputMessage) (transition : ExecuteTransition)
    (effect : Account → Account) : Account :=
  transition.execute (effect (self.logged msg)) msg.transactionId

def withDispute (self : Account) (msg stored : InputMessage) : Account :=
  self.move msg ⟨.normal, .disputed⟩ fun account =>
    { account with
      available := account.available - stored.amount
      held := account.held + stored.amount }

def withResolve (self : Account) (msg stored : InputMessage) : Account :=
  self.move msg ⟨.disputed, .resolved⟩ fun account =>
    { account with
      held := account.held - stored.amount
      available := account.available + stored.amount }

def withChargeback (self : Account) (msg stored : InputMessage) : Account :=
  self.move msg ⟨.disputed, .chargeback⟩ fun account =>
    { account with
      held := account.held - stored.amount
      total := account.total - stored.amount
      locked := true }

/-- The set that holds the ids of the transactions in a state. -/
def stateSet (self : Account) : TransactionState → Finset TransactionId
  | .normal => self.normal
  | .disputed => self.disputes
  | .resolved => self.resolves
  | .chargeback => self.chargebacks

/-- When a call succeeds, and the account it leaves. -/
inductive Accepts (self : Account) : Call → Account → Prop where
  | deposit {msg : InputMessage} (unlocked : self.locked = false) (positive : 0 < msg.amount)
      (fresh : msg.transactionId ∉ self.transactions) :
      Accepts self ⟨.deposit, msg⟩ (self.record msg msg.amount)
  | withdrawal {msg : InputMessage} (unlocked : self.locked = false) (positive : 0 < msg.amount)
      (fresh : msg.transactionId ∉ self.transactions) (covered : msg.amount ≤ self.available) :
      Accepts self ⟨.withdrawal, msg⟩ (self.record msg (-msg.amount))
  | dispute {msg stored : InputMessage} (unlocked : self.locked = false)
      (found : self.transactions.lookup msg.transactionId = some (.normal, stored)) :
      Accepts self ⟨.dispute, msg⟩ (self.withDispute msg stored)
  | resolve {msg stored : InputMessage} (unlocked : self.locked = false)
      (found : self.transactions.lookup msg.transactionId = some (.disputed, stored)) :
      Accepts self ⟨.resolve, msg⟩ (self.withResolve msg stored)
  | chargeback {msg stored : InputMessage} (unlocked : self.locked = false)
      (found : self.transactions.lookup msg.transactionId = some (.disputed, stored)) :
      Accepts self ⟨.chargeback, msg⟩ (self.withChargeback msg stored)

/-! ## The operations -/

variable (self : Account) (msg : InputMessage)

theorem exec_sharedPrestep :
    (sharedPrestep msg).exec self =
      (if self.locked then .error .accountLocked else .ok (), self.logged msg) := by
  unfold sharedPrestep
  cases locked : self.locked <;> simp [AccountM.exec_bind, logged, locked]

theorem exec_doTransition (key : TransactionId) (target : TransactionState) :
    (doTransition key target).exec self =
      match self.transactions.lookup key with
      | none => (.error .invalidTransaction, self)
      | some (state, _) => (state.canTransition target, self) := by
  unfold doTransition
  rw [AccountM.exec_bind, AccountM.exec_get]
  dsimp only
  cases self.transactions.lookup key <;> rfl

theorem exec_storedAmount (key : TransactionId) :
    (storedAmount key).exec self =
      match self.transactions.lookup key with
      | none => (.error .invalidTransaction, self)
      | some (_, message) => (.ok message.amount, self) := by
  unfold storedAmount
  rw [AccountM.exec_bind, AccountM.exec_get]
  dsimp only
  cases self.transactions.lookup key <;> rfl

theorem exec_processDeposit :
    (processDeposit msg).exec self =
      if self.locked then (.error .accountLocked, self.logged msg)
      else if ¬ 0 < msg.amount then (.error .amountNegative, self.logged msg)
      else if msg.transactionId ∈ self.transactions then
        (.error .duplicateTransaction, self.logged msg)
      else (.ok (), self.record msg msg.amount) := by
  unfold processDeposit
  rw [AccountM.exec_bind, exec_sharedPrestep]
  cases locked : self.locked with
  | true => rfl
  | false =>
    simp [AccountM.exec_bind, logged, record, ← Amount.isPositive_iff]

theorem exec_processWithdrawal :
    (processWithdrawal msg).exec self =
      if self.locked then (.error .accountLocked, self.logged msg)
      else if ¬ 0 < msg.amount then (.error .amountNegative, self.logged msg)
      else if msg.transactionId ∈ self.transactions then
        (.error .duplicateTransaction, self.logged msg)
      else if self.available < msg.amount then (.error .insufficientBalance, self.logged msg)
      else (.ok (), self.record msg (-msg.amount)) := by
  unfold processWithdrawal
  rw [AccountM.exec_bind, exec_sharedPrestep]
  cases locked : self.locked with
  | true => rfl
  | false =>
    simp [AccountM.exec_bind, logged, record, ← Amount.isPositive_iff, Int.sub_eq_add_neg]

theorem exec_processTransition (target : TransactionState) (effect : Int → Account → Account) :
    (processTransition target effect msg).exec self =
      if self.locked then (.error .accountLocked, self.logged msg)
      else match self.transactions.lookup msg.transactionId with
        | none => (.error .invalidTransaction, self.logged msg)
        | some (state, stored) =>
          match state.canTransition target with
          | .error error => (.error error, self.logged msg)
          | .ok transition => (.ok (), self.move msg transition (effect stored.amount)) := by
  unfold processTransition
  rw [AccountM.exec_bind, exec_sharedPrestep]
  cases locked : self.locked with
  | true => rfl
  | false =>
    simp only [AccountM.exec_bind, exec_doTransition, exec_storedAmount]
    cases found : self.transactions.lookup msg.transactionId with
    | none =>
      have lookedUp : (self.logged msg).transactions.lookup msg.transactionId = none := found
      simp [lookedUp]
    | some entry =>
      obtain ⟨state, stored⟩ := entry
      -- Both lookups see the transactions as they were before the message was logged.
      have lookedUp : (self.logged msg).transactions.lookup msg.transactionId =
        some (state, stored) := found
      cases allowed : state.canTransition target with
      | error error => simp [lookedUp, allowed]
      | ok transition => simp [lookedUp, allowed, move]

/-! ## Exactly the accepted calls succeed -/

theorem Accepts.apply_eq {self next : Account} {call : Call} (accepts : self.Accepts call next) :
    self.apply call = (.ok (), next) := by
  cases accepts with
  | deposit unlocked positive fresh =>
    simp [apply, process, exec_processDeposit, unlocked, positive, fresh]
  | withdrawal unlocked positive fresh covered =>
    simp [apply, process, exec_processWithdrawal, unlocked, positive, fresh, not_lt.mpr covered]
  | dispute unlocked found =>
    simp [apply, process, processDispute, exec_processTransition, unlocked, found,
      TransactionState.canTransition, withDispute]
  | resolve unlocked found =>
    simp [apply, process, processResolve, exec_processTransition, unlocked, found,
      TransactionState.canTransition, withResolve]
  | chargeback unlocked found =>
    simp [apply, process, processChargeback, exec_processTransition, unlocked, found,
      TransactionState.canTransition, withChargeback]

/-- A transition to `target` succeeds only from `before`, when no other state allows it. -/
theorem processTransition_cases (self : Account) (msg : InputMessage)
    {target before : TransactionState} (effect : Int → Account → Account)
    (only : ∀ state transition, state.canTransition target = .ok transition → state = before) :
    (self.locked = false ∧
        ∃ stored, self.transactions.lookup msg.transactionId = some (before, stored)) ∨
      ∃ error, (processTransition target effect msg).exec self = (.error error, self.logged msg) := by
  rw [exec_processTransition]
  cases locked : self.locked with
  | true => exact .inr ⟨_, rfl⟩
  | false =>
    cases found : self.transactions.lookup msg.transactionId with
    | none => exact .inr ⟨_, rfl⟩
    | some entry =>
      obtain ⟨state, stored⟩ := entry
      cases allowed : state.canTransition target with
      | error error => exact .inr ⟨error, by simp [allowed]⟩
      | ok transition =>
        have source := only state transition allowed
        subst source
        exact .inl ⟨rfl, stored, rfl⟩

/-- A call is accepted as the rules say, or refused with nothing but the history written. -/
theorem apply_cases (self : Account) (call : Call) :
    (∃ next, self.Accepts call next) ∨
      ∃ error, self.apply call = (.error error, self.logged call.message) := by
  obtain ⟨operation, msg⟩ := call
  cases operation with
  -- The guards fall in the order in which the operation checks them.
  | deposit =>
    simp only [apply, process, exec_processDeposit]
    split
    · exact .inr ⟨_, rfl⟩
    next unlocked =>
      split
      · exact .inr ⟨_, rfl⟩
      next positive =>
        split
        · exact .inr ⟨_, rfl⟩
        next fresh => exact .inl ⟨_, .deposit (by simpa using unlocked) (not_not.mp positive) fresh⟩
  | withdrawal =>
    simp only [apply, process, exec_processWithdrawal]
    split
    · exact .inr ⟨_, rfl⟩
    next unlocked =>
      split
      · exact .inr ⟨_, rfl⟩
      next positive =>
        split
        · exact .inr ⟨_, rfl⟩
        next fresh =>
          split
          · exact .inr ⟨_, rfl⟩
          next covered =>
            exact .inl ⟨_, .withdrawal (by simpa using unlocked) (not_not.mp positive) fresh
              (not_lt.mp covered)⟩
  | dispute =>
    obtain ⟨unlocked, stored, found⟩ | refused := processTransition_cases self msg _ fun _ _ =>
      TransactionState.of_canTransition_disputed
    · exact .inl ⟨_, .dispute unlocked found⟩
    · exact .inr refused
  | resolve =>
    obtain ⟨unlocked, stored, found⟩ | refused := processTransition_cases self msg _ fun _ _ =>
      TransactionState.of_canTransition_resolved
    · exact .inl ⟨_, .resolve unlocked found⟩
    · exact .inr refused
  | chargeback =>
    obtain ⟨unlocked, stored, found⟩ | refused := processTransition_cases self msg _ fun _ _ =>
      TransactionState.of_canTransition_chargeback
    · exact .inl ⟨_, .chargeback unlocked found⟩
    · exact .inr refused

/-- A successful call was accepted. -/
theorem accepts_of_ok {self : Account} {call : Call} (ok : (self.apply call).1 = .ok ()) :
    self.Accepts call (self.apply call).2 := by
  obtain ⟨next, accepts⟩ | ⟨error, refused⟩ := apply_cases self call
  · rw [accepts.apply_eq]; exact accepts
  · rw [refused] at ok; cases ok

theorem ok_iff_accepts {self : Account} {call : Call} :
    (self.apply call).1 = .ok () ↔ ∃ next, self.Accepts call next := by
  constructor
  · intro ok; exact ⟨_, accepts_of_ok ok⟩
  · rintro ⟨next, accepts⟩; rw [accepts.apply_eq]

/-- A refused call writes nothing but the history. -/
theorem apply_refused {self : Account} {call : Call} (refused : (self.apply call).1 ≠ .ok ()) :
    (self.apply call).2 = self.logged call.message := by
  obtain ⟨next, accepts⟩ | ⟨error, equal⟩ := apply_cases self call
  · rw [accepts.apply_eq] at refused; exact absurd rfl refused
  · rw [equal]

/-- The rule for keeping an invariant: accepted calls keep it, and it ignores the history. -/
theorem apply_invariant {Invariant : Account → Prop} {self : Account} {call : Call}
    (ignoresHistory : Invariant (self.logged call.message))
    (keeps : ∀ next, self.Accepts call next → Invariant next) : Invariant (self.apply call).2 := by
  obtain ⟨next, accepts⟩ | ⟨error, refused⟩ := apply_cases self call
  · rw [accepts.apply_eq]; exact keeps next accepts
  · rw [refused]; exact ignoresHistory

/-- A locked account refuses every call. -/
theorem apply_locked {self : Account} (locked : self.locked = true) (call : Call) :
    self.apply call = (.error .accountLocked, self.logged call.message) := by
  obtain ⟨operation, msg⟩ := call
  cases operation <;>
    simp [apply, process, exec_processDeposit, exec_processWithdrawal, processDispute,
      processResolve, processChargeback, exec_processTransition, locked]

/-! ## The fields of the accounts after a step -/

section Fields

variable (self : Account) (msg : InputMessage) (change : Int) (transition : ExecuteTransition)
  (key : TransactionId) (effect : Account → Account)

@[simp] theorem stateSet_logged (state : TransactionState) :
    (self.logged msg).stateSet state = self.stateSet state := by
  cases state <;> rfl

theorem stateSet_record (state : TransactionState) :
    (self.record msg change).stateSet state =
      if state = .normal then insert msg.transactionId (self.stateSet state)
      else self.stateSet state := by
  cases state <;> rfl

theorem execute_transactions {stored : TransactionState × InputMessage}
    (found : self.transactions.lookup key = some stored) :
    (transition.execute self key).transactions =
      self.transactions.insert key (transition.toState, stored.2) := by
  obtain ⟨fromState, toState⟩ := transition
  cases fromState <;> cases toState <;> simp [ExecuteTransition.execute, found]

theorem stateSet_execute (different : transition.fromState ≠ transition.toState)
    (state : TransactionState) :
    (transition.execute self key).stateSet state =
      if state = transition.toState then insert key (self.stateSet state)
      else if state = transition.fromState then (self.stateSet state).erase key
      else self.stateSet state := by
  obtain ⟨fromState, toState⟩ := transition
  unfold ExecuteTransition.execute
  -- Between equal states the id would be erased from the set and inserted again.
  cases fromState <;> cases toState <;> first | exact absurd rfl different | skip
  all_goals dsimp only; split <;> cases state <;> rfl

theorem execute_balances :
    (transition.execute self key).available = self.available ∧
      (transition.execute self key).held = self.held ∧
      (transition.execute self key).total = self.total ∧
      (transition.execute self key).locked = self.locked ∧
      (transition.execute self key).clientId = self.clientId ∧
      (transition.execute self key).historyChanges = self.historyChanges := by
  obtain ⟨fromState, toState⟩ := transition
  unfold ExecuteTransition.execute
  cases fromState <;> cases toState <;> dsimp only <;> split <;> simp

@[simp] theorem move_available :
    (self.move msg transition effect).available = (effect (self.logged msg)).available :=
  (execute_balances _ transition _).1

@[simp] theorem move_held :
    (self.move msg transition effect).held = (effect (self.logged msg)).held :=
  (execute_balances _ transition _).2.1

@[simp] theorem move_total :
    (self.move msg transition effect).total = (effect (self.logged msg)).total :=
  (execute_balances _ transition _).2.2.1

@[simp] theorem move_locked :
    (self.move msg transition effect).locked = (effect (self.logged msg)).locked :=
  (execute_balances _ transition _).2.2.2.1

@[simp] theorem record_available :
    (self.record msg change).available = self.available + change := rfl

@[simp] theorem record_held : (self.record msg change).held = self.held := rfl

@[simp] theorem record_total : (self.record msg change).total = self.total + change := rfl

@[simp] theorem record_locked : (self.record msg change).locked = self.locked := rfl

theorem record_transactions : (self.record msg change).transactions =
    self.transactions.insert msg.transactionId (.normal, msg) := rfl

variable (stored : InputMessage)

@[simp] theorem withDispute_available :
    (self.withDispute msg stored).available = self.available - stored.amount := by
  simp [withDispute, logged]

@[simp] theorem withDispute_held :
    (self.withDispute msg stored).held = self.held + stored.amount := by
  simp [withDispute, logged]

@[simp] theorem withDispute_total : (self.withDispute msg stored).total = self.total := by
  simp [withDispute, logged]

@[simp] theorem withDispute_locked : (self.withDispute msg stored).locked = self.locked := by
  simp [withDispute, logged]

@[simp] theorem withResolve_available :
    (self.withResolve msg stored).available = self.available + stored.amount := by
  simp [withResolve, logged]

@[simp] theorem withResolve_held :
    (self.withResolve msg stored).held = self.held - stored.amount := by
  simp [withResolve, logged]

@[simp] theorem withResolve_total : (self.withResolve msg stored).total = self.total := by
  simp [withResolve, logged]

@[simp] theorem withResolve_locked : (self.withResolve msg stored).locked = self.locked := by
  simp [withResolve, logged]

@[simp] theorem withChargeback_available :
    (self.withChargeback msg stored).available = self.available := by
  simp [withChargeback, logged]

@[simp] theorem withChargeback_held :
    (self.withChargeback msg stored).held = self.held - stored.amount := by
  simp [withChargeback, logged]

@[simp] theorem withChargeback_total :
    (self.withChargeback msg stored).total = self.total - stored.amount := by
  simp [withChargeback, logged]

@[simp] theorem withChargeback_locked : (self.withChargeback msg stored).locked = true := by
  simp [withChargeback]

end Fields

/-- `next` is `account` with `msg` recorded as a new transaction. -/
structure Recorded (account next : Account) (msg : InputMessage) : Prop where
  unlocked : account.locked = false
  positive : 0 < msg.amount
  fresh : msg.transactionId ∉ account.transactions
  transactions : next.transactions = account.transactions.insert msg.transactionId (.normal, msg)
  sets : ∀ state, next.stateSet state =
    if state = .normal then insert msg.transactionId (account.stateSet state) else account.stateSet state
  held : next.held = account.held
  locked : next.locked = false

/-- `next` is `account` with the transaction that `msg` names moved between states. -/
structure Moved (account next : Account) (msg : InputMessage) (transition : ExecuteTransition)
    (stored : InputMessage) : Prop where
  unlocked : account.locked = false
  found : account.transactions.lookup msg.transactionId = some (transition.fromState, stored)
  transactions : next.transactions =
    account.transactions.insert msg.transactionId (transition.toState, stored)
  sets : ∀ state, next.stateSet state =
    if state = transition.toState then insert msg.transactionId (account.stateSet state)
    else if state = transition.fromState then (account.stateSet state).erase msg.transactionId
    else account.stateSet state

theorem recorded_record {self : Account} {msg : InputMessage} (change : Int)
    (unlocked : self.locked = false) (positive : 0 < msg.amount)
    (fresh : msg.transactionId ∉ self.transactions) : Recorded self (self.record msg change) msg where
  unlocked := unlocked
  positive := positive
  fresh := fresh
  transactions := rfl
  sets := stateSet_record self msg change
  held := rfl
  locked := unlocked

theorem moved_move {self : Account} {msg stored : InputMessage} {transition : ExecuteTransition}
    {effect : Account → Account} (unlocked : self.locked = false)
    (found : self.transactions.lookup msg.transactionId = some (transition.fromState, stored))
    (different : transition.fromState ≠ transition.toState)
    (sameTransactions : (effect (self.logged msg)).transactions = self.transactions)
    (sameSets : ∀ state, (effect (self.logged msg)).stateSet state = self.stateSet state) :
    Moved self (self.move msg transition effect) msg transition stored where
  unlocked := unlocked
  found := found
  transactions := by
    -- `effect` moves money only, so `execute` still finds the transaction.
    have lookedUp : (effect (self.logged msg)).transactions.lookup msg.transactionId =
        some (transition.fromState, stored) := by rw [sameTransactions, found]
    rw [move, execute_transactions _ _ _ lookedUp, sameTransactions]
  sets := by
    intro state
    rw [move, stateSet_execute _ _ _ different, sameSets]

theorem moved_withDispute {self : Account} {msg stored : InputMessage} (unlocked : self.locked = false)
    (found : self.transactions.lookup msg.transactionId = some (.normal, stored)) :
    Moved self (self.withDispute msg stored) msg ⟨.normal, .disputed⟩ stored := by
  apply moved_move unlocked found (by simp) rfl
  intro state; cases state <;> rfl

theorem moved_withResolve {self : Account} {msg stored : InputMessage} (unlocked : self.locked = false)
    (found : self.transactions.lookup msg.transactionId = some (.disputed, stored)) :
    Moved self (self.withResolve msg stored) msg ⟨.disputed, .resolved⟩ stored := by
  apply moved_move unlocked found (by simp) rfl
  intro state; cases state <;> rfl

theorem moved_withChargeback {self : Account} {msg stored : InputMessage}
    (unlocked : self.locked = false)
    (found : self.transactions.lookup msg.transactionId = some (.disputed, stored)) :
    Moved self (self.withChargeback msg stored) msg ⟨.disputed, .chargeback⟩ stored := by
  apply moved_move unlocked found (by simp) rfl
  intro state; cases state <;> rfl

/-- An accepted call records a transaction or moves one between states. -/
theorem Accepts.shape {self next : Account} {call : Call} (accepts : self.Accepts call next) :
    Recorded self next call.message ∨
      ∃ transition stored, Moved self next call.message transition stored ∧
        transition.fromState.canTransition transition.toState = .ok transition := by
  cases accepts with
  | deposit unlocked positive fresh => exact .inl (recorded_record _ unlocked positive fresh)
  | withdrawal unlocked positive fresh => exact .inl (recorded_record _ unlocked positive fresh)
  | dispute unlocked found => exact .inr ⟨_, _, moved_withDispute unlocked found, rfl⟩
  | resolve unlocked found => exact .inr ⟨_, _, moved_withResolve unlocked found, rfl⟩
  | chargeback unlocked found => exact .inr ⟨_, _, moved_withChargeback unlocked found, rfl⟩

theorem Accepts.unlocked {self next : Account} {call : Call} (accepts : self.Accepts call next) :
    self.locked = false := by
  cases accepts <;> assumption

theorem Accepts.clientId {self next : Account} {call : Call} (accepts : self.Accepts call next) :
    next.clientId = self.clientId := by
  have executed (account : Account) (transition : ExecuteTransition) (key : TransactionId) :
      (transition.execute account key).clientId = account.clientId :=
    (execute_balances account transition key).2.2.2.2.1
  cases accepts with
  | deposit | withdrawal => rfl
  | dispute | resolve | chargeback => exact executed _ _ _

theorem apply_clientId (self : Account) (call : Call) : (self.apply call).2.clientId = self.clientId := by
  obtain ⟨next, accepts⟩ | ⟨error, refused⟩ := apply_cases self call
  · rw [accepts.apply_eq]; exact accepts.clientId
  · rw [refused]; rfl

/-! ## One call on two accounts -/

/-- A call makes `next` of `first` and `follow` of `second`: the balances change alike, and under
    `id` it writes one state with messages that are the same as far as `Same` says. -/
structure ChangeAlike (Same : InputMessage → InputMessage → Prop) (id : TransactionId)
    (first next second follow : Account) : Prop where
  available : follow.available - second.available = next.available - first.available
  held : follow.held - second.held = next.held - first.held
  total : follow.total - second.total = next.total - first.total
  locked : follow.locked = next.locked
  written : ∃ state stored other, next.transactions = first.transactions.insert id (state, stored) ∧
    follow.transactions = second.transactions.insert id (state, other) ∧ Same stored other

/-- A call that one account accepts is accepted by an account with no less available and the same
    recorded under the id of the call. -/
theorem Accepts.alike {first second next : Account} {call : Call}
    (Same : InputMessage → InputMessage → Prop) (refl : ∀ msg, Same msg msg)
    (amounts : ∀ stored other, Same stored other → other.amount = stored.amount)
    (accepts : first.Accepts call next) (unlocked : second.locked = false)
    (available : first.available ≤ second.available)
    (fresh : call.message.transactionId ∉ first.transactions →
      call.message.transactionId ∉ second.transactions)
    (recorded : ∀ state stored, state.isOpen = true →
      first.transactions.lookup call.message.transactionId = some (state, stored) →
        ∃ other, second.transactions.lookup call.message.transactionId = some (state, other) ∧
          Same stored other) :
    ∃ follow, second.Accepts call follow ∧
      ChangeAlike Same call.message.transactionId first next second follow := by
  have sameLock : second.locked = first.locked := unlocked.trans accepts.unlocked.symm
  -- A recording writes its own message in both accounts; a move keeps what each has stored.
  cases accepts with
  | @deposit msg _ positive unrecorded =>
    refine ⟨_, .deposit unlocked positive (fresh unrecorded), ?_, ?_, ?_, sameLock,
      _, msg, msg, rfl, rfl, refl msg⟩ <;> simp
  | @withdrawal msg _ positive unrecorded covered =>
    refine ⟨_, .withdrawal unlocked positive (fresh unrecorded) (covered.trans available), ?_, ?_, ?_,
      sameLock, _, msg, msg, rfl, rfl, refl msg⟩ <;> simp
  | @dispute msg stored firstUnlocked found =>
    obtain ⟨other, otherFound, same⟩ := recorded _ _ rfl found
    have amount := amounts stored other same
    refine ⟨_, .dispute unlocked otherFound, ?_, ?_, ?_, ?_, _, stored, other,
      (moved_withDispute firstUnlocked found).transactions,
      (moved_withDispute unlocked otherFound).transactions, same⟩ <;> simp [sameLock, amount]
  | @resolve msg stored firstUnlocked found =>
    obtain ⟨other, otherFound, same⟩ := recorded _ _ rfl found
    have amount := amounts stored other same
    refine ⟨_, .resolve unlocked otherFound, ?_, ?_, ?_, ?_, _, stored, other,
      (moved_withResolve firstUnlocked found).transactions,
      (moved_withResolve unlocked otherFound).transactions, same⟩ <;> simp [sameLock, amount]
  | @chargeback msg stored firstUnlocked found =>
    obtain ⟨other, otherFound, same⟩ := recorded _ _ rfl found
    have amount := amounts stored other same
    refine ⟨_, .chargeback unlocked otherFound, ?_, ?_, ?_, ?_, _, stored, other,
      (moved_withChargeback firstUnlocked found).transactions,
      (moved_withChargeback unlocked otherFound).transactions, same⟩ <;> simp [amount]

/-! ## Recorded states -/

/-- The recorded state of a transaction. -/
def stateOf (self : Account) (id : TransactionId) : Option TransactionState :=
  (self.transactions.lookup id).map Prod.fst

theorem stateOf_insert {self next : Account} {id : TransactionId}
    {entry : TransactionState × InputMessage}
    (inserted : next.transactions = self.transactions.insert id entry) (other : TransactionId) :
    next.stateOf other = if other = id then some entry.1 else self.stateOf other := by
  rw [stateOf, inserted, lookup_insert_eq]
  split <;> rfl

end Account

end PaymentsEngine
