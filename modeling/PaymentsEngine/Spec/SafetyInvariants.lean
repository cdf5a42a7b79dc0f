import Mathlib.Algebra.Order.Group.Int
import PaymentsEngine.Library.Book
import PaymentsEngine.Spec.PaymentsSpec

/-! # The invariants of the specification

`payments.qnt` states five invariants and a temporal property, which its tests check
for a few clients, transactions and amounts.  They hold for all of them: the records of
a client are a book whose funds are the client's balances, and a locked account has an
entry that was reversed.
-/

namespace PaymentsEngine.PaymentsSpec

open PaymentsEngine.Library

/-! ## Invariants -/

section Invariants

variable (constants : Constants) (state : State)

def totalEqAvailablePlusHeldInv : Prop :=
  ∀ c ∈ constants.clients,
    let a := state.accounts c
    a.total = a.available + a.held

def heldNonNegativeInv : Prop := ∀ c ∈ constants.clients, (state.accounts c).held ≥ 0

def totalNonNegativeUnlessLockedInv : Prop :=
  ∀ c ∈ constants.clients,
    let a := state.accounts c
    a.locked = true ∨ a.total ≥ 0

def lockedImpliesChargebackInv : Prop :=
  ∀ c ∈ constants.clients,
    let a := state.accounts c
    ¬ a.locked = true ∨ ∃ t ∈ constants.txIds, (state.txRecords (c, t)).state = .chargeback

def nonExistentTxIsCleanInv : Prop :=
  ∀ c ∈ constants.clients, ∀ t ∈ constants.txIds,
    let record := state.txRecords (c, t)
    ¬ record.exists' = true → record.amount = 0 ∧ record.state = .normal

/-- Combined safety invariant. -/
def safetyInv : Prop :=
  totalEqAvailablePlusHeldInv constants state ∧ heldNonNegativeInv constants state ∧
    totalNonNegativeUnlessLockedInv constants state ∧ lockedImpliesChargebackInv constants state ∧
      nonExistentTxIsCleanInv constants state

end Invariants

/-! ## The book of a client -/

def txState : Status → TxState
  | .standing => .normal
  | .disputed => .disputed
  | .settled => .resolved
  | .reversed => .chargeback

/-- The record that an entry of the book stands for. -/
def recordOf : Option (BookEntry Int) → TxRecord
  | none => noTx
  | some entry => { exists' := true, amount := entry.amount, state := txState entry.status }

/-- The records of a client are those of the book, and its balances are the funds. -/
structure Books (constants : Constants) (state : State) (clientId : Int) (book : Book Int Int) :
    Prop where
  records : ∀ txId, state.txRecords (clientId, txId) = recordOf (book.entries.lookup txId)
  available : (state.accounts clientId).available = book.available
  held : (state.accounts clientId).held = book.held
  total : (state.accounts clientId).total = book.total
  unlocked : (state.accounts clientId).locked = false → book.reversed = 0
  locked : (state.accounts clientId).locked = true →
    ∃ t ∈ constants.txIds, (state.txRecords (clientId, t)).state = .chargeback

variable {constants : Constants} {state : State} {clientId txId : Int} {book : Book Int Int}

theorem books_init (constants : Constants) (clientId : Int) :
    Books constants init clientId Book.empty where
  records := fun _ => rfl
  available := rfl
  held := rfl
  total := rfl
  unlocked := fun _ => rfl
  locked := by intro locked; cases locked

@[simp] theorem set_accounts (newAcct : AccountState) (newRec : TxRecord) :
    (state.set clientId txId newAcct newRec).accounts clientId = newAcct := by
  simp [State.set]

theorem set_txRecords (newAcct : AccountState) (newRec : TxRecord) (other : Int) :
    (state.set clientId txId newAcct newRec).txRecords (clientId, other) =
      if other = txId then newRec else state.txRecords (clientId, other) := by
  simp [State.set, Function.update_apply]

/-- The other clients notice nothing. -/
theorem Books.set_other (books : Books constants state clientId book) {other : Int}
    (different : clientId ≠ other) (newAcct : AccountState) (newRec : TxRecord) :
    Books constants (state.set other txId newAcct newRec) clientId book := by
  have account : (state.set other txId newAcct newRec).accounts clientId = state.accounts clientId := by
    simp [State.set, different]
  have record : ∀ t, (state.set other txId newAcct newRec).txRecords (clientId, t) =
      state.txRecords (clientId, t) := by
    simp [State.set, different]
  obtain ⟨records, available, held, total, unlocked, locked⟩ := books
  constructor
  all_goals simp only [account, record]
  all_goals assumption

section Found

variable (books : Books constants state clientId book)

include books

theorem Books.fresh (unrecorded : (state.txRecords (clientId, txId)).exists' = false) :
    txId ∉ book.entries := by
  rw [books.records] at unrecorded
  refine Finmap.lookup_eq_none.mp ?_
  cases found : book.entries.lookup txId with
  | none => rfl
  | some entry => rw [found] at unrecorded; cases unrecorded

theorem Books.found (status : Status) (recorded : (state.txRecords (clientId, txId)).exists' = true)
    (inState : (state.txRecords (clientId, txId)).state = txState status) :
    ∃ entry, book.entries.lookup txId = some entry ∧ entry.status = status ∧
      (state.txRecords (clientId, txId)).amount = entry.amount := by
  rw [books.records] at recorded inState ⊢
  cases found : book.entries.lookup txId with
  | none => rw [found] at recorded; cases recorded
  | some entry =>
    rw [found] at inState
    refine ⟨entry, rfl, ?_, rfl⟩
    cases same : entry.status <;> cases status <;> simp_all [recordOf, txState]

/-- An account that is not locked has nothing charged back, so its total is not negative. -/
theorem Books.total_nonneg (unlocked : (state.accounts clientId).locked = false) :
    0 ≤ (state.accounts clientId).total := by
  have nonneg := book.total_add_reversed_nonneg
  rw [books.unlocked unlocked, add_zero] at nonneg
  rw [books.total]
  exact nonneg

end Found

/-- The records after an entry was written. -/
theorem records_insert (books : Books constants state clientId book) (newAcct : AccountState)
    {newRec : TxRecord} {entry : BookEntry Int} (same : newRec = recordOf (some entry)) (other : Int) :
    (state.set clientId txId newAcct newRec).txRecords (clientId, other) =
      recordOf ((book.entries.insert txId entry).lookup other) := by
  rw [set_txRecords, lookup_insert_eq]
  split
  · exact same
  · exact books.records other

/-! ## The actions are steps of the book -/

section Actions

variable (books : Books constants state clientId book)

include books

theorem Books.deposit {amount : Int} (enabled : (deposit clientId txId amount).guard state = true) :
    ∃ next, Books constants ((PaymentsSpec.deposit clientId txId amount).post state) clientId next := by
  obtain ⟨positive, unlocked, unrecorded⟩ := (deposit_guard _ _ _ _).mp enabled
  have fresh := books.fresh unrecorded
  have held := Book.held_credit fresh positive
  have total := Book.total_credit fresh positive
  refine ⟨book.credit fresh positive, records_insert books _ rfl, ?_, ?_, ?_, ?_, ?_⟩
  · simp only [PaymentsSpec.deposit, set_accounts, Book.available, held, total, books.available]
    omega
  · simp only [PaymentsSpec.deposit, set_accounts, held, books.held]
  · simp only [PaymentsSpec.deposit, set_accounts, total, books.total]
  · intro _
    rw [Book.reversed_credit, books.unlocked unlocked]
  · simp [PaymentsSpec.deposit, unlocked]

theorem Books.withdrawal {amount : Int}
    (enabled : (withdrawal clientId txId amount).guard state = true) :
    ∃ next, Books constants ((PaymentsSpec.withdrawal clientId txId amount).post state) clientId next := by
  obtain ⟨positive, unlocked, unrecorded, covered⟩ := (withdrawal_guard _ _ _ _).mp enabled
  have fresh := books.fresh unrecorded
  rw [books.available] at covered
  have held := Book.held_debit fresh positive covered
  have total := Book.total_debit fresh positive covered
  refine ⟨book.debit fresh positive covered, records_insert books _ rfl, ?_, ?_, ?_, ?_, ?_⟩
  · simp only [PaymentsSpec.withdrawal, set_accounts, Book.available, held, total, books.available]
    omega
  · simp only [PaymentsSpec.withdrawal, set_accounts, held, books.held]
  · simp only [PaymentsSpec.withdrawal, set_accounts, total, books.total]
  · intro _
    rw [Book.reversed_debit, books.unlocked unlocked]
  · simp [PaymentsSpec.withdrawal, unlocked]

theorem Books.dispute (enabled : (dispute clientId txId).guard state = true) :
    ∃ next, Books constants ((PaymentsSpec.dispute clientId txId).post state) clientId next := by
  obtain ⟨unlocked, recorded, inState⟩ := (dispute_guard _ _ _).mp enabled
  obtain ⟨entry, found, standing, amount⟩ := books.found .standing recorded inState
  have held := Book.held_dispute found standing
  have total := Book.total_dispute found standing
  refine ⟨book.restate found .disputed, records_insert books _ ?_, ?_, ?_, ?_, ?_, ?_⟩
  · simp [recordOf, BookEntry.withStatus, txState, recorded, amount]
  · simp only [PaymentsSpec.dispute, set_accounts, Book.available, held, total, books.available, amount]
    omega
  · simp only [PaymentsSpec.dispute, set_accounts, held, books.held, amount]
  · simp only [PaymentsSpec.dispute, set_accounts, total, books.total]
  · intro _
    have exchange := Book.reversed_restate found .disputed
    simp only [BookEntry.inStatus, BookEntry.withStatus, standing, books.unlocked unlocked] at exchange
    simpa using exchange
  · simp [PaymentsSpec.dispute, unlocked]

theorem Books.resolve (enabled : (resolve clientId txId).guard state = true) :
    ∃ next, Books constants ((PaymentsSpec.resolve clientId txId).post state) clientId next := by
  obtain ⟨unlocked, recorded, inState⟩ := (resolve_guard _ _ _).mp enabled
  obtain ⟨entry, found, disputed, amount⟩ := books.found .disputed recorded inState
  have held := Book.held_settle found disputed
  have total := Book.total_settle found disputed
  refine ⟨book.restate found .settled, records_insert books _ ?_, ?_, ?_, ?_, ?_, ?_⟩
  · simp [recordOf, BookEntry.withStatus, txState, recorded, amount]
  · simp only [PaymentsSpec.resolve, set_accounts, Book.available, held, total, books.available, amount]
    omega
  · simp only [PaymentsSpec.resolve, set_accounts, held, books.held, amount]
  · simp only [PaymentsSpec.resolve, set_accounts, total, books.total]
  · intro _
    have exchange := Book.reversed_restate found .settled
    simp only [BookEntry.inStatus, BookEntry.withStatus, disputed, books.unlocked unlocked] at exchange
    simpa using exchange
  · simp [PaymentsSpec.resolve, unlocked]

/-- A chargeback is the one step after which something is reversed, and it locks the account. -/
theorem Books.chargeback (known : txId ∈ constants.txIds)
    (enabled : (chargeback clientId txId).guard state = true) :
    ∃ next, Books constants ((PaymentsSpec.chargeback clientId txId).post state) clientId next := by
  obtain ⟨unlocked, recorded, inState⟩ := (chargeback_guard _ _ _).mp enabled
  obtain ⟨entry, found, disputed, amount⟩ := books.found .disputed recorded inState
  have held := Book.held_reverse found disputed
  have total := Book.total_reverse found disputed
  refine ⟨book.restate found .reversed, records_insert books _ ?_, ?_, ?_, ?_, ?_, ?_⟩
  · simp [recordOf, BookEntry.withStatus, txState, recorded, amount]
  · simp only [PaymentsSpec.chargeback, set_accounts, Book.available, held, total, books.available,
      amount]
    omega
  · simp only [PaymentsSpec.chargeback, set_accounts, held, books.held, amount]
  · simp only [PaymentsSpec.chargeback, set_accounts, total, books.total, amount]
  · simp [PaymentsSpec.chargeback]
  · intro _
    exact ⟨txId, known, by simp [PaymentsSpec.chargeback, set_txRecords]⟩

end Actions

theorem books_step {before after : State} (stepped : step constants before after)
    (all : ∀ c, ∃ book, Books constants before c book) (c : Int) :
    ∃ book, Books constants after c book := by
  obtain ⟨clientId, _, txId, known, amount, _, taken⟩ := stepped
  obtain ⟨book, books⟩ := all c
  by_cases same : c = clientId
  · subst same
    obtain ⟨enabled, rfl⟩ | ⟨enabled, rfl⟩ | ⟨enabled, rfl⟩ | ⟨enabled, rfl⟩ | ⟨enabled, rfl⟩ := taken
    · exact books.deposit enabled
    · exact books.withdrawal enabled
    · exact books.dispute enabled
    · exact books.resolve enabled
    · exact books.chargeback known enabled
  · obtain ⟨_, rfl⟩ | ⟨_, rfl⟩ | ⟨_, rfl⟩ | ⟨_, rfl⟩ | ⟨_, rfl⟩ := taken
    all_goals exact ⟨book, books.set_other same _ _⟩

theorem safetyInv_of_books (all : ∀ c, ∃ book, Books constants state c book) :
    safetyInv constants state := by
  refine ⟨?_, ?_, ?_, ?_, ?_⟩
  · intro c _
    obtain ⟨book, books⟩ := all c
    simp only [books.total, books.available, books.held, Book.available]
    omega
  · intro c _
    obtain ⟨book, books⟩ := all c
    rw [books.held]
    exact book.held_nonneg
  · intro c _
    obtain ⟨book, books⟩ := all c
    cases locked : (state.accounts c).locked with
    | true => exact .inl locked
    | false => exact .inr (books.total_nonneg locked)
  · intro c _
    obtain ⟨book, books⟩ := all c
    cases locked : (state.accounts c).locked with
    | true => exact .inr (books.locked locked)
    | false => exact .inl (by simp [locked])
  · intro c _ t _ record absent
    obtain ⟨book, books⟩ := all c
    simp only [record, books.records] at absent ⊢
    cases found : book.entries.lookup t with
    | none => exact ⟨rfl, rfl⟩
    | some entry => rw [found] at absent; exact absurd rfl absent

/-- Every action needs an account that is not locked. -/
theorem locked_step {before after : State} (stepped : step constants before after) {c : Int}
    (locked : (before.accounts c).locked = true) : (after.accounts c).locked = true := by
  obtain ⟨clientId, _, txId, _, amount, _, taken⟩ := stepped
  by_cases same : c = clientId
  · subst same
    obtain ⟨enabled, _⟩ | ⟨enabled, _⟩ | ⟨enabled, _⟩ | ⟨enabled, _⟩ | ⟨enabled, _⟩ := taken
    · simp [deposit_guard, locked] at enabled
    · simp [withdrawal_guard, locked] at enabled
    · simp [dispute_guard, locked] at enabled
    · simp [resolve_guard, locked] at enabled
    · simp [chargeback_guard, locked] at enabled
  · have untouched : ∀ newAcct newRec,
        (before.set clientId txId newAcct newRec).accounts c = before.accounts c := by
      intro newAcct newRec
      simp [State.set, same]
    obtain ⟨_, rfl⟩ | ⟨_, rfl⟩ | ⟨_, rfl⟩ | ⟨_, rfl⟩ | ⟨_, rfl⟩ := taken
    all_goals exact (congrArg AccountState.locked (untouched _ _)).trans locked

/-! ## Behaviours -/

/-- An infinite run, which may also stutter. -/
structure Behaviour (constants : Constants) where
  states : Nat → State
  starts : states 0 = init
  steps : ∀ n, step constants (states n) (states (n + 1)) ∨ states (n + 1) = states n

/-- Once an account is locked it remains locked forever. -/
def lockedAccountsStayLockedProp (constants : Constants) (states : Nat → State) : Prop :=
  ∀ c ∈ constants.clients, ∀ n, ((states n).accounts c).locked = true →
    ∀ later, n ≤ later → ((states later).accounts c).locked = true

/-- For any clients, transactions and amounts every behaviour of the specification keeps the
    combined safety invariant and has the temporal property. -/
theorem safe (constants : Constants) (behaviour : Behaviour constants) :
    (∀ n, safetyInv constants (behaviour.states n)) ∧
      lockedAccountsStayLockedProp constants behaviour.states := by
  constructor
  · intro n
    refine safetyInv_of_books ?_
    induction n with
    | zero =>
      rw [behaviour.starts]
      exact fun c => ⟨_, books_init constants c⟩
    | succ n ih =>
      obtain stepped | same := behaviour.steps n
      · exact books_step stepped ih
      · rw [same]
        exact ih
  · intro c _ n locked later after
    induction later, after using Nat.le_induction with
    | base => exact locked
    | succ later _ ih =>
      obtain stepped | same := behaviour.steps later
      · exact locked_step stepped ih
      · rw [same]
        exact ih

end PaymentsEngine.PaymentsSpec
