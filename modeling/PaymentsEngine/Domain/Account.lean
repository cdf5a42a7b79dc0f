import PaymentsEngine.Library.FiniteMap
import PaymentsEngine.Domain.Transaction

/-! # Accounts

The account record and its five operations.  An operation takes `&mut self` and
returns a `Result`, so it is a program that may stop with an error and keeps what it
wrote until then: `ExceptT TransactionError (StateM Account)`.
-/

namespace PaymentsEngine

open PaymentsEngine.Library

inductive TransactionState where
  | normal
  | disputed
  | resolved
  | chargeback
  deriving DecidableEq, Repr

/-- A client account.  Every recorded transaction is in `transactions` with its state and the
    message that recorded it, and its id is in the set of that state. -/
structure Account where
  clientId : ClientId
  available : Int
  held : Int
  total : Int
  locked : Bool
  transactions : FiniteMap TransactionId (TransactionState × InputMessage)
  normal : Finset TransactionId
  disputes : Finset TransactionId
  resolves : Finset TransactionId
  chargebacks : Finset TransactionId
  -- kept by debug builds only
  historyChanges : List InputMessage
  deriving DecidableEq

/-- A validated state transition. -/
structure ExecuteTransition where
  fromState : TransactionState
  toState : TransactionState
  deriving DecidableEq, Repr

def TransactionState.canTransition (self target : TransactionState) :
    Except TransactionError ExecuteTransition :=
  let ok := .ok { fromState := self, toState := target }
  match self, target with
  | _, .normal => .error .cannotRevertToNormal
  | .chargeback, _ => .error .accountLocked
  | .resolved, _ => .error .transactionTerminalState
  | .disputed, .disputed => .error .alreadyDisputed
  | .normal, .disputed => ok
  | .disputed, .resolved | .disputed, .chargeback => ok
  | .normal, .resolved | .normal, .chargeback => .error .transactionNotDisputed

/-- Move `key` from its old state set to the new one and update the transactions map. -/
def ExecuteTransition.execute (self : ExecuteTransition) (account : Account)
    (key : TransactionId) : Account :=
  let removed := match self.fromState with
    | .normal => { account with normal := account.normal.erase key }
    | .disputed => { account with disputes := account.disputes.erase key }
    | .resolved => { account with resolves := account.resolves.erase key }
    | .chargeback => { account with chargebacks := account.chargebacks.erase key }
  let inserted := match self.toState with
    | .normal => { removed with normal := insert key removed.normal }
    | .disputed => { removed with disputes := insert key removed.disputes }
    | .resolved => { removed with resolves := insert key removed.resolves }
    | .chargeback => { removed with chargebacks := insert key removed.chargebacks }
  match inserted.transactions.lookup key with
  | some (_, message) =>
    { inserted with transactions := inserted.transactions.insert key (self.toState, message) }
  | none => inserted

/-- A new account with zero balances. -/
def Account.new (clientId : ClientId) : Account where
  clientId := clientId
  available := Amount.zero
  held := Amount.zero
  total := Amount.zero
  locked := false
  transactions := ∅
  normal := ∅
  disputes := ∅
  resolves := ∅
  chargebacks := ∅
  historyChanges := []

abbrev AccountM := ExceptT TransactionError (StateM Account)

/-- How a program ends on `self`, and the account it leaves. -/
def AccountM.exec {Value : Type} (program : AccountM Value) (self : Account) :
    Except TransactionError Value × Account :=
  program.run.run self

namespace Account

/-- The debug-only `check_invariants` call is left out: it writes nothing, and no reachable
    account fails it. -/
def sharedPrestep (msg : InputMessage) : AccountM Unit := do
  modify fun self => { self with historyChanges := self.historyChanges ++ [msg] }
  if (← get).locked then
    throw .accountLocked

def processDeposit (msg : InputMessage) : AccountM Unit := do
  sharedPrestep msg
  if !Amount.isPositive msg.amount then
    throw .amountNegative
  if msg.transactionId ∈ (← get).transactions then
    throw .duplicateTransaction
  modify fun self =>
    { self with transactions := self.transactions.insert msg.transactionId (.normal, msg) }
  modify fun self => { self with normal := insert msg.transactionId self.normal }
  modify fun self => { self with available := self.available + msg.amount }
  modify fun self => { self with total := self.total + msg.amount }

def processWithdrawal (msg : InputMessage) : AccountM Unit := do
  sharedPrestep msg
  if !Amount.isPositive msg.amount then
    throw .amountNegative
  if msg.transactionId ∈ (← get).transactions then
    throw .duplicateTransaction
  if (← get).available < msg.amount then
    throw .insufficientBalance
  modify fun self =>
    { self with transactions := self.transactions.insert msg.transactionId (.normal, msg) }
  modify fun self => { self with normal := insert msg.transactionId self.normal }
  modify fun self => { self with available := self.available - msg.amount }
  modify fun self => { self with total := self.total - msg.amount }

/-- Look up a transaction and validate that it can move to `target`. -/
def doTransition (txId : TransactionId) (target : TransactionState) :
    AccountM ExecuteTransition := do
  match (← get).transactions.lookup txId with
  | none => throw .invalidTransaction
  | some (state, _) => state.canTransition target

/-- The amount stored for `key`: the second lookup that follows the validation. -/
def storedAmount (key : TransactionId) : AccountM Int := do
  match (← get).transactions.lookup key with
  | none => throw .invalidTransaction
  | some (_, message) => return message.amount

/-- What dispute, resolve and chargeback share: validate, look the amount up, move the money as
    `effect` says and execute the transition. -/
def processTransition (target : TransactionState) (effect : Int → Account → Account)
    (msg : InputMessage) : AccountM Unit := do
  sharedPrestep msg
  let key := msg.transactionId
  let transition ← doTransition key target
  let amount ← storedAmount key
  modify (effect amount)
  modify fun self => transition.execute self key

def processDispute : InputMessage → AccountM Unit :=
  processTransition .disputed fun disputedAmount self =>
    { self with
      available := self.available - disputedAmount
      held := self.held + disputedAmount }

def processResolve : InputMessage → AccountM Unit :=
  processTransition .resolved fun resolveAmount self =>
    { self with
      held := self.held - resolveAmount
      available := self.available + resolveAmount }

def processChargeback : InputMessage → AccountM Unit :=
  processTransition .chargeback fun chargebackAmount self =>
    { self with
      held := self.held - chargebackAmount
      total := self.total - chargebackAmount
      locked := true }

end Account

/-! ## Calls -/

/-- A call of one of the operations.  Nothing ties the operation to the type of the message. -/
structure Call where
  operation : TransactionType
  message : InputMessage
  deriving DecidableEq, Repr

/-- The call that a message's own type selects, as the service makes it. -/
def InputMessage.call (message : InputMessage) : Call := ⟨message.transactionType, message⟩

def Account.process (call : Call) : AccountM Unit :=
  match call.operation with
  | .deposit => processDeposit call.message
  | .withdrawal => processWithdrawal call.message
  | .dispute => processDispute call.message
  | .resolve => processResolve call.message
  | .chargeback => processChargeback call.message

abbrev TransactionResult := Except TransactionError Unit

/-- The result of a call and the account it leaves. -/
def Account.apply (account : Account) (call : Call) : TransactionResult × Account :=
  (process call).exec account

/-- The call that the message's own type selects. -/
def Account.dispatch (account : Account) (message : InputMessage) : TransactionResult × Account :=
  account.apply message.call

end PaymentsEngine
