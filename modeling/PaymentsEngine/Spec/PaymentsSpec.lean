import Mathlib.Data.Set.Basic
import Mathlib.Logic.Function.Basic

/-! # The Quint specification

The module `paymentsSpec` of `payments.qnt`: its state variables and its actions.  An
action is the conjunction of the conditions it checks and of the assignments it
makes; the conditions are its guard.  The state variables are maps over all the
integers, since an action reads them only at the ids it is given.
-/

namespace PaymentsEngine.PaymentsSpec

inductive TxState where
  | normal
  | disputed
  | resolved
  | chargeback
  deriving DecidableEq, Repr

structure AccountState where
  available : Int
  held : Int
  total : Int
  locked : Bool
  deriving DecidableEq, Repr

/-- `exists'` is true once a deposit or a withdrawal recorded the transaction. -/
structure TxRecord where
  exists' : Bool
  amount : Int
  state : TxState
  deriving DecidableEq, Repr

/-- The constants of the module. -/
structure Constants where
  clients : Set Int
  txIds : Set Int
  amounts : Set Int

def noTx : TxRecord := { exists' := false, amount := 0, state := .normal }

def emptyAccount : AccountState := { available := 0, held := 0, total := 0, locked := false }

/-- The state variables. -/
structure State where
  accounts : Int → AccountState
  txRecords : Int × Int → TxRecord

def isActive (acct : AccountState) : Bool := !acct.locked

def canDispute (state : TxState) : Bool := state == .normal

def canResolve (state : TxState) : Bool := state == .disputed

def canChargeback (state : TxState) : Bool := state == .disputed

def init : State where
  accounts := fun _ => emptyAccount
  txRecords := fun _ => noTx

/-! ## Actions -/

structure Action where
  guard : State → Bool
  post : State → State

/-- Assign the account of a client and the record of one of its transactions. -/
def State.set (self : State) (clientId txId : Int) (newAcct : AccountState) (newRec : TxRecord) :
    State where
  accounts := Function.update self.accounts clientId newAcct
  txRecords := Function.update self.txRecords (clientId, txId) newRec

def deposit (clientId txId amount : Int) : Action where
  guard self :=
    let acct := self.accounts clientId
    let record := self.txRecords (clientId, txId)
    decide (amount > 0) && isActive acct && !record.exists'
  post self :=
    let acct := self.accounts clientId
    self.set clientId txId
      { acct with available := acct.available + amount, total := acct.total + amount }
      { exists' := true, amount := amount, state := .normal }

def withdrawal (clientId txId amount : Int) : Action where
  guard self :=
    let acct := self.accounts clientId
    let record := self.txRecords (clientId, txId)
    decide (amount > 0) && isActive acct && !record.exists' && decide (acct.available ≥ amount)
  post self :=
    let acct := self.accounts clientId
    self.set clientId txId
      { acct with available := acct.available - amount, total := acct.total - amount }
      { exists' := true, amount := amount, state := .normal }

def dispute (clientId txId : Int) : Action where
  guard self :=
    let acct := self.accounts clientId
    let record := self.txRecords (clientId, txId)
    isActive acct && record.exists' && canDispute record.state
  post self :=
    let acct := self.accounts clientId
    let record := self.txRecords (clientId, txId)
    let amt := record.amount
    self.set clientId txId
      { acct with available := acct.available - amt, held := acct.held + amt }
      { record with state := .disputed }

def resolve (clientId txId : Int) : Action where
  guard self :=
    let acct := self.accounts clientId
    let record := self.txRecords (clientId, txId)
    isActive acct && record.exists' && canResolve record.state
  post self :=
    let acct := self.accounts clientId
    let record := self.txRecords (clientId, txId)
    let amt := record.amount
    self.set clientId txId
      { acct with held := acct.held - amt, available := acct.available + amt }
      { record with state := .resolved }

def chargeback (clientId txId : Int) : Action where
  guard self :=
    let acct := self.accounts clientId
    let record := self.txRecords (clientId, txId)
    isActive acct && record.exists' && canChargeback record.state
  post self :=
    let acct := self.accounts clientId
    let record := self.txRecords (clientId, txId)
    let amt := record.amount
    self.set clientId txId
      { acct with held := acct.held - amt, total := acct.total - amt, locked := true }
      { record with state := .chargeback }

section Guards

variable (self : State) (clientId txId amount : Int)

theorem deposit_guard : (deposit clientId txId amount).guard self = true ↔
    0 < amount ∧ (self.accounts clientId).locked = false ∧
      (self.txRecords (clientId, txId)).exists' = false := by
  simp [deposit, isActive, and_assoc]

theorem withdrawal_guard : (withdrawal clientId txId amount).guard self = true ↔
    0 < amount ∧ (self.accounts clientId).locked = false ∧
      (self.txRecords (clientId, txId)).exists' = false ∧
      amount ≤ (self.accounts clientId).available := by
  simp [withdrawal, isActive, and_assoc]

theorem dispute_guard : (dispute clientId txId).guard self = true ↔
    (self.accounts clientId).locked = false ∧ (self.txRecords (clientId, txId)).exists' = true ∧
      (self.txRecords (clientId, txId)).state = .normal := by
  simp [dispute, isActive, canDispute, and_assoc]

theorem resolve_guard : (resolve clientId txId).guard self = true ↔
    (self.accounts clientId).locked = false ∧ (self.txRecords (clientId, txId)).exists' = true ∧
      (self.txRecords (clientId, txId)).state = .disputed := by
  simp [resolve, isActive, canResolve, and_assoc]

theorem chargeback_guard : (chargeback clientId txId).guard self = true ↔
    (self.accounts clientId).locked = false ∧ (self.txRecords (clientId, txId)).exists' = true ∧
      (self.txRecords (clientId, txId)).state = .disputed := by
  simp [chargeback, isActive, canChargeback, and_assoc]

end Guards

/-- The action leads from one state to another. -/
def Action.Takes (self : Action) (before after : State) : Prop :=
  self.guard before = true ∧ after = self.post before

/-- All behaviours in one action. -/
def step (constants : Constants) (before after : State) : Prop :=
  ∃ clientId ∈ constants.clients, ∃ txId ∈ constants.txIds, ∃ amount ∈ constants.amounts,
    (deposit clientId txId amount).Takes before after ∨
    (withdrawal clientId txId amount).Takes before after ∨
    (dispute clientId txId).Takes before after ∨
    (resolve clientId txId).Takes before after ∨
    (chargeback clientId txId).Takes before after

end PaymentsEngine.PaymentsSpec
