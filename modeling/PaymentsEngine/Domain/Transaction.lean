import PaymentsEngine.Domain.Amount

/-! # Transactions, messages and their errors -/

namespace PaymentsEngine

/-- Unique identifier for a client. -/
abbrev ClientId := UInt16

/-- Unique identifier for a transaction. -/
abbrev TransactionId := UInt32

inductive TransactionType where
  | deposit
  | withdrawal
  | dispute
  | resolve
  | chargeback
  deriving DecidableEq, Repr

def TransactionType.fromStr (text : Text) : Option TransactionType :=
  if text = "deposit".toList then some .deposit
  else if text = "withdrawal".toList then some .withdrawal
  else if text = "dispute".toList then some .dispute
  else if text = "resolve".toList then some .resolve
  else if text = "chargeback".toList then some .chargeback
  else none

def TransactionType.otelLabel : TransactionType → String
  | .deposit => "deposit"
  | .withdrawal => "withdrawal"
  | .dispute => "dispute"
  | .resolve => "resolve"
  | .chargeback => "chargeback"

/-- A type is read from its label and from no other text. -/
theorem TransactionType.fromStr_eq_some {text : Text} {type : TransactionType} :
    fromStr text = some type ↔ text = type.otelLabel.toList := by
  constructor
  · intro reads
    unfold fromStr at reads
    split_ifs at reads <;> cases reads <;> assumption
  · rintro rfl
    cases type <;> decide

/-- Whether the operation of the type works on the amount that is stored for the transaction. -/
def TransactionType.ignoresAmount : TransactionType → Bool
  | .deposit | .withdrawal => false
  | .dispute | .resolve | .chargeback => true

/-- A parsed transaction.  `chronoOrder` is its sequence number in the file. -/
structure InputMessage where
  chronoOrder : UInt64
  transactionType : TransactionType
  clientId : ClientId
  transactionId : TransactionId
  amount : Int
  deriving DecidableEq, Repr

/-- Messages that differ in an amount that is ignored at most. -/
structure InputMessage.Alike (msg other : InputMessage) : Prop where
  rest : { msg with amount := other.amount } = other
  amount : msg.transactionType.ignoresAmount = false → msg.amount = other.amount

/-- The `Ord` of messages, reversed so that the oldest message is the greatest. -/
def InputMessage.cmp (self other : InputMessage) : Ordering :=
  match compare other.chronoOrder self.chronoOrder with
  | .eq =>
    match compare other.clientId self.clientId with
    | .eq => compare other.transactionId self.transactionId
    | order => order
  | order => order

theorem InputMessage.cmp_eq_lex : InputMessage.cmp = fun self other =>
    compareLex (compareOn chronoOrder) (compareLex (compareOn clientId) (compareOn transactionId))
      other self := by
  funext self other
  simp only [InputMessage.cmp, compareLex, compareOn, Ordering.then]
  cases compare other.chronoOrder self.chronoOrder <;>
    cases compare other.clientId self.clientId <;> rfl

instance : Std.TransCmp InputMessage.cmp := by
  rw [InputMessage.cmp_eq_lex]
  exact Std.TransCmp.opposite

/-- The `PartialEq` of messages, made to agree with their order. -/
def InputMessage.eq (self other : InputMessage) : Bool := self.cmp other == .eq

/-- What messages are compared by. -/
def InputMessage.key (self : InputMessage) : UInt64 × ClientId × TransactionId :=
  (self.chronoOrder, self.clientId, self.transactionId)

/-- Ascending by sequence number, then by client, then by transaction. -/
def InputMessage.Precedes (self other : InputMessage) : Prop :=
  self.chronoOrder < other.chronoOrder ∨ self.chronoOrder = other.chronoOrder ∧
    (self.clientId < other.clientId ∨ self.clientId = other.clientId ∧
      self.transactionId < other.transactionId)

section Order

variable {self other : InputMessage}

/-- The greater message is the one that comes first. -/
theorem InputMessage.cmp_eq_gt_iff : self.cmp other = .gt ↔ self.Precedes other := by
  rw [InputMessage.cmp, Precedes, eq_comm (a := self.chronoOrder), eq_comm (a := self.clientId),
    ← Std.compare_eq_gt, ← Std.compare_eq_gt, ← Std.compare_eq_gt,
    ← Std.compare_eq_iff_eq (a := other.chronoOrder), ← Std.compare_eq_iff_eq (a := other.clientId)]
  cases compare other.chronoOrder self.chronoOrder <;>
    cases compare other.clientId self.clientId <;> simp

theorem InputMessage.cmp_eq_eq_iff : self.cmp other = .eq ↔ self.key = other.key := by
  rw [InputMessage.cmp, eq_comm (a := self.key), key, key, Prod.mk.injEq, Prod.mk.injEq,
    ← Std.compare_eq_iff_eq (a := other.chronoOrder), ← Std.compare_eq_iff_eq (a := other.clientId),
    ← Std.compare_eq_iff_eq (a := other.transactionId)]
  cases compare other.chronoOrder self.chronoOrder <;>
    cases compare other.clientId self.clientId <;> simp

theorem InputMessage.eq_iff : self.eq other = true ↔ self.key = other.key := by
  rw [InputMessage.eq, beq_iff_eq, cmp_eq_eq_iff]

end Order

/-- The message with the smaller sequence number is the greater one. -/
theorem InputMessage.cmp_of_lt {earlier later : InputMessage}
    (lower : earlier.chronoOrder < later.chronoOrder) : earlier.cmp later = .gt :=
  cmp_eq_gt_iff.mpr (.inl lower)

/-- Errors that can occur when processing a transaction against an account. -/
inductive TransactionError where
  | insufficientBalance
  | accountLocked
  | transactionNotDisputed
  | invalidTransaction
  | duplicateTransaction
  | cannotRevertToNormal
  | amountNegative
  | transactionTerminalState
  | alreadyDisputed
  deriving DecidableEq, Repr

def TransactionError.text : TransactionError → String
  | .insufficientBalance => "Unable to withdraw due to insufficient balance"
  | .accountLocked => "The account is locked"
  | .transactionNotDisputed => "Transaction is not disputed"
  | .invalidTransaction => "Unable to resolve the transaction"
  | .duplicateTransaction => "Cannot add the transaction because it has already been added"
  | .cannotRevertToNormal => "Unable to revert to a normal state"
  | .amountNegative => "Cannot accept transaction because the amount is negative"
  | .transactionTerminalState => "Transaction is already in a terminal state"
  | .alreadyDisputed => "Cannot dispute an already disputed transaction"

end PaymentsEngine
