import PaymentsEngine.Library.Keyed
import PaymentsEngine.Domain.AccountSteps

/-! # The accounts map

One step of the loop in `handle_buffer`: take the entry of the client, create it when
it is missing, and hand the message to the operation of its type.  As a machine this
is the family of the accounts, one for each client.
-/

namespace PaymentsEngine

open PaymentsEngine.Library PaymentsEngine.Library.Machine

abbrev Accounts := FiniteMap ClientId Account

namespace Accounts

/-- The account of a client, or a new one. -/
def entry (self : Accounts) (clientId : ClientId) : Account :=
  (self.lookup clientId).getD (Account.new clientId)

def process (self : Accounts) (msg : InputMessage) : TransactionResult × Accounts :=
  let account := self.entry msg.clientId
  let answered := match msg.transactionType with
    | .deposit => (Account.processDeposit msg).exec account
    | .withdrawal => (Account.processWithdrawal msg).exec account
    | .dispute => (Account.processDispute msg).exec account
    | .resolve => (Account.processResolve msg).exec account
    | .chargeback => (Account.processChargeback msg).exec account
  (answered.1, self.insert msg.clientId answered.2)

theorem process_eq_step : process = Keyed.step InputMessage.clientId Account.new Account.dispatch := by
  funext self msg
  obtain ⟨chronoOrder, transactionType, clientId, transactionId, amount⟩ := msg
  cases transactionType <;> rfl

theorem process_fst (self : Accounts) (msg : InputMessage) :
    (self.process msg).1 = ((self.entry msg.clientId).apply msg.call).1 := by
  rw [process_eq_step]; rfl

theorem process_snd (self : Accounts) (msg : InputMessage) :
    (self.process msg).2 =
      self.insert msg.clientId ((self.entry msg.clientId).apply msg.call).2 := by
  rw [process_eq_step]; rfl

end Accounts

end PaymentsEngine
