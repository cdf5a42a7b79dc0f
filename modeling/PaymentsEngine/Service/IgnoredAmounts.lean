import PaymentsEngine.Infrastructure.LoadFile
import PaymentsEngine.Service.Restart

/-! # Amounts that are ignored

The account operations of disputes, resolves and chargebacks work on the amount that is
stored for the transaction, so messages that differ in their own amount alone lead to
the same outcomes and to the same accounts.
-/

namespace PaymentsEngine

open PaymentsEngine.Library PaymentsEngine.Library.Machine

namespace Account

/-- Only the history has the whole message. -/
theorem exec_processTransition_alike (self : Account) (target : TransactionState)
    {effect : Int → Account → Account}
    (blind : ∀ amount account, (effect amount account).released = effect amount account.released)
    (msg : InputMessage) (amount : Int) :
    ((processTransition target effect msg).exec self).1 =
        ((processTransition target effect { msg with amount := amount }).exec self).1 ∧
      ((processTransition target effect msg).exec self).2.released =
        ((processTransition target effect { msg with amount := amount }).exec self).2.released := by
  rw [exec_processTransition, exec_processTransition]
  cases self.locked with
  | true => exact ⟨rfl, rfl⟩
  | false =>
    dsimp only
    cases self.transactions.lookup msg.transactionId with
    | none => exact ⟨rfl, rfl⟩
    | some entry =>
      obtain ⟨state, stored⟩ := entry
      dsimp only
      cases state.canTransition target with
      | error error => exact ⟨rfl, rfl⟩
      | ok transition =>
        refine ⟨rfl, ?_⟩
        change (self.move msg transition (effect stored.amount)).released =
          (self.move { msg with amount := amount } transition (effect stored.amount)).released
        rw [move, move, execute_released, execute_released, blind, blind, released_logged,
          released_logged]

theorem apply_alike (self : Account) {msg other : InputMessage} (alike : msg.Alike other) :
    (self.apply msg.call).1 = (self.apply other.call).1 ∧
      (self.apply msg.call).2.released = (self.apply other.call).2.released := by
  rw [← alike.rest]
  have whole : msg.transactionType.ignoresAmount = false →
      { msg with amount := other.amount } = msg := fun reads => by rw [← alike.amount reads]
  obtain ⟨chronoOrder, transactionType, clientId, transactionId, amount⟩ := msg
  cases transactionType with
  | deposit => rw [whole rfl]; exact ⟨rfl, rfl⟩
  | withdrawal => rw [whole rfl]; exact ⟨rfl, rfl⟩
  | dispute | resolve | chargeback =>
    simp only [apply, process, InputMessage.call, processDispute, processResolve, processChargeback]
    apply exec_processTransition_alike
    intro _ _
    rfl

end Account

namespace Accounts

theorem process_alike (self : Accounts) {msg other : InputMessage} (alike : msg.Alike other) :
    (self.process msg).1 = (self.process other).1 ∧
      (self.process msg).2.released = (self.process other).2.released := by
  have clientId : msg.clientId = other.clientId := by rw [← alike.rest]
  obtain ⟨answers, accounts⟩ := (self.entry msg.clientId).apply_alike alike
  rw [process_fst, process_fst, process_snd, process_snd, released_insert, released_insert, answers,
    accounts, clientId]
  exact ⟨rfl, rfl⟩

theorem respects_resolve : Respects resolve released where
  answers := by
    intro first second msg same
    rw [resolve, resolve, respects_released.answers msg same]
  views := fun msg same => respects_released.views msg same

/-- Messages that are pairwise alike lead to the same outcomes and the same accounts. -/
theorem run_alike {messages others : List InputMessage}
    (alike : List.Forall₂ InputMessage.Alike messages others) :
    outputs resolve ∅ messages = outputs resolve ∅ others ∧
      released (after process ∅ messages) = released (after process ∅ others) := by
  rw [← after_resolve, ← after_resolve]
  apply respects_resolve.exchange _ _ alike rfl
  · intro self msg other alike
    have rest := alike.rest
    rw [resolve, resolve, (self.process_alike alike).1, ← rest]
  · intro self msg other alike
    exact (self.process_alike alike).2

end Accounts

end PaymentsEngine
