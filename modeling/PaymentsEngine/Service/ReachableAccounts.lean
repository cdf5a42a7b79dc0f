import PaymentsEngine.Domain.Reachable
import PaymentsEngine.Service.Clients

/-! # The tables of accounts that messages can reach -/

namespace PaymentsEngine

open PaymentsEngine.Library PaymentsEngine.Library.Machine

/-- A deposit of nothing is refused by every account. -/
theorem Account.dispatch_refused (self : Account) (clientId : ClientId) :
    (self.dispatch ⟨0, .deposit, clientId, 0, 0⟩).2.released = self.released := by
  obtain ⟨next, accepts⟩ | ⟨error, refused⟩ := apply_cases self ⟨.deposit, ⟨0, .deposit, clientId, 0, 0⟩⟩
  · cases accepts with
    | deposit unlocked positive => cases positive
  · rw [dispatch, InputMessage.call, refused]
    rfl

/-- Every account of a table that messages lead to stands for its client, and no assertion of a
    debug build fails for it. -/
theorem Accounts.stands_after {messages : List InputMessage} {clientId : ClientId} {account : Account}
    (found : (after Accounts.process ∅ messages).lookup clientId = some account) :
    account.Stands clientId ∧ account.checkInvariants = true := by
  rw [(isolated_resolve clientId messages).account] at found
  split at found
  next =>
    cases found
    have own : ∀ msg ∈ messagesOf clientId messages, msg.clientId = clientId := by
      simp [messagesOf, Keyed.project]
    exact ⟨Account.stands_after own, (Account.kept_after clientId _).1.checkInvariants⟩
  next => cases found

/-- The tables of accounts that the messages of all clients can lead to are exactly those in which
    every account stands for the client that it is stored under: whatever holds of all tables that
    can be reached follows from this.  Only the history of debug builds is left out. -/
theorem Accounts.reachable_iff (accounts : Accounts) :
    (∃ messages, ∀ clientId,
      ((after Accounts.process ∅ messages).lookup clientId).map Account.released =
        (accounts.lookup clientId).map Account.released) ↔
    ∀ clientId account, accounts.lookup clientId = some account → account.Stands clientId := by
  constructor
  · rintro ⟨messages, same⟩ clientId account found
    have same := same clientId
    rw [found, Option.map_some] at same
    obtain ⟨reached, foundReached, same⟩ := Option.map_eq_some_iff.mp same
    exact (Accounts.stands_after foundReached).1.of_released same
  · rw [Accounts.process_eq_step]
    intro stands
    refine Keyed.exists_family InputMessage.clientId Account.new Account.dispatch ?_
    intro clientId account found
    obtain ⟨messages, own, same⟩ :=
      (Account.reachable_iff_stands clientId account).mpr (stands clientId account found)
    -- The client is there even when nothing of it was accepted.
    refine ⟨messages ++ [⟨0, .deposit, clientId, 0, 0⟩], by simp, ?_, ?_⟩
    · simpa [or_imp, forall_and] using own
    · rw [after_concat, Account.dispatch_refused, same]

end PaymentsEngine
