import Mathlib.Algebra.Order.Group.Unbundled.Basic
import Mathlib.Tactic.Abel
import PaymentsEngine.Library.FiniteMap

/-! # Books of reversible entries

A book records credits and debits.  An entry may be disputed, and a disputed entry is
settled or reversed.  The funds are not stored: they are sums over the entries.  A
debit needs the funds that are available, so the debits never exceed the credits, and
a book carries that as a field.
-/

namespace PaymentsEngine.Library

inductive Direction where
  | credit
  | debit
  deriving DecidableEq, Repr

inductive Status where
  | standing
  | disputed
  | settled
  | reversed
  deriving DecidableEq, Repr

structure BookEntry (Money : Type*) [Zero Money] [LT Money] where
  direction : Direction
  status : Status
  amount : Money
  positive : 0 < amount

namespace BookEntry

variable {Money : Type*} [AddCommGroup Money] [LinearOrder Money]

/-- What an entry adds to the credits. -/
def credited (entry : BookEntry Money) : Money :=
  if entry.direction = .credit then entry.amount else 0

def debited (entry : BookEntry Money) : Money :=
  if entry.direction = .debit then entry.amount else 0

/-- What an entry adds to the funds whose entries are in a status. -/
def inStatus (status : Status) (entry : BookEntry Money) : Money :=
  if entry.status = status then entry.amount else 0

/-- The entry in another status. -/
def withStatus (entry : BookEntry Money) (status : Status) : BookEntry Money :=
  { entry with status := status }

@[simp] theorem credited_withStatus (entry : BookEntry Money) (status : Status) :
    (entry.withStatus status).credited = entry.credited := rfl

@[simp] theorem debited_withStatus (entry : BookEntry Money) (status : Status) :
    (entry.withStatus status).debited = entry.debited := rfl

theorem inStatus_nonneg (entry : BookEntry Money) (status : Status) : 0 ≤ entry.inStatus status := by
  unfold inStatus
  split
  · exact le_of_lt entry.positive
  · exact le_refl 0

end BookEntry

/-- A book of entries whose debits are covered by its credits. -/
structure Book (Id Money : Type*) [AddCommGroup Money] [LinearOrder Money] where
  entries : FiniteMap Id (BookEntry Money)
  solvent : sumOver BookEntry.debited entries ≤ sumOver BookEntry.credited entries

namespace Book

variable {Id Money : Type*} [AddCommGroup Money] [LinearOrder Money]

section Funds

variable (self : Book Id Money)

def credits : Money := sumOver BookEntry.credited self.entries

def debits : Money := sumOver BookEntry.debited self.entries

def held : Money := sumOver (BookEntry.inStatus .disputed) self.entries

def reversed : Money := sumOver (BookEntry.inStatus .reversed) self.entries

def total : Money := self.credits - self.debits - self.reversed

def available : Money := self.total - self.held

variable [IsOrderedAddMonoid Money]

/-- Before reversals the funds are never negative. -/
theorem total_add_reversed_nonneg : 0 ≤ self.total + self.reversed := by
  have solvent : self.debits ≤ self.credits := self.solvent
  rw [total, sub_add_cancel]
  exact sub_nonneg.mpr solvent

variable [DecidableEq Id]

theorem held_nonneg : 0 ≤ self.held := sumOver_nonneg fun _ entry _ => entry.inStatus_nonneg _

theorem reversed_nonneg : 0 ≤ self.reversed := sumOver_nonneg fun _ entry _ => entry.inStatus_nonneg _

/-- What is available is covered by the credits that are not debited yet. -/
theorem available_add_debits_le : self.available + self.debits ≤ self.credits := by
  have held := self.held_nonneg
  have reversed := self.reversed_nonneg
  have rest : self.available + self.debits = self.credits - (self.reversed + self.held) := by
    rw [available, total]; abel
  rw [rest]
  exact sub_le_self _ (add_nonneg reversed held)

end Funds

/-! ## Operations and what they do to the funds -/

variable [DecidableEq Id]

def empty : Book Id Money where
  entries := ∅
  solvent := le_refl _

/-- Move an entry to another status. -/
def restate (self : Book Id Money) {id : Id} {entry : BookEntry Money}
    (found : self.entries.lookup id = some entry) (status : Status) : Book Id Money where
  entries := self.entries.insert id (entry.withStatus status)
  solvent := by
    rw [sumOver_insert_same _ found (entry.debited_withStatus status),
      sumOver_insert_same _ found (entry.credited_withStatus status)]
    exact self.solvent

section Restate

variable {self : Book Id Money} {id : Id} {entry : BookEntry Money}
variable (found : self.entries.lookup id = some entry) (status : Status)

theorem credits_restate : (self.restate found status).credits = self.credits :=
  sumOver_insert_same _ found (entry.credited_withStatus status)

theorem debits_restate : (self.restate found status).debits = self.debits :=
  sumOver_insert_same _ found (entry.debited_withStatus status)

theorem held_restate : entry.inStatus .disputed + (self.restate found status).held =
    (entry.withStatus status).inStatus .disputed + self.held :=
  sumOver_insert_replace _ found

theorem reversed_restate : entry.inStatus .reversed + (self.restate found status).reversed =
    (entry.withStatus status).inStatus .reversed + self.reversed :=
  sumOver_insert_replace _ found

section Dispute

variable (standing : entry.status = .standing)
include standing

theorem held_dispute : (self.restate found .disputed).held = self.held + entry.amount := by
  have exchange : (self.restate found .disputed).held = entry.amount + self.held := by
    simpa [BookEntry.inStatus, BookEntry.withStatus, standing] using held_restate found .disputed
  rw [exchange, add_comm]

theorem total_dispute : (self.restate found .disputed).total = self.total := by
  have exchange : (self.restate found .disputed).reversed = self.reversed := by
    simpa [BookEntry.inStatus, BookEntry.withStatus, standing] using reversed_restate found .disputed
  rw [total, credits_restate, debits_restate, exchange, total]

end Dispute

section Decide

variable (disputed : entry.status = .disputed)
include disputed

theorem held_settle : (self.restate found .settled).held = self.held - entry.amount := by
  have exchange : entry.amount + (self.restate found .settled).held = self.held := by
    simpa [BookEntry.inStatus, BookEntry.withStatus, disputed] using held_restate found .settled
  rw [← exchange, add_sub_cancel_left]

theorem total_settle : (self.restate found .settled).total = self.total := by
  have exchange : (self.restate found .settled).reversed = self.reversed := by
    simpa [BookEntry.inStatus, BookEntry.withStatus, disputed] using reversed_restate found .settled
  rw [total, credits_restate, debits_restate, exchange, total]

theorem held_reverse : (self.restate found .reversed).held = self.held - entry.amount := by
  have exchange : entry.amount + (self.restate found .reversed).held = self.held := by
    simpa [BookEntry.inStatus, BookEntry.withStatus, disputed] using held_restate found .reversed
  rw [← exchange, add_sub_cancel_left]

theorem total_reverse : (self.restate found .reversed).total = self.total - entry.amount := by
  have exchange : (self.restate found .reversed).reversed = entry.amount + self.reversed := by
    simpa [BookEntry.inStatus, BookEntry.withStatus, disputed] using reversed_restate found .reversed
  rw [total, credits_restate, debits_restate, exchange, total]
  abel

end Decide

end Restate

variable [IsOrderedAddMonoid Money]

/-- Record a credit under a fresh id. -/
def credit (self : Book Id Money) {id : Id} (fresh : id ∉ self.entries) {amount : Money}
    (positive : 0 < amount) : Book Id Money where
  entries := self.entries.insert id ⟨.credit, .standing, amount, positive⟩
  solvent := by
    rw [sumOver_insert_fresh _ fresh, sumOver_insert_fresh _ fresh]
    exact add_le_add (le_of_lt positive) self.solvent

section Credit

variable {self : Book Id Money} {id : Id} (fresh : id ∉ self.entries) {amount : Money}
variable (positive : 0 < amount)

theorem credits_credit : (self.credit fresh positive).credits = amount + self.credits :=
  sumOver_insert_fresh _ fresh

theorem debits_credit : (self.credit fresh positive).debits = self.debits :=
  (sumOver_insert_fresh _ fresh).trans (zero_add _)

theorem held_credit : (self.credit fresh positive).held = self.held :=
  (sumOver_insert_fresh _ fresh).trans (zero_add _)

theorem reversed_credit : (self.credit fresh positive).reversed = self.reversed :=
  (sumOver_insert_fresh _ fresh).trans (zero_add _)

theorem total_credit : (self.credit fresh positive).total = self.total + amount := by
  rw [total, credits_credit, debits_credit, reversed_credit, total]
  abel

end Credit

/-- Record a debit of available funds under a fresh id. -/
def debit (self : Book Id Money) {id : Id} (fresh : id ∉ self.entries) {amount : Money}
    (positive : 0 < amount) (covered : amount ≤ self.available) : Book Id Money where
  entries := self.entries.insert id ⟨.debit, .standing, amount, positive⟩
  solvent := by
    rw [sumOver_insert_fresh _ fresh, sumOver_insert_fresh _ fresh]
    calc amount + self.debits
        ≤ self.available + self.debits := add_le_add_left covered _
      _ ≤ self.credits := self.available_add_debits_le
      _ = 0 + self.credits := (zero_add _).symm

section Debit

variable {self : Book Id Money} {id : Id} (fresh : id ∉ self.entries) {amount : Money}
variable (positive : 0 < amount) (covered : amount ≤ self.available)

theorem credits_debit : (self.debit fresh positive covered).credits = self.credits :=
  (sumOver_insert_fresh _ fresh).trans (zero_add _)

theorem debits_debit : (self.debit fresh positive covered).debits = amount + self.debits :=
  sumOver_insert_fresh _ fresh

theorem held_debit : (self.debit fresh positive covered).held = self.held :=
  (sumOver_insert_fresh _ fresh).trans (zero_add _)

theorem reversed_debit : (self.debit fresh positive covered).reversed = self.reversed :=
  (sumOver_insert_fresh _ fresh).trans (zero_add _)

theorem total_debit : (self.debit fresh positive covered).total = self.total - amount := by
  rw [total, credits_debit, debits_debit, reversed_debit, total]
  abel

end Debit

/-- One operation.  A standing entry can be disputed, a disputed one settled or reversed. -/
inductive Step (self : Book Id Money) : Book Id Money → Prop where
  | credit {id : Id} (fresh : id ∉ self.entries) {amount : Money} (positive : 0 < amount) :
      Step self (self.credit fresh positive)
  | debit {id : Id} (fresh : id ∉ self.entries) {amount : Money} (positive : 0 < amount)
      (covered : amount ≤ self.available) : Step self (self.debit fresh positive covered)
  | dispute {id : Id} {entry : BookEntry Money} (found : self.entries.lookup id = some entry)
      (standing : entry.status = .standing) : Step self (self.restate found .disputed)
  | settle {id : Id} {entry : BookEntry Money} (found : self.entries.lookup id = some entry)
      (disputed : entry.status = .disputed) : Step self (self.restate found .settled)
  | reverse {id : Id} {entry : BookEntry Money} (found : self.entries.lookup id = some entry)
      (disputed : entry.status = .disputed) : Step self (self.restate found .reversed)

end Book

end PaymentsEngine.Library
