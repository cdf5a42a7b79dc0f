import Mathlib.Data.Finmap
import Mathlib.Algebra.BigOperators.Group.Finset.Basic
import Mathlib.Algebra.Order.BigOperators.Group.Multiset

/-! # Sums over finite maps

`sumOver weight map` adds up a weight of every value of a finite map.  The lemmas
say how the sum moves when a fresh key is inserted and when the value of a
present key is replaced, which is all that an incrementally updated total needs.
-/

namespace PaymentsEngine.Library

variable {Key Value Other Shape Weight : Type*}

/-- A finite map whose values all have one type. -/
abbrev FiniteMap (Key Value : Type*) := Finmap fun _ : Key => Value

/-- The sum of `weight` over the values of the map. -/
def sumOver [AddCommMonoid Weight] (weight : Value → Weight) (map : FiniteMap Key Value) : Weight :=
  (map.entries.map fun entry => weight entry.2).sum

section Monoid

variable [AddCommMonoid Weight]

variable [DecidableEq Key]

theorem sumOver_insert_fresh (weight : Value → Weight) {map : FiniteMap Key Value} {key : Key}
    {value : Value} (fresh : key ∉ map) :
    sumOver weight (map.insert key value) = weight value + sumOver weight map := by
  rw [sumOver, Finmap.entries_insert_of_notMem fresh, Multiset.map_cons, Multiset.sum_cons, sumOver]

/-- Putting an erased value back restores the map. -/
theorem insert_erase {map : FiniteMap Key Value} {key : Key} {value : Value}
    (found : map.lookup key = some value) : (map.erase key).insert key value = map := by
  apply Finmap.ext_lookup
  intro other
  by_cases same : other = key
  · subst same; rw [Finmap.lookup_insert, found]
  · rw [Finmap.lookup_insert_of_ne _ same, Finmap.lookup_erase_ne same]

theorem insert_after_erase (map : FiniteMap Key Value) (key : Key) (value : Value) :
    (map.erase key).insert key value = map.insert key value := by
  apply Finmap.ext_lookup
  intro other
  by_cases same : other = key
  · subst same; rw [Finmap.lookup_insert, Finmap.lookup_insert]
  · rw [Finmap.lookup_insert_of_ne _ same, Finmap.lookup_insert_of_ne _ same,
      Finmap.lookup_erase_ne same]

/-- A lookup after an insertion. -/
theorem lookup_insert_eq (map : FiniteMap Key Value) (key other : Key) (value : Value) :
    (map.insert key value).lookup other = if other = key then some value else map.lookup other := by
  split
  next same => subst same; rw [Finmap.lookup_insert]
  next different => rw [Finmap.lookup_insert_of_ne _ different]

/-- What is left after an erasure was there before it. -/
theorem lookup_of_erase {map : FiniteMap Key Value} {key other : Key} {value : Value}
    (found : (map.erase key).lookup other = some value) : map.lookup other = some value := by
  by_cases same : other = key
  · subst same; rw [Finmap.lookup_erase] at found; cases found
  · rwa [Finmap.lookup_erase_ne same] at found

theorem sumOver_eq_erase (weight : Value → Weight) {map : FiniteMap Key Value} {key : Key}
    {value : Value} (found : map.lookup key = some value) :
    sumOver weight map = weight value + sumOver weight (map.erase key) := by
  conv_lhs => rw [← insert_erase found]
  exact sumOver_insert_fresh weight Finmap.notMem_erase_self

/-- Replacing the value of a present key exchanges its weight. -/
theorem sumOver_insert_replace (weight : Value → Weight) {map : FiniteMap Key Value} {key : Key}
    {old new : Value} (found : map.lookup key = some old) :
    weight old + sumOver weight (map.insert key new) = weight new + sumOver weight map := by
  rw [← insert_after_erase, sumOver_insert_fresh weight Finmap.notMem_erase_self,
    sumOver_eq_erase weight found, add_left_comm]

/-- A replacement that keeps the weight keeps the sum. -/
theorem sumOver_insert_same (weight : Value → Weight) {map : FiniteMap Key Value} {key : Key}
    {old new : Value} (found : map.lookup key = some old) (same : weight new = weight old) :
    sumOver weight (map.insert key new) = sumOver weight map := by
  rw [← insert_after_erase, sumOver_insert_fresh weight Finmap.notMem_erase_self, same,
    ← sumOver_eq_erase weight found]

end Monoid

section Lookups

variable [DecidableEq Key]

theorem sumOver_nonneg [AddCommMonoid Weight] [PartialOrder Weight] [IsOrderedAddMonoid Weight]
    {weight : Value → Weight} {map : FiniteMap Key Value}
    (nonneg : ∀ key value, map.lookup key = some value → 0 ≤ weight value) :
    0 ≤ sumOver weight map := by
  apply Multiset.sum_nonneg
  intro summand member
  obtain ⟨entry, present, rfl⟩ := Multiset.mem_map.mp member
  exact nonneg entry.1 entry.2 (Finmap.mem_lookup_iff.mpr present)

theorem sumOver_eq_zero [AddCommMonoid Weight] {weight : Value → Weight}
    {map : FiniteMap Key Value}
    (zero : ∀ key value, map.lookup key = some value → weight value = 0) : sumOver weight map = 0 := by
  apply Multiset.sum_eq_zero
  intro summand member
  obtain ⟨entry, present, rfl⟩ := Multiset.mem_map.mp member
  exact zero entry.1 entry.2 (Finmap.mem_lookup_iff.mpr present)

/-- When all other values weigh nothing the sum is the weight of one. -/
theorem sumOver_eq_weight [AddCommMonoid Weight] {weight : Value → Weight}
    {map : FiniteMap Key Value} {key : Key} {value : Value} (found : map.lookup key = some value)
    (others : ∀ other rest, other ≠ key → map.lookup other = some rest → weight rest = 0) :
    sumOver weight map = weight value := by
  rw [sumOver_eq_erase weight found, sumOver_eq_zero, add_zero]
  intro other rest foundRest
  by_cases same : other = key
  · subst same; rw [Finmap.lookup_erase] at foundRest; cases foundRest
  · exact others other rest same (lookup_of_erase foundRest)

theorem sumOver_eq_sum_keys [AddCommMonoid Weight] (weight : Value → Weight)
    (map : FiniteMap Key Value) :
    sumOver weight map = ∑ key ∈ map.keys, ((map.lookup key).map weight).getD 0 := by
  have keyed : (map.entries.map fun entry => weight entry.2) =
      map.entries.map fun entry => ((map.lookup entry.1).map weight).getD 0 := by
    apply Multiset.map_congr rfl
    intro entry member
    rw [Finmap.mem_lookup_iff.mpr member]
    rfl
  rw [sumOver, keyed, Finset.sum]
  change _ = ((map.entries.map Sigma.fst).map _).sum
  rw [Multiset.map_map]
  rfl

/-- Two maps whose lookups agree after a projection have the same sums of what is projected. -/
theorem sumOver_congr [AddCommMonoid Weight] (weight : Shape → Weight)
    {left : FiniteMap Key Value} {right : FiniteMap Key Other} {first : Value → Shape}
    {second : Other → Shape}
    (agree : ∀ key, (left.lookup key).map first = (right.lookup key).map second) :
    sumOver (weight ∘ first) left = sumOver (weight ∘ second) right := by
  have sameKeys : left.keys = right.keys := by
    ext key
    rw [Finmap.mem_keys, Finmap.mem_keys, ← Finmap.lookup_isSome, ← Finmap.lookup_isSome,
      ← Option.isSome_map (f := first), agree, Option.isSome_map]
  rw [sumOver_eq_sum_keys, sumOver_eq_sum_keys, sameKeys]
  apply Finset.sum_congr rfl
  intro key _
  rw [← Option.map_map, agree, Option.map_map]

/-! ## Equality by a comparison of the values -/

/-- As many entries, and every entry of the one equal to what the other has under its key. -/
def eqBy (equal : Value → Value → Bool) (left right : FiniteMap Key Value) : Bool :=
  decide (left.keys.card = right.keys.card) &&
    decide (∀ entry ∈ left.entries, (right.lookup entry.1).any (equal entry.2) = true)

theorem any_lookup_of_eqBy {equal : Value → Value → Bool} {left right : FiniteMap Key Value}
    (same : eqBy equal left right = true) {key : Key} {value : Value}
    (found : left.lookup key = some value) : (right.lookup key).any (equal value) = true := by
  rw [eqBy, Bool.and_eq_true, decide_eq_true_eq, decide_eq_true_eq] at same
  exact same.2 ⟨key, value⟩ (Finmap.mem_lookup_iff.mp found)

/-- Equal maps have the same keys. -/
theorem keys_of_eqBy {equal : Value → Value → Bool} {left right : FiniteMap Key Value}
    (same : eqBy equal left right = true) : left.keys = right.keys := by
  have sameCard := (Bool.and_eq_true_iff.mp same).1
  rw [decide_eq_true_eq] at sameCard
  apply Finset.eq_of_subset_of_card_le _ sameCard.ge
  intro key member
  rw [Finmap.mem_keys, ← Finmap.lookup_isSome, Option.isSome_iff_exists] at member
  obtain ⟨value, found⟩ := member
  have present := any_lookup_of_eqBy same found
  rw [Finmap.mem_keys, ← Finmap.lookup_isSome]
  cases lookedUp : right.lookup key with
  | none => rw [lookedUp] at present; cases present
  | some other => rfl

/-- What equal maps have under a key. -/
theorem lookups_of_eqBy {equal : Value → Value → Bool} {left right : FiniteMap Key Value}
    (same : eqBy equal left right = true) (key : Key) :
    left.lookup key = none ∧ right.lookup key = none ∨
      ∃ value other, left.lookup key = some value ∧ right.lookup key = some other ∧
        equal value other = true := by
  cases found : left.lookup key with
  | none =>
    rw [Finmap.lookup_eq_none, ← Finmap.mem_keys, keys_of_eqBy same, Finmap.mem_keys] at found
    exact .inl ⟨rfl, Finmap.lookup_eq_none.mpr found⟩
  | some value =>
    have present := any_lookup_of_eqBy same found
    rw [Option.any_eq_true] at present
    obtain ⟨other, lookedUp, equal⟩ := present
    exact .inr ⟨value, other, rfl, lookedUp, equal⟩

end Lookups

end PaymentsEngine.Library
