import PaymentsEngine.Domain.AmountText

/-! # Amounts printed

The text of an amount is that of a decimal with four places.  That the parser
reads it back is then what it does to any decimal.
-/

namespace PaymentsEngine.Amount

open Library (Sign Decimal Digits digitsValue)

/-- The decimal that is printed. -/
def displayed (amount : Int) : Decimal where
  sign := if amount < 0 then .minus else .none
  whole := Nat.toDigits 10 (amount.natAbs / 10000)
  fraction := List.leftpad 4 '0' (Nat.toDigits 10 (amount.natAbs % 10000))
  whole_digits := Library.digits_toDigits _
  fraction_digits := Library.digits_append.mpr
    ⟨Library.digits_zeros _, Library.digits_toDigits _⟩

theorem bigIntText_natCast (value : Nat) : bigIntText value = Nat.toDigits 10 value := by
  simp [bigIntText]

theorem display_eq (amount : Int) : display amount = (displayed amount).text := by
  have sign : (amount.sign == -1) = decide (amount < 0) := by
    rw [Bool.eq_iff_iff, beq_iff_eq, decide_eq_true_iff]
    exact Int.sign_eq_neg_one_iff_neg
  have abs : (if decide (amount < 0) = true then -amount else amount) = (amount.natAbs : Int) := by
    split
    · rename_i negative
      have := of_decide_eq_true negative
      omega
    · rename_i positive
      have := of_decide_eq_false (Bool.not_eq_true _ ▸ positive)
      omega
  have div : (amount.natAbs : Int).tdiv scale = (amount.natAbs / 10000 : Nat) := rfl
  have rem : (amount.natAbs : Int).tmod scale = (amount.natAbs % 10000 : Nat) := rfl
  simp only [display, sign, abs, div, rem, bigIntText_natCast, Decimal.text, displayed]
  by_cases negative : amount < 0
  · simp [negative, Sign.text]
  · simp [negative, Sign.text]

theorem length_fraction (amount : Int) : (displayed amount).fraction.length = 4 := by
  have short : (Nat.toDigits 10 (amount.natAbs % 10000)).length ≤ 4 :=
    (Nat.length_toDigits_le_iff (by omega) (by omega)).mpr (Nat.mod_lt _ (by omega))
  simp only [displayed, List.leftpad, List.length_append, List.length_replicate]
  omega

theorem kept_displayed (amount : Int) : (displayed amount).kept 4 = amount.natAbs := by
  have fraction : digitsValue (displayed amount).fraction = amount.natAbs % 10000 := by
    simp [displayed, List.leftpad, Library.digitsValue_zeros_append]
  have whole : digitsValue (displayed amount).whole = amount.natAbs / 10000 := by
    simp [displayed]
  have length := length_fraction amount
  rw [Decimal.kept, length, List.take_of_length_le (by omega), fraction, whole]
  omega

theorem scaled_displayed (amount : Int) : (displayed amount).scaled 4 = amount := by
  rw [Decimal.scaled, kept_displayed]
  simp only [displayed]
  split <;> simp only [Sign.apply] <;> omega

/-- Distinct amounts have distinct texts. -/
theorem display_injective : Function.Injective display := by
  intro left right same
  rw [display_eq, display_eq] at same
  rw [← scaled_displayed left, Decimal.text_injective same, scaled_displayed]

/-- A decimal in the shape of a printed amount, denoting it exactly. -/
structure Prints (amount : Int) (decimal : Decimal) : Prop where
  text : display amount = decimal.text
  sign : decimal.sign = if amount < 0 then .minus else .none
  whole_nonempty : decimal.whole ≠ []
  no_leading_zero : ∀ rest, decimal.whole = '0' :: rest → rest = []
  four_places : decimal.fraction.length = 4
  exactly : decimal.toRat = amount / 10 ^ 4

theorem prints_displayed (amount : Int) : Prints amount (displayed amount) where
  text := display_eq amount
  sign := rfl
  whole_nonempty := Nat.toDigits_ne_nil
  no_leading_zero := by
    intro rest starts
    have zero := Library.head_toDigits starts
    simp only [displayed, zero] at starts
    simpa using starts.symm
  four_places := length_fraction amount
  exactly := by
    rw [Decimal.toRat_eq_scaled _ 4 (length_fraction amount), scaled_displayed]

/-- Printing is exact, tells amounts apart, and is undone by the parser for the
amounts that it can hold. -/
theorem display_exact :
    (∀ amount, ∃ decimal, Prints amount decimal) ∧ Function.Injective display ∧
      ∀ build amount, parse build (display amount) =
        if i64Range.contains amount = true then .ok amount else .err "Invalid amount" := by
  refine ⟨fun amount => ⟨_, prints_displayed amount⟩, display_injective, ?_⟩
  intro build amount
  have parsed := parse_decimal build (displayed amount) ⟨[], by simp⟩ ⟨[], by simp⟩
  rw [scaled_displayed] at parsed
  simpa [display_eq] using parsed

end PaymentsEngine.Amount
