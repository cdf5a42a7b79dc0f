import PaymentsEngine.Library.Decimal
import PaymentsEngine.Domain.Amount

/-! # Integers as texts

A signed integer type reads exactly the numerals in its range.  And trimming leaves a
text that has no whitespace as it is.
-/

namespace PaymentsEngine

open Library (Sign Numeral Decimal Digits digitsValue digitsValue_append)

/-! ## The integer parser -/

theorem digitValue_eq_some {character : Char} {digit : Int} :
    digitValue character = some digit ↔
      character.isDigit = true ∧ digit = (digitsValue [character] : Int) := by
  have one : digitsValue [character] = character.toNat - '0'.toNat := by
    simp [digitsValue, Nat.ofDigitChars_cons]
  have digits : '0' ≤ character ∧ character ≤ '9' ↔ character.isDigit = true :=
    Char.isDigit_iff_toNat.symm
  rw [digitValue, one]
  split
  · rename_i within
    have least := (Char.isDigit_iff_toNat.mp (digits.mp within)).1
    simp only [Option.some.injEq, digits.mp within, true_and, Nat.cast_sub least]
    exact eq_comm
  · rename_i outside
    simp [mt digits.mpr outside]

theorem digitValue_of_digit {character : Char} (digit : character.isDigit = true) :
    digitValue character = some (digitsValue [character] : Int) :=
  digitValue_eq_some.mpr ⟨digit, rfl⟩

theorem IntegerRange.contains_iff (range : IntegerRange) (value : Int) :
    range.contains value = true ↔ range.min ≤ value ∧ value ≤ range.max := by
  simp [contains]

/-- A range around zero contains what lies between zero and one of its members. -/
theorem IntegerRange.contains_of_le {range : IntegerRange} (zero : range.contains 0 = true)
    (sign : Sign) {less more : Nat} (le : less ≤ more)
    (within : range.contains (sign.factor * more) = true) :
    range.contains (sign.factor * less) = true := by
  rw [IntegerRange.contains_iff] at zero within ⊢
  cases sign <;> simp only [Sign.factor] at within ⊢ <;> omega

/-- One digit: the two checks of the source come down to the second. -/
theorem parseDigits_cons {range : IntegerRange} (zero : range.contains 0 = true) (sign : Sign)
    {character : Char} (digit : character.isDigit = true) (rest read : Text) :
    parseDigits range sign.factor (character :: rest) (sign.factor * digitsValue read) =
      if range.contains (sign.factor * digitsValue (read ++ [character])) = true then
        parseDigits range sign.factor rest (sign.factor * digitsValue (read ++ [character]))
      else none := by
  have longer : digitsValue (read ++ [character]) =
      digitsValue read * 10 + digitsValue [character] := by
    simp [digitsValue_append]
  have tens : sign.factor * (digitsValue read : Int) * 10 =
      sign.factor * (digitsValue read * 10 : Nat) := by
    push_cast
    rw [Int.mul_assoc]
  have next : sign.factor * (digitsValue read : Int) * 10 + sign.factor * digitsValue [character] =
      sign.factor * digitsValue (read ++ [character]) := by
    rw [longer]
    push_cast
    rw [Int.mul_add, Int.mul_assoc]
  simp only [parseDigits, digitValue_of_digit digit, next]
  -- The product is nearer to zero than the sum, so it fits when the sum does.
  by_cases fits : range.contains (sign.factor * digitsValue (read ++ [character])) = true
  · have smaller : range.contains (sign.factor * (digitsValue read : Int) * 10) = true := by
      rw [tens]
      exact IntegerRange.contains_of_le zero sign (by omega) fits
    simp [fits, smaller]
  · simp [fits]

/-- The accumulator holds the value of the digits read so far, and since it only
grows, the checks on the way are those of the last value. -/
theorem parseDigits_eq_some {range : IntegerRange} (zero : range.contains 0 = true) (sign : Sign)
    (text : Text) (value : Int) (read : Text)
    (within : range.contains (sign.factor * digitsValue read) = true) :
    parseDigits range sign.factor text (sign.factor * digitsValue read) = some value ↔
      Digits text ∧ range.contains value = true ∧
        value = sign.factor * digitsValue (read ++ text) := by
  -- Induction on what is still to be read, for every text that was read before.
  induction text generalizing read with
  | nil =>
    simp only [parseDigits, Option.some.injEq, List.append_nil]
    constructor
    · rintro rfl
      exact ⟨Library.digits_nil, within, rfl⟩
    · rintro ⟨-, -, rfl⟩
      rfl
  | cons character rest ih =>
    have split : read ++ character :: rest = (read ++ [character]) ++ rest := by simp
    by_cases digit : character.isDigit = true
    · rw [parseDigits_cons zero sign digit, split]
      by_cases fits : range.contains (sign.factor * digitsValue (read ++ [character])) = true
      · rw [if_pos fits, ih _ fits, Library.digits_cons, and_iff_right digit]
      · rw [if_neg fits]
        constructor
        · intro impossible
          cases impossible
        · rintro ⟨-, final, rfl⟩
          have total : digitsValue (read ++ [character] ++ rest) =
              digitsValue (read ++ [character]) * 10 ^ rest.length + digitsValue rest :=
            digitsValue_append
          -- A prefix out of range is not brought back by more digits.
          have grows : digitsValue (read ++ [character]) ≤
              digitsValue (read ++ [character] ++ rest) := by
            rw [total]
            exact Nat.le_add_right_of_le (Nat.le_mul_of_pos_right _ (Nat.pow_pos (by omega)))
          exact absurd (IntegerRange.contains_of_le zero sign grows final) fits
    · have unread : digitValue character = none := by
        rw [Option.eq_none_iff_forall_ne_some]
        intro found reads
        exact digit (digitValue_eq_some.mp reads).1
      simp [parseDigits, unread, digit]

/-- From zero on, the digits after a sign are read as what they denote. -/
theorem parseDigits_zero {range : IntegerRange} (zero : range.contains 0 = true) (sign : Sign)
    {digits : Text} {value : Int} :
    parseDigits range sign.factor digits 0 = some value ↔
      Digits digits ∧ range.contains value = true ∧ value = sign.apply (digitsValue digits) := by
  have start := parseDigits_eq_some zero sign digits value [] (by simpa using zero)
  simpa [Sign.apply_eq] using start

theorem parseInteger_plus (range : IntegerRange) {digits : Text} (nonempty : digits ≠ []) :
    parseInteger range ('+' :: digits) = parseDigits range 1 digits 0 := by
  cases digits with
  | nil => exact absurd rfl nonempty
  | cons first rest => rfl

theorem parseInteger_minus {range : IntegerRange} (signed : range.min < 0) {digits : Text}
    (nonempty : digits ≠ []) :
    parseInteger range ('-' :: digits) = parseDigits range (-1) digits 0 := by
  cases digits with
  | nil => exact absurd rfl nonempty
  | cons first rest => exact if_pos signed

theorem parseInteger_digit (range : IntegerRange) {first : Char} (digit : first.isDigit = true)
    (rest : Text) :
    parseInteger range (first :: rest) = parseDigits range 1 (first :: rest) 0 := by
  have plus : first ≠ '+' := by
    rintro rfl
    simp at digit
  have minus : first ≠ '-' := by
    rintro rfl
    simp at digit
  unfold parseInteger
  split <;> simp_all

theorem parseInteger_text {range : IntegerRange} (signed : range.min < 0) (numeral : Numeral) :
    parseInteger range numeral.text = parseDigits range numeral.sign.factor numeral.digits 0 := by
  obtain ⟨sign, digits, nonempty, all⟩ := numeral
  cases sign with
  | none =>
    obtain ⟨first, rest, rfl⟩ := List.exists_cons_of_ne_nil nonempty
    exact parseInteger_digit range (Library.digits_cons.mp all).1 rest
  | plus => exact parseInteger_plus range nonempty
  | minus => exact parseInteger_minus signed nonempty

/-- `i64` reads the numerals in its range and nothing else. -/
theorem parseInteger_i64 {text : Text} {value : Int} :
    parseInteger i64Range text = some value ↔
      ∃ numeral : Numeral, numeral.text = text ∧ numeral.value = value ∧
        i64Range.contains value = true := by
  have zero : i64Range.contains 0 = true := rfl
  constructor
  · intro reads
    unfold parseInteger at reads
    split at reads
    · cases reads
    · cases reads
    · cases reads
    · rename_i digits single
      obtain ⟨all, within, rfl⟩ := (parseDigits_zero zero .plus).mp reads
      refine ⟨⟨.plus, digits, ?_, all⟩, rfl, rfl, within⟩
      rintro rfl
      exact single rfl
    · rename_i digits single
      obtain ⟨all, within, rfl⟩ := (parseDigits_zero zero .minus).mp reads
      refine ⟨⟨.minus, digits, ?_, all⟩, rfl, rfl, within⟩
      rintro rfl
      exact single rfl
    · rename_i empty _ _ _ _
      obtain ⟨all, within, rfl⟩ := (parseDigits_zero zero .none).mp reads
      exact ⟨⟨.none, text, empty, all⟩, rfl, rfl, within⟩
  · rintro ⟨numeral, rfl, rfl, within⟩
    rw [parseInteger_text (by decide)]
    exact (parseDigits_zero zero numeral.sign).mpr ⟨numeral.digits_digits, within, rfl⟩

theorem parseInteger_numeral (numeral : Numeral) :
    parseInteger i64Range numeral.text =
      if i64Range.contains numeral.value = true then some numeral.value else none := by
  by_cases within : i64Range.contains numeral.value = true
  · rw [if_pos within]
    exact parseInteger_i64.mpr ⟨numeral, rfl, rfl, within⟩
  · rw [if_neg within, Option.eq_none_iff_forall_ne_some, parseInteger_text (by decide)]
    intro value reads
    obtain ⟨-, fits, rfl⟩ := (parseDigits_zero rfl numeral.sign).mp reads
    exact within fits

/-! ## Trimming -/

/-- Text that trimming removes. -/
abbrev Blank := { text : Text // ∀ character ∈ text, isWhitespace character = true }

theorem dropWhile_blank {before text : Text} (rest : Text)
    (blank : ∀ character ∈ before, isWhitespace character = true)
    (solid : ∀ character ∈ text, isWhitespace character = false) (nonempty : text ≠ []) :
    (before ++ (text ++ rest)).dropWhile isWhitespace = text ++ rest := by
  obtain ⟨first, others, rfl⟩ := List.exists_cons_of_ne_nil nonempty
  rw [List.dropWhile_append_of_pos blank]
  exact List.dropWhile_cons_of_neg (by simp [solid first])

theorem trim_eq {text : Text} (solid : ∀ character ∈ text, isWhitespace character = false)
    (nonempty : text ≠ []) (before after : Blank) : trim (before ++ text ++ after) = text := by
  have left := dropWhile_blank after before.property solid nonempty
  have right : (after.val.reverse ++ (text.reverse ++ [])).dropWhile isWhitespace =
      text.reverse ++ [] :=
    dropWhile_blank [] (fun character mem => after.property character (List.mem_reverse.mp mem))
      (fun character mem => solid character (List.mem_reverse.mp mem)) (by simpa using nonempty)
  rw [List.append_nil] at right
  rw [trim, List.append_assoc, left, List.reverse_append, right, List.reverse_reverse]

theorem isWhitespace_digit {character : Char} (digit : character.isDigit = true) :
    isWhitespace character = false := by
  have bounds := Char.isDigit_iff_toNat.mp digit
  have zero : '0'.toNat = 48 := rfl
  have nine : '9'.toNat = 57 := rfl
  simp only [isWhitespace, Bool.or_eq_false_iff, Bool.and_eq_false_iff, decide_eq_false_iff_not,
    beq_eq_false_iff_ne]
  omega

theorem trim_numeral (numeral : Numeral) : trim numeral.text = numeral.text := by
  have solid : ∀ character ∈ numeral.text, isWhitespace character = false := by
    intro character mem
    rcases Numeral.mem_text mem with rfl | rfl | digit
    · rfl
    · rfl
    · exact isWhitespace_digit digit
  simpa using trim_eq solid numeral.text_ne_nil ⟨[], by simp⟩ ⟨[], by simp⟩

theorem trim_decimal (decimal : Decimal) (before after : Blank) :
    trim (before ++ decimal.text ++ after) = decimal.text := by
  refine trim_eq ?_ ?_ before after
  · intro character mem
    rcases Decimal.mem_text mem with rfl | rfl | rfl | digit
    · rfl
    · rfl
    · rfl
    · exact isWhitespace_digit digit
  · simp [Decimal.text]

end PaymentsEngine
