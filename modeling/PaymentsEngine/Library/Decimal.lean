import Mathlib.Data.Rat.Floor

/-! # Decimal numerals

Texts of decimal digits and what they denote.  A `Numeral` is an optional sign
with digits, a `Decimal` has a dot among its digits; each structure carries the
proof that its parts are digits, so their texts are well formed by construction.
-/

namespace PaymentsEngine.Library

abbrev Digits (text : List Char) : Prop := ∀ character ∈ text, character.isDigit = true

/-- The number that a text of digits denotes. -/
def digitsValue (digits : List Char) : Nat := Nat.ofDigitChars 10 digits 0

section Digits

variable {left right : List Char}

theorem digits_nil : Digits [] := List.forall_mem_nil _

@[simp] theorem digits_cons {character : Char} :
    Digits (character :: right) ↔ character.isDigit = true ∧ Digits right :=
  List.forall_mem_cons

theorem digits_append : Digits (left ++ right) ↔ Digits left ∧ Digits right :=
  List.forall_mem_append

theorem digits_zeros (count : Nat) : Digits (List.replicate count '0') := by
  intro character mem
  rw [List.eq_of_mem_replicate mem]
  rfl

theorem digits_take (digits : Digits left) (count : Nat) : Digits (left.take count) :=
  fun character mem => digits character (List.mem_of_mem_take mem)

theorem digits_drop (digits : Digits left) (count : Nat) : Digits (left.drop count) :=
  fun character mem => digits character (List.mem_of_mem_drop mem)

theorem digits_toDigits (number : Nat) : Digits (Nat.toDigits 10 number) :=
  fun _ mem => Nat.isDigit_of_mem_toDigits (by omega) (by omega) mem

/-- A character that is not a digit does not occur among digits. -/
theorem Digits.not_mem (digits : Digits left) {character : Char}
    (other : character.isDigit = false) : character ∉ left := by
  intro mem
  simp [digits character mem] at other

@[simp] theorem digitsValue_nil : digitsValue [] = 0 := by
  simp [digitsValue]

theorem digitsValue_append :
    digitsValue (left ++ right) = digitsValue left * 10 ^ right.length + digitsValue right := by
  rw [digitsValue, Nat.ofDigitChars_append, Nat.ofDigitChars_eq_ofDigitChars_zero,
    Nat.mul_comm]
  rfl

theorem digitsValue_zeros (count : Nat) : digitsValue (List.replicate count '0') = 0 := by
  simp [digitsValue]

theorem digitsValue_append_zeros (count : Nat) :
    digitsValue (left ++ List.replicate count '0') = digitsValue left * 10 ^ count := by
  simp [digitsValue_append, digitsValue_zeros]

theorem digitsValue_zeros_append (count : Nat) :
    digitsValue (List.replicate count '0' ++ left) = digitsValue left := by
  simp [digitsValue_append, digitsValue_zeros]

@[simp] theorem digitsValue_toDigits (number : Nat) :
    digitsValue (Nat.toDigits 10 number) = number :=
  Nat.ofDigitChars_ten_toDigits

theorem digitsValue_lt (digits : Digits left) : digitsValue left < 10 ^ left.length := by
  induction left with
  | nil => simp
  | cons character rest ih =>
    have smaller := ih (digits_cons.mp digits).2
    have digit := Char.isDigit_iff_toNat.mp (digits_cons.mp digits).1
    have split : digitsValue ([character] ++ rest) =
        digitsValue [character] * 10 ^ rest.length + digitsValue rest := digitsValue_append
    have one : digitsValue [character] = character.toNat - '0'.toNat := by
      simp [digitsValue, Nat.ofDigitChars_cons]
    have nine : character.toNat - '0'.toNat ≤ 9 := by
      have zero : '0'.toNat = 48 := rfl
      have last : '9'.toNat = 57 := rfl
      omega
    have bound := Nat.mul_le_mul_right (10 ^ rest.length) nine
    rw [List.singleton_append, one] at split
    rw [split, List.length_cons, Nat.pow_succ]
    omega

/-- Only the digits of zero start with a zero. -/
theorem head_toDigits {number : Nat} {rest : List Char}
    (starts : Nat.toDigits 10 number = '0' :: rest) : number = 0 := by
  induction number using Nat.strongRecOn generalizing rest with
  | ind number ih =>
    rw [Nat.toDigits_eq_if (by omega)] at starts
    split at starts
    · obtain ⟨zero, -⟩ := List.cons.inj starts
      exact Nat.digitChar_eq_zero.mp zero
    · -- The leading digit of a longer numeral is that of its tenth part.
      obtain ⟨first, others, tenth⟩ := List.exists_cons_of_ne_nil
        (Nat.toDigits_ne_nil (n := number / 10) (b := 10))
      rw [tenth, List.cons_append] at starts
      obtain ⟨rfl, -⟩ := List.cons.inj starts
      have := ih (number / 10) (by omega) tenth
      omega

end Digits

/-! ## Signs -/

inductive Sign where
  | none
  | plus
  | minus
  deriving DecidableEq, Repr

namespace Sign

def text : Sign → List Char
  | .none => []
  | .plus => ['+']
  | .minus => ['-']

def apply : Sign → Nat → Int
  | .none, magnitude => magnitude
  | .plus, magnitude => magnitude
  | .minus, magnitude => -magnitude

/-- The factor that the sign stands for. -/
def factor : Sign → Int
  | .none => 1
  | .plus => 1
  | .minus => -1

theorem apply_eq (sign : Sign) (magnitude : Nat) : sign.apply magnitude = sign.factor * magnitude := by
  cases sign <;> simp [apply, factor]

theorem apply_mul (sign : Sign) (magnitude factor : Nat) :
    sign.apply (magnitude * factor) = sign.apply magnitude * factor := by
  rw [apply_eq, apply_eq, Int.natCast_mul, Int.mul_assoc]

/-- Digits do not start with a sign. -/
theorem eq_none_of_digits {sign : Sign} {rest : List Char} (digits : Digits (sign.text ++ rest)) :
    sign = .none := by
  cases sign with
  | none => rfl
  | plus => simp [text] at digits
  | minus => simp [text] at digits

/-- Text of a sign and digits is read in one way. -/
theorem text_append_inj {left right : Sign} {digits others : List Char} (all : Digits digits)
    (others_all : Digits others) (same : left.text ++ digits = right.text ++ others) :
    left = right ∧ digits = others := by
  have leftNone : right = .none → left = .none := by
    rintro rfl
    exact eq_none_of_digits (same.trans (List.nil_append _) ▸ others_all)
  have rightNone : left = .none → right = .none := by
    rintro rfl
    exact eq_none_of_digits (same.symm.trans (List.nil_append _) ▸ all)
  have signs : left = right := by
    cases left <;> cases right <;> simp_all [text]
  subst signs
  exact ⟨rfl, List.append_cancel_left same⟩

theorem mem_text {sign : Sign} {mark : Char} (mem : mark ∈ sign.text) : mark = '+' ∨ mark = '-' := by
  cases sign <;> simp_all [text]

end Sign

/-! ## Numerals -/

/-- An optional sign and at least one digit. -/
structure Numeral where
  sign : Sign
  digits : List Char
  nonempty : digits ≠ []
  digits_digits : Digits digits

namespace Numeral

def text (numeral : Numeral) : List Char := numeral.sign.text ++ numeral.digits

def value (numeral : Numeral) : Int := numeral.sign.apply (digitsValue numeral.digits)

theorem mem_text {numeral : Numeral} {character : Char} (mem : character ∈ numeral.text) :
    character = '+' ∨ character = '-' ∨ character.isDigit = true := by
  rcases List.mem_append.mp mem with sign | digit
  · exact (Sign.mem_text sign).imp_right .inl
  · exact .inr (.inr (numeral.digits_digits _ digit))

theorem text_ne_nil (numeral : Numeral) : numeral.text ≠ [] :=
  List.append_ne_nil_of_right_ne_nil _ numeral.nonempty

theorem dot_not_mem (numeral : Numeral) : '.' ∉ numeral.text := by
  intro mem
  simpa using mem_text mem

end Numeral

/-! ## Decimals -/

/-- An optional sign and digits with a dot among them. -/
structure Decimal where
  sign : Sign
  whole : List Char
  fraction : List Char
  whole_digits : Digits whole
  fraction_digits : Digits fraction

namespace Decimal

variable (decimal : Decimal)

def text : List Char := decimal.sign.text ++ decimal.whole ++ '.' :: decimal.fraction

theorem mem_text {decimal : Decimal} {character : Char} (mem : character ∈ decimal.text) :
    character = '+' ∨ character = '-' ∨ character = '.' ∨ character.isDigit = true := by
  simp only [text, List.mem_append, List.mem_cons] at mem
  obtain (sign | whole) | rfl | fraction := mem
  · exact (Sign.mem_text sign).imp_right .inl
  · exact .inr (.inr (.inr (decimal.whole_digits _ whole)))
  · exact .inr (.inr (.inl rfl))
  · exact .inr (.inr (.inr (decimal.fraction_digits _ fraction)))

/-- The dot is the first: neither a sign nor a digit is one. -/
theorem dot_not_mem : '.' ∉ decimal.sign.text ++ decimal.whole := by
  intro mem
  rcases List.mem_append.mp mem with sign | whole
  · simpa using Sign.mem_text sign
  · simpa using decimal.whole_digits _ whole

/-- A decimal is read in one way. -/
theorem text_injective {left right : Decimal} (same : left.text = right.text) : left = right := by
  have dotless : '.' ∉ left.fraction := left.fraction_digits.not_mem rfl
  obtain ⟨before, -, after⟩ := (List.append_cons_inj_of_notMem left.dot_not_mem dotless).mp same
  obtain ⟨sign, whole⟩ := Sign.text_append_inj left.whole_digits right.whole_digits before
  cases left
  cases right
  simp_all

/-- The number without its sign. -/
def magnitude : ℚ :=
  digitsValue decimal.whole + digitsValue decimal.fraction / 10 ^ decimal.fraction.length

/-- The number that the decimal denotes. -/
def toRat : ℚ := decimal.sign.factor * decimal.magnitude

/-- The digits up to `places` places after the dot, as one number. -/
def kept (places : Nat) : Nat :=
  digitsValue decimal.whole * 10 ^ places +
    digitsValue (decimal.fraction.take places) * 10 ^ (places - decimal.fraction.length)

/-- The number in units of the last of `places` places, further digits cut off. -/
def scaled (places : Nat) : Int := decimal.sign.apply (decimal.kept places)

/-- The digits that are cut off make less than one unit of the last place. -/
theorem floor_fraction (places : Nat) :
    ⌊(digitsValue decimal.fraction / 10 ^ decimal.fraction.length : ℚ) * 10 ^ places⌋₊ =
      digitsValue (decimal.fraction.take places) * 10 ^ (places - decimal.fraction.length) := by
  have ten : (10 : ℚ) ≠ 0 := by norm_num
  by_cases short : decimal.fraction.length ≤ places
  · obtain ⟨more, rfl⟩ := Nat.exists_eq_add_of_le short
    rw [List.take_of_length_le short, Nat.add_sub_cancel_left, pow_add, ← mul_assoc,
      div_mul_cancel₀ _ (pow_ne_zero _ ten)]
    exact_mod_cast Nat.floor_natCast (digitsValue decimal.fraction * 10 ^ more)
  · obtain ⟨more, length⟩ := Nat.exists_eq_add_of_le (Nat.le_of_not_le short)
    have dropped : (decimal.fraction.drop places).length = more := by
      simp only [List.length_drop]
      omega
    have cut : digitsValue decimal.fraction =
        digitsValue (decimal.fraction.take places) * 10 ^ more +
          digitsValue (decimal.fraction.drop places) := by
      rw [← dropped, ← digitsValue_append, List.take_append_drop]
    have less : digitsValue (decimal.fraction.drop places) < 10 ^ more :=
      dropped ▸ digitsValue_lt (digits_drop decimal.fraction_digits places)
    rw [show places - decimal.fraction.length = 0 by omega, Nat.pow_zero, Nat.mul_one, cut, length,
      pow_add, div_mul_eq_mul_div, mul_comm ((10 : ℚ) ^ places), mul_div_mul_right _ _ (pow_ne_zero _ ten)]
    have floor := Rat.natFloor_natCast_div_natCast
      (digitsValue (decimal.fraction.take places) * 10 ^ more +
        digitsValue (decimal.fraction.drop places)) (10 ^ more)
    push_cast at floor ⊢
    rw [floor, Nat.mul_comm, Nat.mul_add_div (Nat.pow_pos (by omega)), Nat.div_eq_of_lt less,
      Nat.add_zero]

/-- Cutting off digits rounds the magnitude down, whatever the sign. -/
theorem kept_eq_floor (places : Nat) : decimal.kept places = ⌊decimal.magnitude * 10 ^ places⌋₊ := by
  have whole : (digitsValue decimal.whole : ℚ) * 10 ^ places =
      (digitsValue decimal.whole * 10 ^ places : Nat) := by push_cast; rfl
  rw [magnitude, add_mul, whole, add_comm, Nat.floor_add_natCast (by positivity),
    floor_fraction, Nat.add_comm]
  rfl

/-- A decimal with that many places is denoted exactly. -/
theorem kept_eq_magnitude (places : Nat) (exactly : decimal.fraction.length = places) :
    (decimal.kept places : ℚ) = decimal.magnitude * 10 ^ places := by
  subst exactly
  have ten : (10 : ℚ) ^ decimal.fraction.length ≠ 0 := by positivity
  rw [kept, magnitude, List.take_length, Nat.sub_self, add_mul, div_mul_cancel₀ _ ten]
  push_cast
  ring

/-- So its scaled number is the number itself. -/
theorem toRat_eq_scaled (places : Nat) (exactly : decimal.fraction.length = places) :
    decimal.toRat = decimal.scaled places / 10 ^ places := by
  have ten : (10 : ℚ) ^ places ≠ 0 := by positivity
  rw [toRat, scaled, Sign.apply_eq, eq_div_iff ten, mul_assoc, ← decimal.kept_eq_magnitude places exactly]
  push_cast
  rfl

end Decimal

/-- An optional sign, digits with at most one dot among them, at least one digit. -/
def IsDecimal (text : List Char) : Prop :=
  (∃ numeral : Numeral, numeral.text = text) ∨
    ∃ decimal : Decimal, (decimal.whole ≠ [] ∨ decimal.fraction ≠ []) ∧ decimal.text = text

end PaymentsEngine.Library
