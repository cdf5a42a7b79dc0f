import PaymentsEngine.Domain.IntegerText

/-! # Amounts as texts

The amount parser is read off for the two shapes of its input, with and without a dot,
from what the integer parser does with numerals.
-/

namespace PaymentsEngine

open Library (Sign Numeral Decimal Digits digitsValue digitsValue_append)

/-! ## The amount parser -/

/-- The four decimals that the parser keeps of the text after the dot. -/
def fourDecimals (fraction : Text) : Text := (fraction.take 4 ++ List.replicate 4 '0').take 4

theorem fourDecimals_eq (fraction : Text) :
    fourDecimals fraction = fraction.take 4 ++ List.replicate (4 - fraction.length) '0' := by
  rw [fourDecimals, List.take_append, List.take_take, List.take_replicate, List.length_take]
  congr 2
  omega

namespace Amount

theorem parse_whole (build : Build) {text : Text} (whole : '.' ∉ trim text) :
    parse build text =
      Outcome.ofOption "Invalid amount" (parseInteger i64Range (trim text)) >>= scaleUp build := by
  simp only [parse, if_neg whole]
  cases parseInteger i64Range (trim text) with
  | none => rfl
  | some value => rfl

/-- A text with a dot is cut at the first one. -/
theorem parse_dotted (build : Build) {text whole fraction : Text}
    (cut : trim text = whole ++ '.' :: fraction) (first : '.' ∉ whole) :
    parse build text =
      Outcome.ofOption "Invalid amount" (parseInteger i64Range (whole ++ fourDecimals fraction)) := by
  -- The source splits at the first dot, which is what `takeWhile` and `dropWhile` do.
  have before : ∀ character ∈ whole, decide (character ≠ '.') = true := by
    intro character mem
    have : character ≠ '.' := by
      rintro rfl
      exact first mem
    simp [this]
  have intPart : (whole ++ '.' :: fraction).takeWhile (· ≠ '.') = whole := by
    rw [List.takeWhile_append_of_pos before]
    simp
  have fracPart : (whole ++ '.' :: fraction).dropWhile (· ≠ '.') = '.' :: fraction := by
    rw [List.dropWhile_append_of_pos before]
    simp
  have dot : '.' ∈ trim text := by simp [cut]
  simp only [parse, if_pos dot]
  rw [cut, intPart, fracPart, List.drop_one, List.tail_cons]
  rw [show (fraction.take 4 ++ List.replicate 4 '0').take 4 = fourDecimals fraction from rfl]
  cases parseInteger i64Range (whole ++ fourDecimals fraction) with
  | none => rfl
  | some value => rfl

theorem parse_numeral (build : Build) (numeral : Numeral) :
    parse build numeral.text =
      if i64Range.contains numeral.value = true then scaleUp build numeral.value
      else .err "Invalid amount" := by
  rw [parse_whole build (by rw [trim_numeral]; exact numeral.dot_not_mem), trim_numeral,
    parseInteger_numeral]
  split
  · rfl
  · rfl

/-- The digits that the source glues together denote the truncated number. -/
theorem glued_eq (decimal : Decimal) :
    ∃ numeral : Numeral, numeral.value = decimal.scaled 4 ∧
      numeral.text = decimal.sign.text ++ decimal.whole ++ fourDecimals decimal.fraction := by
  obtain ⟨sign, whole, fraction, wholeDigits, fractionDigits⟩ := decimal
  -- The decimals are four digits, filled up with zeros, so the glued text is a numeral.
  have kept : Digits (fourDecimals fraction) := by
    rw [fourDecimals_eq]
    exact Library.digits_append.mpr
      ⟨Library.digits_take fractionDigits 4, Library.digits_zeros (4 - fraction.length)⟩
  have length : (fourDecimals fraction).length = 4 := by
    simp [fourDecimals]
  have nonempty : whole ++ fourDecimals fraction ≠ [] :=
    List.append_ne_nil_of_right_ne_nil _ (List.ne_nil_of_length_pos (by omega))
  refine ⟨⟨sign, whole ++ fourDecimals fraction, nonempty,
    Library.digits_append.mpr ⟨wholeDigits, kept⟩⟩, ?_, (List.append_assoc _ _ _).symm⟩
  have glued : digitsValue (whole ++ fourDecimals fraction) =
      digitsValue whole * 10 ^ 4 + digitsValue (fraction.take 4) * 10 ^ (4 - fraction.length) := by
    rw [digitsValue_append, length, fourDecimals_eq, Library.digitsValue_append_zeros]
  exact congrArg sign.apply glued

theorem parse_decimal (build : Build) (decimal : Decimal) (before after : Blank) :
    parse build (before ++ decimal.text ++ after) =
      if i64Range.contains (decimal.scaled 4) = true then .ok (decimal.scaled 4)
      else .err "Invalid amount" := by
  obtain ⟨numeral, value, text⟩ := glued_eq decimal
  rw [parse_dotted build (trim_decimal decimal before after) decimal.dot_not_mem, ← text,
    parseInteger_numeral, value]
  split
  · rfl
  · rfl

/-! ## Whole numbers with and without a dot -/

/-- Both texts give the amount when it is in range, and an error otherwise. -/
structure WholeAgrees (build : Build) (numeral : Numeral) : Prop where
  same : parse build numeral.text = parse build (numeral.text ++ ['.', '0'])
  fits : i64Range.contains (numeral.value * scale) = true →
    parse build numeral.text = .ok (numeral.value * scale)
  exceeds : i64Range.contains (numeral.value * scale) = false →
    ∃ error, parse build numeral.text = .err error

/-- The same number with one decimal, a zero. -/
def dotZero (numeral : Numeral) : Decimal :=
  ⟨numeral.sign, numeral.digits, ['0'], numeral.digits_digits, Library.digits_zeros 1⟩

theorem scaled_dotZero (numeral : Numeral) : (dotZero numeral).scaled 4 = numeral.value * scale := by
  have zero : digitsValue ['0'] = 0 := Library.digitsValue_zeros 1
  have kept : (dotZero numeral).kept 4 = digitsValue numeral.digits * 10 ^ 4 := by
    simp [Decimal.kept, dotZero, zero]
  rw [Decimal.scaled, kept, Sign.apply_mul]
  rfl

theorem parse_dotZero (build : Build) (numeral : Numeral) :
    parse build (numeral.text ++ ['.', '0']) =
      if i64Range.contains (numeral.value * scale) = true then .ok (numeral.value * scale)
      else .err "Invalid amount" := by
  have parsed := parse_decimal build (dotZero numeral) ⟨[], by simp⟩ ⟨[], by simp⟩
  rw [scaled_dotZero] at parsed
  rw [← parsed]
  simp [Decimal.text, dotZero, Numeral.text]

theorem scaleUp_of_contains (build : Build) {value : Int}
    (fits : i64Range.contains (value * scale) = true) : scaleUp build value = .ok (value * scale) := by
  simp [scaleUp, fits]

/-- The multiplication has no error of its own: it panics or wraps. -/
theorem scaleUp_ne_err (build : Build) (value : Int) (error : String) :
    scaleUp build value ≠ .err error := by
  unfold scaleUp
  split
  · exact fun impossible => nomatch impossible
  · cases build with
    | debug => exact fun impossible => nomatch impossible
    | release => exact fun impossible => nomatch impossible

/-- What is out of range is so all the more when multiplied. -/
theorem contains_of_scaled {value : Int} (fits : i64Range.contains (value * scale) = true) :
    i64Range.contains value = true := by
  rw [IntegerRange.contains_iff] at fits ⊢
  simp only [i64Range, scale] at fits ⊢
  omega

/-- The branch without a dot multiplies unchecked: it agrees with the other branch
exactly where the product fits, or where the text itself is out of range. -/
theorem whole_agrees_iff (build : Build) (numeral : Numeral) :
    WholeAgrees build numeral ↔
      (i64Range.contains numeral.value = true →
        i64Range.contains (numeral.value * scale) = true) := by
  constructor
  · -- Where the product does not fit, the unchecked multiplication never ends in an error.
    intro agrees within
    by_contra exceeds
    obtain ⟨error, failed⟩ := agrees.exceeds (Bool.not_eq_true _ ▸ exceeds)
    rw [parse_numeral, if_pos within] at failed
    exact scaleUp_ne_err build numeral.value error failed
  · intro condition
    by_cases fits : i64Range.contains (numeral.value * scale) = true
    · have parsed : parse build numeral.text = .ok (numeral.value * scale) := by
        rw [parse_numeral, if_pos (contains_of_scaled fits), scaleUp_of_contains build fits]
      refine ⟨?_, fun _ => parsed, ?_⟩
      · rw [parsed, parse_dotZero, if_pos fits]
      · intro exceeds
        rw [fits] at exceeds
        cases exceeds
    · have failed : parse build numeral.text = .err "Invalid amount" := by
        rw [parse_numeral, if_neg (mt condition fits)]
      refine ⟨?_, fun within => absurd within fits, fun _ => ⟨_, failed⟩⟩
      rw [failed, parse_dotZero, if_neg fits]

/-- One more than the greatest whole number that fits. -/
def overflowing : Numeral :=
  ⟨.none, "922337203685478".toList, by simp, List.all_eq_true.mp (by decide)⟩

theorem overflowing_disagrees :
    parse .debug overflowing.text = .panic ∧
      parse .release overflowing.text = .ok (-9223372036854771616) ∧
      (∀ build, parse build (overflowing.text ++ ['.', '0']) = .err "Invalid amount") ∧
      ∀ build, ¬ WholeAgrees build overflowing := by
  have debug : parse .debug overflowing.text = .panic := by decide +kernel
  have release : parse .release overflowing.text = .ok (-9223372036854771616) := by decide +kernel
  have dotted (build : Build) : parse build (overflowing.text ++ ['.', '0']) = .err "Invalid amount" := by
    cases build <;> decide +kernel
  refine ⟨debug, release, dotted, ?_⟩
  intro build agrees
  have same := agrees.same
  rw [dotted] at same
  cases build with
  | debug => exact nomatch debug.symm.trans same
  | release => exact nomatch release.symm.trans same

/-! ## What is accepted -/

/-- What the gluing hides of a text with a dot: the characters past the fourth
decimal, which are dropped, a sign that comes to stand in front, and the zeros
that are put in when no digit was there. -/
structure NothingHidden (whole fraction : Text) : Prop where
  rest_digits : Digits (fraction.drop 4)
  signless : whole = [] → ∀ sign rest, fraction = Sign.text sign ++ rest → sign = .none
  some_digit : ∃ character ∈ whole ++ fraction, character.isDigit = true

/-- The text that the integer parser sees is a numeral of the `i64` range. -/
def GluesToNumeral (whole fraction : Text) : Prop :=
  ∃ numeral : Numeral, numeral.text = whole ++ fourDecimals fraction ∧
    i64Range.contains numeral.value = true

/-- A decimal hides nothing. -/
theorem nothingHidden_of_isDecimal {whole fraction : Text}
    (decimal : Library.IsDecimal (whole ++ '.' :: fraction)) : NothingHidden whole fraction := by
  obtain ⟨numeral, text⟩ | ⟨decimal, digit, text⟩ := decimal
  · -- A numeral has no dot.
    have dotless := numeral.dot_not_mem
    simp [text] at dotless
  · -- The text is cut at its only dot, so the parts are those of the decimal.
    have dotless : '.' ∉ decimal.fraction := decimal.fraction_digits.not_mem rfl
    obtain ⟨rfl, -, rfl⟩ := (List.append_cons_inj_of_notMem decimal.dot_not_mem dotless).mp text
    refine ⟨?_, ?_, ?_⟩
    · exact Library.digits_drop decimal.fraction_digits 4
    · rintro - sign rest starts
      exact Sign.eq_none_of_digits (starts ▸ decimal.fraction_digits)
    · rcases digit with whole | fraction
      · obtain ⟨character, mem⟩ := List.exists_mem_of_ne_nil _ whole
        exact ⟨character, by simp [mem], decimal.whole_digits character mem⟩
      · obtain ⟨character, mem⟩ := List.exists_mem_of_ne_nil _ fraction
        exact ⟨character, by simp [mem], decimal.fraction_digits character mem⟩

/-- A sign in front of the glued text stands in front of the whole part, unless
the whole part is empty and the decimals bring it. -/
theorem sign_in_whole {whole fraction : Text} (hidden : NothingHidden whole fraction)
    {sign : Sign} {digits : Text} (glued : sign.text ++ digits = whole ++ fourDecimals fraction) :
    ∃ rest, whole = sign.text ++ rest ∧ digits = rest ++ fourDecimals fraction := by
  obtain ⟨rest, cut, left⟩ | ⟨rest, cut, left⟩ := List.append_eq_append_iff.mp glued
  · exact ⟨rest, cut, left⟩
  · cases whole with
    | cons mark others =>
      -- The sign is one character, so nothing of it is left for the decimals.
      have short : sign.text.length ≤ 1 := by cases sign <;> simp [Sign.text]
      rw [cut] at short
      simp only [List.length_append, List.length_cons] at short
      obtain rfl : rest = [] := List.eq_nil_of_length_eq_zero (by omega)
      exact ⟨[], by rw [cut]; simp, by simpa using left.symm⟩
    | nil =>
      rw [List.nil_append] at cut
      subst cut
      have unsigned : sign = .none := by
        cases fraction with
        | nil =>
          have zeros : fourDecimals [] = List.replicate 4 '0' := rfl
          exact Sign.eq_none_of_digits (left ▸ zeros ▸ Library.digits_zeros 4)
        | cons first others =>
          cases sign with
          | none => rfl
          | plus =>
            obtain ⟨rfl, -⟩ := List.cons.inj left
            exact hidden.signless rfl .plus others rfl
          | minus =>
            obtain ⟨rfl, -⟩ := List.cons.inj left
            exact hidden.signless rfl .minus others rfl
      subst unsigned
      exact ⟨[], rfl, left.symm⟩

/-- Where nothing is hidden, a glued numeral was a decimal. -/
theorem isDecimal_of_nothingHidden {whole fraction : Text} (hidden : NothingHidden whole fraction)
    {numeral : Numeral} (glued : numeral.text = whole ++ fourDecimals fraction) :
    Library.IsDecimal (whole ++ '.' :: fraction) := by
  obtain ⟨rest, rfl, digits⟩ := sign_in_whole hidden glued
  have all := numeral.digits_digits
  rw [digits, fourDecimals_eq, Library.digits_append, Library.digits_append] at all
  -- The gluing keeps the first four decimals only; the rest are digits by assumption.
  have fractionDigits : Digits fraction := by
    rw [← List.take_append_drop 4 fraction]
    exact Library.digits_append.mpr ⟨all.2.1, hidden.rest_digits⟩
  refine .inr ⟨⟨numeral.sign, rest, fraction, all.1, fractionDigits⟩, ?_, rfl⟩
  obtain ⟨character, mem, digit⟩ := hidden.some_digit
  simp only [List.mem_append] at mem
  obtain (sign | whole) | fraction := mem
  · rcases Sign.mem_text sign with rfl | rfl
    · simp at digit
    · simp at digit
  · exact .inl (List.ne_nil_of_mem whole)
  · exact .inr (List.ne_nil_of_mem fraction)

/-- Text that is accepted is a decimal, except where the gluing hides that it is not. -/
theorem accepts_decimal_iff (build : Build) (text : Text) :
    ((∃ amount, parse build text = .ok amount) → Library.IsDecimal (trim text)) ↔
      ∀ whole fraction, trim text = whole ++ '.' :: fraction → '.' ∉ whole →
        GluesToNumeral whole fraction → NothingHidden whole fraction := by
  constructor
  · rintro accepts whole fraction cut first ⟨numeral, glued, within⟩
    have reads := parseInteger_i64.mpr ⟨numeral, glued, rfl, within⟩
    have decimal := accepts ⟨numeral.value, by rw [parse_dotted build cut first, reads]; rfl⟩
    exact nothingHidden_of_isDecimal (cut ▸ decimal)
  · -- Without a dot the integer parser reads the text itself, and nothing is hidden.
    rintro condition ⟨amount, accepted⟩
    by_cases dot : '.' ∈ trim text
    · obtain ⟨whole, fraction, cut, first⟩ := List.eq_append_cons_of_mem dot
      rw [parse_dotted build cut first, Outcome.ofOption_eq_ok, parseInteger_i64] at accepted
      obtain ⟨numeral, glued, rfl, within⟩ := accepted
      have hidden := condition whole fraction cut first ⟨numeral, glued, within⟩
      exact cut ▸ isDecimal_of_nothingHidden hidden glued
    · rw [parse_whole build dot, Outcome.bind_eq_ok] at accepted
      obtain ⟨value, reads, -⟩ := accepted
      obtain ⟨numeral, text, -⟩ := parseInteger_i64.mp (Outcome.ofOption_eq_ok.mp reads)
      exact .inl ⟨numeral, text⟩

theorem garbage_accepted :
    parse .debug "1.2345abc".toList = .ok 12345 ∧ parse .release "1.2345abc".toList = .ok 12345 ∧
      ¬ Library.IsDecimal (trim "1.2345abc".toList) := by
  refine ⟨by decide +kernel, by decide +kernel, ?_⟩
  intro decimal
  have cut : trim "1.2345abc".toList = ['1'] ++ '.' :: "2345abc".toList := by decide +kernel
  have rest := (nothingHidden_of_isDecimal (cut ▸ decimal)).rest_digits
  exact absurd (List.all_eq_true.mpr rest) (by decide)

/-! ## Truncation -/

/-- A text with a dot is read exactly, cut after the fourth decimal: rounding
towards zero for both signs, which stand in the text only. -/
theorem parse_truncates (build : Build) (decimal : Decimal) (before after : Blank) :
    parse build (before ++ decimal.text ++ after) =
        (if i64Range.contains (decimal.scaled 4) = true then .ok (decimal.scaled 4)
        else .err "Invalid amount") ∧
      decimal.scaled 4 = decimal.sign.apply ⌊decimal.magnitude * 10 ^ 4⌋₊ := by
  constructor
  · exact parse_decimal build decimal before after
  · exact congrArg decimal.sign.apply (decimal.kept_eq_floor 4)

end Amount

end PaymentsEngine
