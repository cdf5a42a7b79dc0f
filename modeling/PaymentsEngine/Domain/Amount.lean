import Mathlib.Algebra.Group.Int.Defs
import Mathlib.Algebra.Group.Nat.Defs
import Mathlib.Data.Int.Basic

/-! # Amounts and the integer parsers

An amount is the unbounded integer that the source wraps: the value times 10^4.
Texts are lists of characters, and the integer parsers are those of the standard
library: a sign, then digits accumulated with a range check after every
multiplication and addition.
-/

namespace PaymentsEngine

abbrev Text := List Char

/-- Integer arithmetic that overflows panics in debug builds and wraps in release builds. -/
inductive Build where
  | debug
  | release
  deriving DecidableEq, Repr

/-- How a call ends: with a value, with an error (its text), or by panicking. -/
inductive Outcome (Value : Type) where
  | ok (value : Value)
  | err (error : String)
  | panic
  deriving DecidableEq, Repr

namespace Outcome

variable {Value Next : Type}

/-- Go on with the value; an error or a panic ends the caller as well. -/
def bind (outcome : Outcome Value) (next : Value → Outcome Next) : Outcome Next :=
  match outcome with
  | .ok value => next value
  | .err error => .err error
  | .panic => .panic

instance : Monad Outcome where
  pure := .ok
  bind := bind

/-- A missing value is the error. -/
def ofOption (error : String) : Option Value → Outcome Value
  | some value => .ok value
  | none => .err error

theorem bind_eq_ok {outcome : Outcome Value} {next : Value → Outcome Next} {value : Next} :
    outcome >>= next = .ok value ↔ ∃ first, outcome = .ok first ∧ next first = .ok value := by
  cases outcome with
  | ok first => simp [Bind.bind, bind]
  | err error => simp [Bind.bind, bind]
  | panic => simp [Bind.bind, bind]

theorem ofOption_eq_ok {error : String} {option : Option Value} {value : Value} :
    ofOption error option = .ok value ↔ option = some value := by
  cases option <;> simp [ofOption]

end Outcome

/-- Characters with the Unicode property `White_Space`. -/
def isWhitespace (character : Char) : Bool :=
  let code := character.toNat
  (0x9 ≤ code && code ≤ 0xD) || code == 0x20 || code == 0x85 || code == 0xA0 || code == 0x1680 ||
    (0x2000 ≤ code && code ≤ 0x200A) || code == 0x2028 || code == 0x2029 || code == 0x202F ||
    code == 0x205F || code == 0x3000

def trim (text : Text) : Text :=
  ((text.dropWhile isWhitespace).reverse.dropWhile isWhitespace).reverse

/-! ## `str::parse` for the integer types -/

/-- The value of a decimal digit. -/
def digitValue (character : Char) : Option Int :=
  if '0' ≤ character ∧ character ≤ '9' then some (character.toNat - '0'.toNat : Int) else none

/-- The range of an integer type. -/
structure IntegerRange where
  min : Int
  max : Int
  deriving DecidableEq, Repr

def IntegerRange.contains (range : IntegerRange) (value : Int) : Bool :=
  range.min ≤ value && value ≤ range.max

def i64Range : IntegerRange := ⟨-2 ^ 63, 2 ^ 63 - 1⟩
def u16Range : IntegerRange := ⟨0, 2 ^ 16 - 1⟩
def u32Range : IntegerRange := ⟨0, 2 ^ 32 - 1⟩

/-- Accumulate digits, adding them for `sign = 1` and subtracting them for `sign = -1`. -/
def parseDigits (range : IntegerRange) (sign : Int) : Text → Int → Option Int
  | [], value => some value
  | character :: rest, value =>
    match digitValue character with
    | none => none
    | some digit =>
      if !range.contains (value * 10) then none
      else if !range.contains (value * 10 + sign * digit) then none
      else parseDigits range sign rest (value * 10 + sign * digit)

def parseInteger (range : IntegerRange) : Text → Option Int
  | [] => none
  | ['+'] => none
  | ['-'] => none
  | '+' :: digits => parseDigits range 1 digits 0
  | '-' :: digits =>
    -- An unsigned type reads the minus sign as an invalid digit.
    if range.min < 0 then parseDigits range (-1) digits 0 else none
  | digits => parseDigits range 1 digits 0

namespace Amount

def scale : Int := 10000

def zero : Int := 0

def isPositive (amount : Int) : Bool := amount.sign == 1

@[simp] theorem isPositive_iff (amount : Int) : isPositive amount = true ↔ 0 < amount := by
  simp [isPositive, Int.sign_eq_one_iff_pos]

/-- `i64` multiplication by the scale. -/
def scaleUp (build : Build) (value : Int) : Outcome Int :=
  if i64Range.contains (value * scale) then .ok (value * scale)
  else match build with
    | .debug => .panic
    | .release => .ok (Int.bmod (value * scale) (2 ^ 64))

/-- Parse a decimal text, truncating beyond 4 decimal places. -/
def parse (build : Build) (text : Text) : Outcome Int :=
  let trimmed := trim text
  if '.' ∈ trimmed then
    let intPart := trimmed.takeWhile (· ≠ '.')
    let fracPart := (trimmed.dropWhile (· ≠ '.')).drop 1
    let frac4 := (fracPart.take 4 ++ List.replicate 4 '0').take 4
    match parseInteger i64Range (intPart ++ frac4) with
    | some value => .ok value
    | none => .err "Invalid amount"
  else
    match parseInteger i64Range trimmed with
    | some value => scaleUp build value
    | none => .err "Invalid amount"

/-- The big integer's own text. -/
def bigIntText (value : Int) : Text :=
  if value < 0 then '-' :: Nat.toDigits 10 value.natAbs else Nat.toDigits 10 value.natAbs

/-- The text of an amount: big-integer division and a remainder padded to four characters. -/
def display (amount : Int) : Text :=
  let isNegative := amount.sign == -1
  let abs := if isNegative then -amount else amount
  let div := abs.tdiv scale
  let rem := abs.tmod scale
  let frac := List.leftpad 4 '0' (bigIntText rem)
  if isNegative then '-' :: bigIntText div ++ '.' :: frac
  else bigIntText div ++ '.' :: frac

end Amount

end PaymentsEngine
