import PaymentsEngine.Domain.AmountDisplay
import PaymentsEngine.Infrastructure.CsvWriter
import PaymentsEngine.Infrastructure.LoadFile

/-! # Messages written as rows

Every message has a row in the reader's own format.  The messages that files load are
exactly those with the positions of their rows and with amounts of the `i64` range, and
their rows load them again: a file and the rows of its messages are loaded alike.
-/

namespace PaymentsEngine

open Library (Sign Decimal Digits)

/-! ## The texts of the fields -/

/-- A numeral without a sign is read by every integer type that has its value. -/
theorem parseInteger_toDigits {range : IntegerRange} (zero : range.contains 0 = true) {number : Nat}
    (within : range.contains number = true) :
    parseInteger range (Nat.toDigits 10 number) = some (number : Int) := by
  have digits := Library.digits_toDigits number
  have nonempty : Nat.toDigits 10 number ≠ [] := Nat.toDigits_ne_nil
  obtain ⟨first, rest, split⟩ := List.exists_cons_of_ne_nil nonempty
  have digit : first.isDigit = true := digits first (by simp [split])
  have value : Sign.apply .none (Library.digitsValue (Nat.toDigits 10 number)) = number := by
    simp [Sign.apply]
  rw [split, parseInteger_digit range digit, ← split]
  exact (parseDigits_zero zero .none).mpr ⟨digits, within, value.symm⟩

theorem clientId_ofInt (clientId : ClientId) : UInt16.ofInt (clientId.toNat : Int) = clientId := by
  have bound := clientId.toNat_lt
  rw [← UInt16.toNat_inj]
  simp only [UInt16.ofInt, UInt16.toNat_ofNat']
  omega

theorem transactionId_ofInt (transactionId : TransactionId) :
    UInt32.ofInt (transactionId.toNat : Int) = transactionId := by
  have bound := transactionId.toNat_lt
  rw [← UInt32.toNat_inj]
  simp only [UInt32.ofInt, UInt32.toNat_ofNat']
  omega

namespace Amount

theorem scaleUp_range {build : Build} {value amount : Int} (scaled : scaleUp build value = .ok amount) :
    i64Range.contains amount = true := by
  unfold scaleUp at scaled
  split at scaled
  next fits =>
    cases scaled
    exact fits
  next =>
    cases build with
    | debug => cases scaled
    | release =>
      -- The wrapped product is a word.
      cases scaled
      have least := @Int.le_bmod (value * scale) (2 ^ 64) (by omega)
      have most := @Int.bmod_lt (value * scale) (2 ^ 64) (by omega)
      simp only [IntegerRange.contains_iff, i64Range]
      omega

/-- An amount that is read is in the range of `i64`, also one that was wrapped. -/
theorem parse_range {build : Build} {text : Text} {amount : Int} (reads : parse build text = .ok amount) :
    i64Range.contains amount = true := by
  by_cases dot : '.' ∈ trim text
  · obtain ⟨whole, fraction, cut, first⟩ := List.eq_append_cons_of_mem dot
    rw [parse_dotted build cut first, Outcome.ofOption_eq_ok] at reads
    obtain ⟨-, -, -, within⟩ := parseInteger_i64.mp reads
    exact within
  · rw [parse_whole build dot, Outcome.bind_eq_ok] at reads
    obtain ⟨value, -, scaled⟩ := reads
    exact scaleUp_range scaled

/-- The text of an amount is read back when the amount is in range. -/
theorem parse_display {amount : Int} (within : i64Range.contains amount = true) (build : Build) :
    parse build (display amount) = .ok amount := by
  have read := parse_decimal build (displayed amount) ⟨[], by simp⟩ ⟨[], by simp⟩
  rw [scaled_displayed, if_pos within] at read
  simpa [display_eq] using read

theorem display_ne_nil (amount : Int) : display amount ≠ [] := by
  simp [display_eq, Decimal.text]

end Amount

namespace CsvReader

variable {build : Build} {msg : InputMessage} {messages : List InputMessage} {start : Nat}

theorem parseAmount_range {amount : Text} {value : Int} (reads : parseAmount build amount = .ok value) :
    i64Range.contains value = true := by
  unfold parseAmount at reads
  split at reads
  next =>
    cases reads
    rfl
  next => exact Amount.parse_range reads

theorem parseAmount_display {amount : Int} (within : i64Range.contains amount = true) (build : Build) :
    parseAmount build (Amount.display amount) = .ok amount := by
  have nonempty := Amount.display_ne_nil amount
  simp [parseAmount, nonempty, Amount.parse_display within build]

end CsvReader

/-! ## The row of a message -/

/-- The row that a message is written as. -/
def InputMessage.row (self : InputMessage) : RawInputMessage where
  type := self.transactionType.otelLabel.toList
  client := clientText self.clientId
  tx := Nat.toDigits 10 self.transactionId.toNat
  amount := Amount.display self.amount

namespace CsvReader

variable {build : Build} {msg : InputMessage} {messages : List InputMessage} {start : Nat}

theorem messageOf_row (within : i64Range.contains msg.amount = true) (build : Build) :
    MessageOf build msg.chronoOrder msg.row msg where
  chronoOrder := rfl
  transactionType := TransactionType.fromStr_eq_some.mpr rfl
  clientId := by
    have bound := msg.clientId.toNat_lt
    have read := @parseInteger_toDigits u16Range rfl msg.clientId.toNat (by
      simp only [IntegerRange.contains_iff, u16Range]
      omega)
    simp [InputMessage.row, clientText, read, clientId_ofInt]
  transactionId := by
    have bound := msg.transactionId.toNat_lt
    have read := @parseInteger_toDigits u32Range rfl msg.transactionId.toNat (by
      simp only [IntegerRange.contains_iff, u32Range]
      omega)
    simp [InputMessage.row, read, transactionId_ofInt]
  amount := parseAmount_display within build

/-! ## Files -/

/-- Messages that the rows from `start` on may have: each has the number of its position and an
    amount in range, and in a debug build the last of them has a successor. -/
structure Loadable (build : Build) (start : Nat) (messages : List InputMessage) : Prop where
  numbered : ∀ (index : Nat) (msg : InputMessage), messages[index]? = some msg →
    msg.chronoOrder = .ofNat (start + index)
  amounts : ∀ msg ∈ messages, i64Range.contains msg.amount = true
  short : build = .debug → start + messages.length < 2 ^ 64

theorem loadable_nil (short : build = .debug → start < 2 ^ 64) : Loadable build start [] where
  numbered := by simp
  amounts := by simp
  short := by simpa using short

theorem loadable_cons : Loadable build start (msg :: messages) ↔
    msg.chronoOrder = .ofNat start ∧ i64Range.contains msg.amount = true ∧
      Loadable build (start + 1) messages := by
  constructor
  · intro loadable
    have short := loadable.short
    rw [List.length_cons] at short
    refine ⟨loadable.numbered 0 msg rfl, loadable.amounts msg (by simp), ?_, ?_, ?_⟩
    · intro index other at_
      have number := loadable.numbered (index + 1) other at_
      rw [number]
      congr 1
      omega
    · intro other member
      exact loadable.amounts other (by simp [member])
    · intro debug
      have := short debug
      omega
  · rintro ⟨number, within, rest⟩
    have short := rest.short
    refine ⟨?_, ?_, ?_⟩
    · intro index other at_
      cases index with
      | zero =>
        cases at_
        exact number
      | succ index =>
        rw [rest.numbered index other at_]
        congr 1
        omega
    · intro other member
      rw [List.mem_cons] at member
      obtain rfl | member := member
      · exact within
      · exact rest.amounts other member
    · intro debug
      have := short debug
      rw [List.length_cons]
      omega

theorem following_ofNat (start : Nat) : UInt64.ofNat (start + 1) = UInt64.ofNat start + 1 :=
  UInt64.ofNat_add start 1

/-- The position of a row that was read has a successor in a debug build. -/
theorem following_short (short : build = .debug → start < 2 ^ 64)
    (more : ¬ (UInt64.ofNat start + 1 = 0 ∧ build = .debug)) :
    build = .debug → start + 1 < 2 ^ 64 := by
  intro debug
  by_contra exceeds
  have last : start + 1 = 2 ^ 64 := by
    have := short debug
    omega
  refine more ⟨?_, debug⟩
  simp [← UInt64.toNat_inj, last]

/-- And where it has one in `Nat`, it has one among the sequence numbers. -/
theorem following_of_short (short : build = .debug → start + 1 < 2 ^ 64) :
    ¬ (UInt64.ofNat start + 1 = 0 ∧ build = .debug) := by
  rintro ⟨zero, debug⟩
  have := short debug
  simp only [← UInt64.toNat_inj, UInt64.toNat_add, UInt64.toNat_ofNat', UInt64.reduceToNat] at zero
  omega

/-- Whatever the rows are, and wherever their reading ends, the messages are loadable. -/
theorem loadable_readRows (records : List Record) (short : build = .debug → start < 2 ^ 64) :
    Loadable build start (readRows build (.ofNat start) records).1 := by
  induction records generalizing start with
  | nil => exact loadable_nil short
  | cons first records ih =>
    rw [readRows]
    split
    next msg following read =>
      obtain ⟨row, -, message, more, rfl⟩ := readRecord_eq_ok.mp read
      have rest := ih (following_short short more)
      rw [following_ofNat] at rest
      exact loadable_cons.mpr ⟨message.chronoOrder, parseAmount_range message.amount, rest⟩
    next => exact loadable_nil short
    next => exact loadable_nil short

/-- The rows of loadable messages load them. -/
theorem Loadable.readRows (loadable : Loadable build start messages) :
    readRows build (.ofNat start) (messages.map fun msg => .ok msg.row) = (messages, .ok ()) := by
  induction messages generalizing start with
  | nil => rfl
  | cons msg messages ih =>
    obtain ⟨number, within, rest⟩ := loadable_cons.mp loadable
    have more : ¬ (UInt64.ofNat start + 1 = 0 ∧ build = .debug) := by
      refine following_of_short ?_
      intro debug
      have := rest.short debug
      omega
    have message : MessageOf build (.ofNat start) msg.row msg := number ▸ messageOf_row within build
    have read : readRecord build (.ofNat start) (.ok msg.row) = .ok (msg, .ofNat start + 1) :=
      readRecord_eq_ok.mpr ⟨msg.row, rfl, message, more, rfl⟩
    have loaded := ih rest
    rw [following_ofNat] at loaded
    rw [List.map_cons, readRows_readable read, loaded]

/-- Messages are those of some file, in full or up to a row that cannot be read, just when they
    are loadable from the first position on, and then the file of their rows loads them. -/
theorem loaded_iff (build : Build) (messages : List InputMessage) :
    (∃ file, (loadFile build (.new file)).1 = messages) ↔ Loadable build 0 messages := by
  constructor
  · rintro ⟨file, rfl⟩
    rw [loadFile_eq]
    exact loadable_readRows file (by omega)
  · intro loadable
    refine ⟨messages.map fun msg => .ok msg.row, ?_⟩
    rw [loadFile_eq]
    exact congrArg Prod.fst loadable.readRows

/-- However far a file is read, the rows of its messages are read to their end, and load the
    same messages. -/
theorem load_rows (build : Build) (file : List Record) :
    let messages := (loadFile build (.new file)).1
    loadFile build (.new (messages.map fun msg => .ok msg.row)) = (messages, .ok ()) := by
  intro messages
  have loadable : Loadable build 0 messages := by
    have start : build = .debug → 0 < 2 ^ 64 := by omega
    have loadable := loadable_readRows file start
    rwa [show messages = (readRows build 0 file).1 from congrArg Prod.fst (loadFile_eq build _)]
  rw [loadFile_eq]
  exact loadable.readRows

end CsvReader

end PaymentsEngine
