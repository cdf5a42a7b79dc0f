import PaymentsEngine.Library.Csv
import PaymentsEngine.Domain.Account
import PaymentsEngine.Domain.AmountDisplay

/-! # The CSV writer

`CsvWriter` hands records to an asynchronous serializer, which keeps them in a buffer
and passes the buffer on to the writer underneath.  What has reached that writer and
what is still in the buffer are together always the records written so far, and only
a flush that succeeds leaves nothing in the buffer.
-/

namespace PaymentsEngine

open Library (Csv.Serializer Csv.PlainRecord Csv.Plain Digits digitsValue)

/-- A snapshot of an account's balances for CSV output. -/
structure OutputMessage where
  clientId : ClientId
  available : Int
  held : Int
  total : Int
  locked : Bool
  deriving DecidableEq, Repr

def OutputMessage.ofAccount (account : Account) : OutputMessage where
  clientId := account.clientId
  available := account.available
  held := account.held
  total := account.total
  locked := account.locked

def clientText (clientId : ClientId) : Text := Nat.toDigits 10 clientId.toNat

def boolText (value : Bool) : Text := if value then "true".toList else "false".toList

/-- The fields that `write_message` serializes. -/
def OutputMessage.fields (message : OutputMessage) : List Text :=
  [clientText message.clientId, Amount.display message.available, Amount.display message.held,
    Amount.display message.total, boolText message.locked]

/-- An `AsyncWrite`: how much of the buffer a call passes on to it, and which calls fail. -/
structure AsyncWrite where
  passes : (call buffered : Nat) → Nat
  fails : (call : Nat) → Bool

/-- `output` has reached the writer underneath, `buffer` has not yet. -/
structure CsvWriter where
  calls : Nat
  buffer : Text
  output : Text
  deriving DecidableEq, Repr

namespace CsvWriter

def new : CsvWriter := { calls := 0, buffer := [], output := [] }

/-- Everything that was serialized. -/
def serialized (self : CsvWriter) : Text := self.output ++ self.buffer

/-- Pass on some of the buffer. -/
def pass (self : CsvWriter) (count : Nat) : CsvWriter where
  calls := self.calls + 1
  buffer := self.buffer.drop count
  output := self.output ++ self.buffer.take count

/-- The header row. -/
def header : List Text :=
  ["client".toList, "available".toList, "held".toList, "total".toList, "locked".toList]

section Operations

variable (serializer : Csv.Serializer) (writer : AsyncWrite) (self : CsvWriter)

/-- Serialize a record; an error of the writer underneath is given a context. -/
def serialize (fields : List Text) (context : String) : Except String Unit × CsvWriter :=
  let buffered := { self with buffer := self.buffer ++ serializer.serialize fields }
  let passed := buffered.pass (writer.passes self.calls buffered.buffer.length)
  (if writer.fails self.calls then .error context else .ok (), passed)

/-- Writes the CSV header row. -/
def writeHeader : Except String Unit × CsvWriter :=
  self.serialize serializer writer header "Failed to serialise csv header"

/-- Serializes a single account snapshot as a CSV row. -/
def writeMessage (message : OutputMessage) : Except String Unit × CsvWriter :=
  self.serialize serializer writer message.fields "Failed to write CSV record"

/-- Flushes all buffered data; a flush that fails may have passed on some of it. -/
def flush : Except String Unit × CsvWriter :=
  if writer.fails self.calls then
    (.error "Failed to flush CSV writer", self.pass (writer.passes self.calls self.buffer.length))
  else (.ok (), self.pass self.buffer.length)

end Operations

/-- A call adds `text` to what is serialized, whether it fails or not. -/
structure Writes (writer : AsyncWrite) (text : Text) (before : CsvWriter)
    (outcome : Except String Unit × CsvWriter) : Prop where
  serialized : outcome.2.serialized = before.serialized ++ text
  calls : outcome.2.calls = before.calls + 1
  result : outcome.1 = .ok () ↔ writer.fails before.calls = false

section Lemmas

variable (serializer : Csv.Serializer) (writer : AsyncWrite) (self : CsvWriter)

theorem output_begins : self.output <+: self.serialized := List.prefix_append _ _

@[simp] theorem serialized_pass (count : Nat) : (self.pass count).serialized = self.serialized := by
  simp [pass, serialized]

theorem writes_serialize (fields : List Text) (context : String) :
    Writes writer (serializer.serialize fields) self (self.serialize serializer writer fields context) where
  serialized := by
    simp only [serialize, serialized_pass]
    simp [serialized]
  calls := rfl
  result := by simp [serialize]

theorem writes_flush : Writes writer [] self (self.flush writer) := by
  rw [flush]
  split
  next fails => exact ⟨by simp, rfl, by simp [fails]⟩
  next succeeds => exact ⟨by simp, rfl, by simp [succeeds]⟩

/-- After a flush that succeeds everything has reached the writer underneath. -/
theorem flush_ok (ok : (self.flush writer).1 = .ok ()) :
    (self.flush writer).2.output = self.serialized := by
  rw [flush] at ok ⊢
  split at ok
  · cases ok
  next succeeds => simp [succeeds, pass, serialized]

end Lemmas

end CsvWriter

/-! ## The fields are plain, and tell messages apart -/

theorem plain_of_characters {field : Text}
    (known : ∀ character ∈ field, character = '+' ∨ character = '-' ∨ character = '.' ∨
      character.isDigit = true) : Csv.Plain field := by
  intro character member
  obtain rfl | rfl | rfl | digit := known character member
  · decide
  · decide
  · decide
  · intro special
    simp only [Library.Csv.special, List.mem_cons, List.not_mem_nil, or_false] at special
    obtain rfl | rfl | rfl | rfl := special <;> simp at digit

theorem plain_clientText (clientId : ClientId) : Csv.Plain (clientText clientId) := by
  refine plain_of_characters ?_
  intro character member
  exact .inr (.inr (.inr (Library.digits_toDigits _ character member)))

theorem plain_display (amount : Int) : Csv.Plain (Amount.display amount) := by
  refine plain_of_characters ?_
  intro character member
  rw [Amount.display_eq] at member
  exact Library.Decimal.mem_text member

theorem plain_boolText (value : Bool) : Csv.Plain (boolText value) := by
  cases value <;> simp [boolText, Csv.Plain, Library.Csv.special]

theorem CsvWriter.plainRecord_header : Csv.PlainRecord CsvWriter.header where
  nonempty := by simp [header]
  notBlank := by simp [header]
  plain := by simp [header, Csv.Plain, Library.Csv.special]

theorem OutputMessage.plainRecord_fields (message : OutputMessage) :
    Csv.PlainRecord message.fields where
  nonempty := by simp [fields]
  notBlank := by simp [fields]
  plain := by
    simp [fields, plain_clientText, plain_display, plain_boolText]

theorem clientText_injective : Function.Injective clientText := by
  intro left right same
  have values := congrArg digitsValue same
  simpa [clientText, UInt16.toNat_inj] using values

theorem boolText_injective : Function.Injective boolText := by
  intro left right same
  cases left <;> cases right <;> simp_all [boolText]

/-- Messages with the same fields are the same. -/
theorem OutputMessage.fields_injective : Function.Injective OutputMessage.fields := by
  intro left right same
  simp only [fields, List.cons.injEq, and_true] at same
  obtain ⟨client, available, held, total, locked⟩ := same
  cases left
  cases right
  simp only [OutputMessage.mk.injEq]
  exact ⟨clientText_injective client, Amount.display_injective available,
    Amount.display_injective held, Amount.display_injective total, boolText_injective locked⟩

end PaymentsEngine
