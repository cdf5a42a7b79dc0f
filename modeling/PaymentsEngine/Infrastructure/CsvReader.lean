import PaymentsEngine.Domain.Transaction

/-! # The CSV reader

`CsvReader::next` reads one record of the file at a time.  The stream of records is
that of the deserializer: each is a row of texts or an error of its own.
-/

namespace PaymentsEngine

/-- Raw CSV row before domain parsing. -/
structure RawInputMessage where
  type : Text
  client : Text
  tx : Text
  amount : Text
  deriving DecidableEq, Repr

/-- An item of the deserialized stream. -/
abbrev Record := Except String RawInputMessage

structure CsvReader where
  records : List Record
  chronoOrder : UInt64
  done : Bool
  exhausted : done = true → records = []

namespace CsvReader

def new (records : List Record) : CsvReader where
  records := records
  chronoOrder := 0
  done := false
  exhausted := by intro done; cases done

/-- The row of a record, if the deserializer yielded one. -/
def deserialized : Record → Outcome RawInputMessage
  | .ok record => .ok record
  | .error _ => .err "Failed to deserialize record"

/-- An empty amount is zero. -/
def parseAmount (build : Build) (amount : Text) : Outcome Int :=
  if amount.isEmpty then .ok Amount.zero else Amount.parse build amount

/-- `self.chrono_order += 1` on a `u64`. -/
def increment (build : Build) (chronoOrder : UInt64) : Outcome UInt64 :=
  if chronoOrder + 1 = 0 ∧ build = .debug then .panic else .ok (chronoOrder + 1)

/-- The message of the record at the position `chronoOrder`, and the next position. -/
def readRecord (build : Build) (chronoOrder : UInt64) (recordResult : Record) :
    Outcome (InputMessage × UInt64) := do
  let record ← deserialized recordResult
  let transactionType ← Outcome.ofOption ("Invalid transaction type: " ++ String.ofList record.type)
    (TransactionType.fromStr record.type)
  let clientId ← Outcome.ofOption "Invalid client ID" (parseInteger u16Range record.client)
  let transactionId ← Outcome.ofOption "Invalid transaction ID" (parseInteger u32Range record.tx)
  let amount ← parseAmount build record.amount
  let following ← increment build chronoOrder
  return ({
    chronoOrder := chronoOrder
    transactionType := transactionType
    clientId := UInt16.ofInt clientId
    transactionId := UInt32.ofInt transactionId
    amount := amount }, following)

/-- Returns the next parsed message, or `none` when the file is exhausted. -/
def next (build : Build) (self : CsvReader) : Outcome (Option InputMessage) × CsvReader :=
  if self.done then (.ok none, self)
  else
    match self.records with
    | [] => (.ok none, { self with records := [], done := true, exhausted := fun _ => rfl })
    | recordResult :: records =>
      let rest : CsvReader := { new records with chronoOrder := self.chronoOrder }
      match readRecord build self.chronoOrder recordResult with
      | .ok (msg, chronoOrder) => (.ok (some msg), { rest with chronoOrder := chronoOrder })
      | .err error => (.err error, rest)
      | .panic => (.panic, rest)

/-- The messages of all the records from a position on, when each of them is read. -/
def readAll (build : Build) : UInt64 → List Record → Option (List InputMessage)
  | _, [] => some []
  | chronoOrder, recordResult :: records =>
    match readRecord build chronoOrder recordResult with
    | .ok (msg, following) => (readAll build following records).map (msg :: ·)
    | .err _ | .panic => none

/-- What is still to come from the reader. -/
def remaining (build : Build) (self : CsvReader) : Option (List InputMessage) :=
  readAll build self.chronoOrder self.records

/-- A row that no reader gets a message from, wherever it stands. -/
def Malformed (build : Build) (recordResult : Record) : Prop :=
  ∀ chronoOrder read, readRecord build chronoOrder recordResult ≠ .ok read

variable {build : Build} {msg : InputMessage}

/-- With a record to come the reader is not done. -/
theorem notDone (self : CsvReader) {recordResult : Record} {others : List Record}
    (records : self.records = recordResult :: others) : self.done = false := by
  by_contra done
  rw [self.exhausted (by simpa using done)] at records
  cases records

/-- What `next` says about what is still to come. -/
theorem next_remaining (build : Build) (self : CsvReader) :
    match self.next build with
    | (.ok none, _) => self.remaining build = some []
    | (.ok (some msg), rest) => self.remaining build = (rest.remaining build).map (msg :: ·)
    | (.err _, _) | (.panic, _) => self.remaining build = none := by
  cases records : self.records with
  | nil =>
    cases done : self.done <;> simp [next, remaining, readAll, done, records]
  | cons recordResult others =>
    have notDone := self.notDone records
    cases read : readRecord build self.chronoOrder recordResult with
    | ok read => simp [next, remaining, readAll, notDone, records, read, new]
    | err error => simp [next, remaining, readAll, notDone, records, read]
    | panic => simp [next, remaining, readAll, notDone, records, read]

theorem readAll_wellFormed {records : List Record} {chronoOrder : UInt64}
    {messages : List InputMessage} (read : readAll build chronoOrder records = some messages) :
    ∀ recordResult ∈ records, ¬ Malformed build recordResult := by
  induction records generalizing chronoOrder messages with
  | nil => intro recordResult member; cases member
  | cons first records ih =>
    rw [readAll] at read
    split at read
    next msg following parsed =>
      rw [Option.map_eq_some_iff] at read
      obtain ⟨others, readRest, _⟩ := read
      intro recordResult member
      rw [List.mem_cons] at member
      obtain rfl | member := member
      · intro malformed; exact malformed chronoOrder _ parsed
      · exact ih readRest recordResult member
    next => cases read
    next => cases read

/-! ## Sequence numbers -/

theorem readRecord_chronoOrder {chronoOrder following : UInt64} {recordResult : Record}
    (read : readRecord build chronoOrder recordResult = .ok (msg, following)) :
    msg.chronoOrder = chronoOrder ∧ following = chronoOrder + 1 := by
  simp only [readRecord, Outcome.bind_eq_ok] at read
  obtain ⟨_, _, _, _, _, _, _, _, _, _, next, incremented, built⟩ := read
  cases built
  rw [increment] at incremented
  split at incremented
  · cases incremented
  · cases incremented; exact ⟨rfl, rfl⟩

end CsvReader

end PaymentsEngine
