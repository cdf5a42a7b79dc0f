import Mathlib.Data.List.Forall2
import PaymentsEngine.Infrastructure.CsvReader

/-! # Files read to their end

`load_file` calls `CsvReader::next` until the file is exhausted or a row cannot be
read.  The rows before that one have been delivered by then, so what counts for a row
is whether it is readable where it stands.
-/

namespace PaymentsEngine

namespace CsvReader

variable {build : Build} {chronoOrder : UInt64}

theorem next_shorter {self rest : CsvReader} {msg : InputMessage}
    (next : self.next build = (.ok (some msg), rest)) :
    rest.records.length < self.records.length := by
  cases records : self.records with
  | nil => cases done : self.done <;> simp [CsvReader.next, done, records] at next
  | cons recordResult others =>
    have notDone := self.notDone records
    cases read : readRecord build self.chronoOrder recordResult with
    | ok read =>
      simp only [CsvReader.next, notDone, records, read] at next
      cases next
      exact Nat.lt_succ_self _
    | err error => simp [CsvReader.next, notDone, records, read] at next
    | panic => simp [CsvReader.next, notDone, records, read] at next

end CsvReader

/-- Whether the row is a dispute, a resolve or a chargeback. -/
def RawInputMessage.ignoresAmount (row : RawInputMessage) : Bool :=
  (TransactionType.fromStr row.type).any TransactionType.ignoresAmount

/-- The messages that `load_file` hands to its callback, and how it ends, when no callback fails. -/
def loadFile (build : Build) (reader : CsvReader) : List InputMessage × Outcome Unit :=
  match _ : reader.next build with
  | (.ok (some msg), rest) =>
    let loaded := loadFile build rest
    (msg :: loaded.1, loaded.2)
  | (.ok none, _) => ([], .ok ())
  | (.err error, _) => ([], .err error)
  | (.panic, _) => ([], .panic)
termination_by reader.records.length
decreasing_by exact CsvReader.next_shorter (by assumption)

namespace CsvReader

variable {build : Build} {chronoOrder : UInt64}

/-- The same by the rows. -/
def readRows (build : Build) : UInt64 → List Record → List InputMessage × Outcome Unit
  | _, [] => ([], .ok ())
  | chronoOrder, recordResult :: records =>
    match readRecord build chronoOrder recordResult with
    | .ok (msg, following) =>
      let rows := readRows build following records
      (msg :: rows.1, rows.2)
    | .err error => ([], .err error)
    | .panic => ([], .panic)

/-- What `next` says about the rows from here on. -/
theorem next_readRows (build : Build) (self : CsvReader) :
    readRows build self.chronoOrder self.records =
      match self.next build with
      | (.ok (some msg), rest) =>
        (msg :: (readRows build rest.chronoOrder rest.records).1,
          (readRows build rest.chronoOrder rest.records).2)
      | (.ok none, _) => ([], .ok ())
      | (.err error, _) => ([], .err error)
      | (.panic, _) => ([], .panic) := by
  cases records : self.records with
  | nil => cases done : self.done <;> simp [CsvReader.next, readRows, done, records]
  | cons recordResult others =>
    have notDone := self.notDone records
    cases read : readRecord build self.chronoOrder recordResult with
    | ok read => simp [CsvReader.next, readRows, notDone, records, read, new]
    | err error => simp [CsvReader.next, readRows, notDone, records, read]
    | panic => simp [CsvReader.next, readRows, notDone, records, read]

theorem loadFile_eq (build : Build) (self : CsvReader) :
    loadFile build self = readRows build self.chronoOrder self.records := by
  induction self using loadFile.induct build with
  | case1 self msg rest next ih =>
    rw [next_readRows, loadFile, next]
    dsimp only
    rw [ih]
  | case2 self rest next => rw [next_readRows, loadFile, next]
  | case3 self error rest next => rw [next_readRows, loadFile, next]
  | case4 self rest next => rw [next_readRows, loadFile, next]

/-- The messages of fewer rows than there are sequence numbers have ascending numbers. -/
theorem readRows_numbered {records : List Record}
    (short : chronoOrder.toNat + records.length ≤ 2 ^ 64) :
    ((readRows build chronoOrder records).1.Pairwise fun earlier later =>
        earlier.chronoOrder < later.chronoOrder) ∧
      ∀ msg ∈ (readRows build chronoOrder records).1,
        chronoOrder.toNat ≤ msg.chronoOrder.toNat ∧ 0 < records.length := by
  induction records generalizing chronoOrder with
  | nil => exact ⟨.nil, by intro msg member; cases member⟩
  | cons first records ih =>
    rw [readRows]
    split
    next msg following parsed =>
      obtain ⟨number, rfl⟩ := readRecord_chronoOrder parsed
      rw [List.length_cons] at short
      have next : (chronoOrder + 1).toNat = (chronoOrder.toNat + 1) % 2 ^ 64 := UInt64.toNat_add _ _
      obtain ⟨numbered, above⟩ := @ih (chronoOrder + 1) (by omega)
      have later : ∀ other ∈ (readRows build (chronoOrder + 1) records).1,
          chronoOrder.toNat < other.chronoOrder.toNat := by
        intro other member
        -- With another row to come the number of this one is not the last.
        obtain ⟨bound, more⟩ := above other member
        omega
      constructor
      · rw [List.pairwise_cons]
        refine ⟨?_, numbered⟩
        intro other member
        rw [UInt64.lt_iff_toNat_lt, number]
        exact later other member
      · intro other member
        refine ⟨?_, Nat.succ_pos _⟩
        rw [List.mem_cons] at member
        obtain rfl | member := member
        · rw [number]
        · exact le_of_lt (later other member)
    next => exact ⟨.nil, by intro msg member; cases member⟩
    next => exact ⟨.nil, by intro msg member; cases member⟩

theorem readAll_eq_some {records : List Record} {messages : List InputMessage} :
    readAll build chronoOrder records = some messages ↔
      readRows build chronoOrder records = (messages, .ok ()) := by
  induction records generalizing chronoOrder messages with
  | nil => simp [readAll, readRows]
  | cons first records ih =>
    rw [readAll, readRows]
    cases readRecord build chronoOrder first with
    | ok read =>
      simp only [Option.map_eq_some_iff, ih, Prod.mk.injEq]
      constructor
      · rintro ⟨others, rows, rfl⟩
        simp [rows]
      · rintro ⟨rfl, ended⟩
        exact ⟨_, Prod.ext rfl ended, rfl⟩
    | err error => simp
    | panic => simp

theorem readAll_loadFile {file : List Record} {messages : List InputMessage} :
    readAll build 0 file = some messages ↔ loadFile build (.new file) = (messages, .ok ()) := by
  rw [readAll_eq_some, loadFile_eq]
  rfl

theorem readAll_numbered {records : List Record} {messages : List InputMessage}
    (read : readAll build 0 records = some messages) (short : records.length ≤ 2 ^ 64) :
    messages.Pairwise fun earlier later => earlier.chronoOrder < later.chronoOrder := by
  have numbered : (readRows build 0 records).1.Pairwise fun earlier later =>
      earlier.chronoOrder < later.chronoOrder := (readRows_numbered (by simpa using short)).1
  rwa [readAll_eq_some.mp read] at numbered

/-! ## Readable rows -/

/-- Type, client and transaction id are read, and the position has a successor. -/
def FieldsReadable (build : Build) (chronoOrder : UInt64) (recordResult : Record) : Prop :=
  ∃ row, recordResult = .ok row ∧ (TransactionType.fromStr row.type).isSome ∧
    (parseInteger u16Range row.client).isSome ∧ (parseInteger u32Range row.tx).isSome ∧
    ¬ (chronoOrder + 1 = 0 ∧ build = .debug)

/-- The amount is missing, or its text is accepted. -/
def AmountReadable (build : Build) (recordResult : Record) : Prop :=
  ∃ row, recordResult = .ok row ∧
    (row.amount = [] ∨ ∃ amount, Amount.parse build row.amount = .ok amount)

def Readable (build : Build) (chronoOrder : UInt64) (recordResult : Record) : Prop :=
  FieldsReadable build chronoOrder recordResult ∧ AmountReadable build recordResult

/-- What the message of a row has from its texts. -/
structure MessageOf (build : Build) (chronoOrder : UInt64) (row : RawInputMessage)
    (msg : InputMessage) : Prop where
  chronoOrder : msg.chronoOrder = chronoOrder
  transactionType : TransactionType.fromStr row.type = some msg.transactionType
  clientId : (parseInteger u16Range row.client).map UInt16.ofInt = some msg.clientId
  transactionId : (parseInteger u32Range row.tx).map UInt32.ofInt = some msg.transactionId
  amount : parseAmount build row.amount = .ok msg.amount

theorem parseAmount_ok {amount : Text} :
    (∃ value, parseAmount build amount = .ok value) ↔
      amount = [] ∨ ∃ value, Amount.parse build amount = .ok value := by
  cases amount with
  | nil => simp [parseAmount]
  | cons first rest => simp [parseAmount]

theorem increment_eq_ok {following : UInt64} :
    increment build chronoOrder = .ok following ↔
      ¬ (chronoOrder + 1 = 0 ∧ build = .debug) ∧ following = chronoOrder + 1 := by
  rw [increment]
  split
  · simp_all
  · simp_all [eq_comm]

theorem readRecord_eq_ok {recordResult : Record} {msg : InputMessage} {following : UInt64} :
    readRecord build chronoOrder recordResult = .ok (msg, following) ↔
      ∃ row, recordResult = .ok row ∧ MessageOf build chronoOrder row msg ∧
        ¬ (chronoOrder + 1 = 0 ∧ build = .debug) ∧ following = chronoOrder + 1 := by
  cases recordResult with
  | error error => simp [readRecord, deserialized, Outcome.bind_eq_ok]
  | ok row =>
    simp only [readRecord, Outcome.bind_eq_ok, Outcome.ofOption_eq_ok, increment_eq_ok]
    constructor
    · rintro ⟨_, ⟨⟩, kind, type, client, clientText, tx, txText, amount, amountText, next, more,
        built⟩
      cases built
      exact ⟨row, rfl, ⟨rfl, type, by simp [clientText], by simp [txText], amountText⟩, more⟩
    · rintro ⟨_, ⟨⟩, message, more⟩
      obtain ⟨client, clientText, clientId⟩ := Option.map_eq_some_iff.mp message.clientId
      obtain ⟨tx, txText, transactionId⟩ := Option.map_eq_some_iff.mp message.transactionId
      refine ⟨row, rfl, _, message.transactionType, client, clientText, tx, txText, _, message.amount,
        _, more, ?_⟩
      rw [clientId, transactionId, ← message.chronoOrder]
      rfl

theorem readable_iff {recordResult : Record} :
    Readable build chronoOrder recordResult ↔
      ∃ msg, readRecord build chronoOrder recordResult = .ok (msg, chronoOrder + 1) := by
  simp only [readRecord_eq_ok]
  constructor
  · rintro ⟨⟨row, rfl, type, client, tx, more⟩, ⟨_, ⟨⟩, amount⟩⟩
    obtain ⟨kind, type⟩ := Option.isSome_iff_exists.mp type
    obtain ⟨client, clientText⟩ := Option.isSome_iff_exists.mp client
    obtain ⟨tx, txText⟩ := Option.isSome_iff_exists.mp tx
    obtain ⟨amount, amountText⟩ := parseAmount_ok.mpr amount
    exact ⟨⟨chronoOrder, kind, .ofInt client, .ofInt tx, amount⟩, row, rfl,
      ⟨rfl, type, by simp [clientText], by simp [txText], amountText⟩, more, trivial⟩
  · rintro ⟨msg, row, rfl, message, more, -⟩
    have client := Option.isSome_of_eq_some message.clientId
    have tx := Option.isSome_of_eq_some message.transactionId
    rw [Option.isSome_map] at client tx
    exact ⟨⟨row, rfl, Option.isSome_of_eq_some message.transactionType, client, tx, more⟩,
      row, rfl, parseAmount_ok.mp ⟨_, message.amount⟩⟩

theorem readable_of_read {recordResult : Record} {msg : InputMessage} {following : UInt64}
    (read : readRecord build chronoOrder recordResult = .ok (msg, following)) :
    Readable build chronoOrder recordResult := by
  obtain ⟨-, rfl⟩ := readRecord_chronoOrder read
  exact readable_iff.mpr ⟨msg, read⟩

/-- A readable row is delivered, and the rows after it are read from the next position. -/
theorem readRows_readable {recordResult : Record} {msg : InputMessage} {following : UInt64}
    (read : readRecord build chronoOrder recordResult = .ok (msg, following)) (records : List Record) :
    readRows build chronoOrder (recordResult :: records) =
      (msg :: (readRows build following records).1, (readRows build following records).2) := by
  rw [readRows, read]

/-- One that is not readable ends the file without another message. -/
theorem readRows_unreadable {recordResult : Record}
    (unreadable : ¬ Readable build chronoOrder recordResult) (records : List Record) :
    (readRows build chronoOrder (recordResult :: records)).1 = [] ∧
      (readRows build chronoOrder (recordResult :: records)).2 ≠ .ok () := by
  rw [readRows]
  split
  next msg following read => exact absurd (readable_of_read read) unreadable
  next => simp
  next => simp

/-! ## Two files, row by row -/

section TwoFiles

variable {Pair : Type} {left right : Pair → Record} {pairs : List Pair}

/-- As far as the rows are readable, they are so in both files or in neither. -/
def RowsAgree (build : Build) (left right : Pair → Record) : UInt64 → List Pair → Prop
  | _, [] => True
  | chronoOrder, pair :: pairs =>
    (Readable build chronoOrder (left pair) ↔ Readable build chronoOrder (right pair)) ∧
      (Readable build chronoOrder (left pair) → RowsAgree build left right (chronoOrder + 1) pairs)

/-- Files whose rows agree deliver as many messages, each like the other, and end alike. -/
theorem RowsAgree.loads {Alike : InputMessage → InputMessage → Prop}
    (alike : ∀ {chronoOrder following following' pair msg other},
      readRecord build chronoOrder (left pair) = .ok (msg, following) →
      readRecord build chronoOrder (right pair) = .ok (other, following') → Alike msg other)
    (agree : RowsAgree build left right chronoOrder pairs) :
    List.Forall₂ Alike (readRows build chronoOrder (pairs.map left)).1
        (readRows build chronoOrder (pairs.map right)).1 ∧
      ((readRows build chronoOrder (pairs.map left)).2 = .ok () ↔
        (readRows build chronoOrder (pairs.map right)).2 = .ok ()) := by
  induction pairs generalizing chronoOrder with
  | nil => exact ⟨.nil, .rfl⟩
  | cons pair pairs ih =>
    obtain ⟨same, rest⟩ := agree
    rw [List.map_cons, List.map_cons]
    by_cases readable : Readable build chronoOrder (left pair)
    · obtain ⟨msg, read⟩ := readable_iff.mp readable
      obtain ⟨other, read'⟩ := readable_iff.mp (same.mp readable)
      obtain ⟨messages, ends⟩ := ih (rest readable)
      rw [readRows_readable read, readRows_readable read']
      exact ⟨.cons (alike read read') messages, ends⟩
    · have ended := readRows_unreadable readable (pairs.map left)
      have ended' := readRows_unreadable (mt same.mpr readable) (pairs.map right)
      rw [ended.1, ended'.1]
      exact ⟨.nil, fun ok => absurd ok ended.2, fun ok => absurd ok ended'.2⟩

/-- Where one row is readable in one file only, the other file falls behind for good. -/
theorem rowsAgree_of_length
    (same : (readRows build chronoOrder (pairs.map left)).1.length =
      (readRows build chronoOrder (pairs.map right)).1.length) :
    RowsAgree build left right chronoOrder pairs := by
  induction pairs generalizing chronoOrder with
  | nil => trivial
  | cons pair pairs ih =>
    rw [List.map_cons, List.map_cons] at same
    by_cases readable : Readable build chronoOrder (left pair)
    · obtain ⟨msg, read⟩ := readable_iff.mp readable
      rw [readRows_readable read] at same
      by_cases readable' : Readable build chronoOrder (right pair)
      · obtain ⟨other, read'⟩ := readable_iff.mp readable'
        rw [readRows_readable read'] at same
        exact ⟨by simp [readable, readable'], fun _ => ih (Nat.succ.inj same)⟩
      · simp [readRows_unreadable readable' (pairs.map right)] at same
    · refine ⟨?_, fun readable' => absurd readable' readable⟩
      by_cases readable' : Readable build chronoOrder (right pair)
      · obtain ⟨other, read'⟩ := readable_iff.mp readable'
        rw [readRows_readable read'] at same
        simp [readRows_unreadable readable (pairs.map left)] at same
      · simp [readable, readable']

end TwoFiles

end CsvReader

end PaymentsEngine
