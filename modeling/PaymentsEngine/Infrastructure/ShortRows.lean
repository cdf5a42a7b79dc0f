import PaymentsEngine.Infrastructure.LoadFile

/-! # Rows without their last field

The deserializer of the reader is that of another package: `CsvAsync` has what is
documented of it with the options that the reader sets.  An empty amount is zero, but a
row that leaves the amount out has no row of texts to be read from.
-/

namespace PaymentsEngine

/-- The names that the fields of a row are found by. -/
def rowHeader : List Text := ["type".toList, "client".toList, "tx".toList, "amount".toList]

/-- What the deserializer makes of the fields of a record, given those of the header. -/
structure CsvAsync where
  deserialize : (header fields : List Text) → Record
  -- A reader that is not flexible has no record with more or fewer fields than the header.
  notFlexible : ∀ header fields, fields.length ≠ header.length →
    ∃ error, deserialize header fields = .error error
  byName : ∀ type client tx amount : Text,
    deserialize rowHeader [type, client, tx, amount] = .ok ⟨type, client, tx, amount⟩

/-- A deserializer that looks the four names up in the header. -/
def strictCsv : CsvAsync where
  deserialize := fun header fields =>
    let value (name : String) : Option Text := (header.zip fields).lookup name.toList
    if fields.length ≠ header.length then .error "found record with a different number of fields"
    else match value "type", value "client", value "tx", value "amount" with
      | some type, some client, some tx, some amount => .ok ⟨type, client, tx, amount⟩
      | _, _, _, _ => .error "missing field"
  notFlexible := by
    intro header fields different
    exact ⟨_, if_pos different⟩
  byName := by
    intro type client tx amount
    rfl

/-- A row of a file, and whether its empty amount is left out. -/
inductive CsvRow where
  | kept (fields : List Text)
  | shortened (row : RawInputMessage) (ignored : row.ignoresAmount = true) (empty : row.amount = [])

namespace CsvRow

/-- The fields of `dispute,1,1,`. -/
def long : CsvRow → List Text
  | .kept fields => fields
  | .shortened row _ _ => [row.type, row.client, row.tx, row.amount]

/-- The fields of `dispute,1,1`. -/
def short : CsvRow → List Text
  | .kept fields => fields
  | .shortened row _ _ => [row.type, row.client, row.tx]

def isKept : CsvRow → Bool
  | .kept _ => true
  | .shortened _ _ _ => false

end CsvRow

/-- The records of a file with these rows. -/
def CsvAsync.records (csv : CsvAsync) (rows : List (List Text)) : List Record :=
  rows.map (csv.deserialize rowHeader)

/-- Leaving out empty amounts changes no message and adds no error. -/
structure SameMessages (build : Build) (csv : CsvAsync) (rows : List CsvRow) : Prop where
  messages : (loadFile build (.new (csv.records (rows.map CsvRow.long)))).1 =
    (loadFile build (.new (csv.records (rows.map CsvRow.short)))).1
  noError : (loadFile build (.new (csv.records (rows.map CsvRow.long)))).2 = .ok () →
    (loadFile build (.new (csv.records (rows.map CsvRow.short)))).2 = .ok ()

/-- As far as the rows of the file with all fields are readable, none of them is shortened. -/
def AllKept (build : Build) (csv : CsvAsync) : UInt64 → List CsvRow → Prop
  | _, [] => True
  | chronoOrder, row :: rows =>
    CsvReader.Readable build chronoOrder (csv.deserialize rowHeader row.long) →
      row.isKept = true ∧ AllKept build csv (chronoOrder + 1) rows

variable {build : Build} {csv : CsvAsync}

theorem short_unreadable {row : CsvRow} (shortened : row.isKept = false) (chronoOrder : UInt64) :
    ¬ CsvReader.Readable build chronoOrder (csv.deserialize rowHeader row.short) := by
  cases row with
  | kept fields => cases shortened
  | shortened row ignored empty =>
    obtain ⟨error, failed⟩ := csv.notFlexible rowHeader [row.type, row.client, row.tx]
      (by simp [rowHeader])
    rintro ⟨-, read, readable, -⟩
    rw [CsvRow.short, failed] at readable
    cases readable

/-- The record of a row with all fields, and of the row as it stands in the file. -/
abbrev CsvRow.longRecord (csv : CsvAsync) (row : CsvRow) : Record :=
  csv.deserialize rowHeader row.long

abbrev CsvRow.shortRecord (csv : CsvAsync) (row : CsvRow) : Record :=
  csv.deserialize rowHeader row.short

theorem allKept_iff (rows : List CsvRow) (chronoOrder : UInt64) :
    AllKept build csv chronoOrder rows ↔
      CsvReader.RowsAgree build (CsvRow.longRecord csv) (CsvRow.shortRecord csv) chronoOrder rows := by
  induction rows generalizing chronoOrder with
  | nil => rfl
  | cons row rows ih =>
    rw [AllKept, CsvReader.RowsAgree, ih]
    cases row with
    | kept fields =>
      simp [CsvRow.isKept, CsvRow.longRecord, CsvRow.shortRecord, CsvRow.long, CsvRow.short]
    | shortened row ignored empty =>
      have unreadable : ¬ CsvReader.Readable build chronoOrder
          (CsvRow.shortRecord csv (.shortened row ignored empty)) :=
        short_unreadable rfl chronoOrder
      simp only [CsvRow.isKept, unreadable, iff_false]
      constructor
      · intro kept
        exact ⟨fun long => Bool.noConfusion (kept long).1, fun long => (kept long).2⟩
      · intro agree long
        exact absurd long agree.1

/-- A row that is readable in both files is the same in both. -/
theorem message_unique {row : CsvRow} {chronoOrder following following' : UInt64}
    {msg other : InputMessage}
    (long : CsvReader.readRecord build chronoOrder (row.longRecord csv) = .ok (msg, following))
    (short : CsvReader.readRecord build chronoOrder (row.shortRecord csv) = .ok (other, following')) :
    msg = other := by
  cases row with
  | kept fields => exact congrArg Prod.fst (Outcome.ok.inj (long.symm.trans short))
  | shortened row ignored empty =>
    exact absurd (CsvReader.readable_of_read short) (short_unreadable rfl chronoOrder)

/-- A row can lose its empty amount only behind one that ends the file anyway. -/
theorem sameMessages_iff (build : Build) (csv : CsvAsync) (rows : List CsvRow) :
    SameMessages build csv rows ↔ AllKept build csv 0 rows := by
  have long : loadFile build (.new (csv.records (rows.map CsvRow.long))) =
      CsvReader.readRows build 0 (rows.map (CsvRow.longRecord csv)) := by
    rw [CsvReader.loadFile_eq, CsvAsync.records, List.map_map]
    rfl
  have short : loadFile build (.new (csv.records (rows.map CsvRow.short))) =
      CsvReader.readRows build 0 (rows.map (CsvRow.shortRecord csv)) := by
    rw [CsvReader.loadFile_eq, CsvAsync.records, List.map_map]
    rfl
  rw [allKept_iff]
  constructor
  · intro same
    have length := congrArg List.length same.messages
    rw [long, short] at length
    exact CsvReader.rowsAgree_of_length length
  · intro agree
    obtain ⟨messages, ends⟩ := agree.loads message_unique
    rw [List.forall₂_eq_eq_eq] at messages
    rw [← long, ← short] at messages ends
    exact ⟨messages, ends.mp⟩

/-- The rows `dispute,1,1,` and `dispute,1,1`. -/
def disputeRow : CsvRow :=
  .shortened ⟨"dispute".toList, ['1'], ['1'], []⟩ (by decide) rfl

theorem short_dispute_halts :
    (∀ build, loadFile build (.new (strictCsv.records [disputeRow.long])) =
        ([⟨0, .dispute, 1, 1, 0⟩], .ok ()) ∧
      loadFile build (.new (strictCsv.records [disputeRow.short])) =
        ([], .err "Failed to deserialize record")) ∧
      ∀ build, ¬ SameMessages build strictCsv [disputeRow] := by
  have loads (build : Build) : loadFile build (.new (strictCsv.records [disputeRow.long])) =
        ([⟨0, .dispute, 1, 1, 0⟩], .ok ()) ∧
      loadFile build (.new (strictCsv.records [disputeRow.short])) =
        ([], .err "Failed to deserialize record") := by
    rw [CsvReader.loadFile_eq, CsvReader.loadFile_eq]
    cases build <;> decide +kernel
  refine ⟨loads, ?_⟩
  intro build same
  have messages := same.messages
  rw [List.map_singleton, List.map_singleton, (loads build).1, (loads build).2] at messages
  cases messages

end PaymentsEngine
