import PaymentsEngine.Pipeline.Progress
import PaymentsEngine.Service.IgnoredAmounts

/-! # The amount column of disputes, resolves and chargebacks

Two files that differ in this column alone, read by `load_file` and processed by the
service.  The reader looks at the column before it knows that nobody needs it: a text
that it does not accept ends the file.
-/

namespace PaymentsEngine.Pipeline

open PaymentsEngine.Library PaymentsEngine.Library.Machine PaymentsEngine.Library.Schedule

/-- How the service processes a file, in batches of any size. -/
def processFile (heap : PendingHeap) (config : ServiceConfig) (build : Build) (file : List Record) :
    Service.Run heap :=
  Service.serverForever heap .allOpen config .channelClosed (posted build (.new file))

/-! ## Two files that differ in an ignored column -/

/-- A row of both files. -/
inductive RowPair where
  | same (recordResult : Record)
  | differing (row : RawInputMessage) (other : Text) (ignored : row.ignoresAmount = true)

namespace RowPair

def left : RowPair → Record
  | .same recordResult => recordResult
  | .differing row _ _ => .ok row

def right : RowPair → Record
  | .same recordResult => recordResult
  | .differing row other _ => .ok { row with amount := other }

end RowPair

/-- As far as the rows are readable, what stands in the amount column is readable in both files or
    in neither. -/
def AmountsAgree (build : Build) : UInt64 → List RowPair → Prop
  | _, [] => True
  | chronoOrder, pair :: pairs =>
    CsvReader.FieldsReadable build chronoOrder pair.left →
      (CsvReader.AmountReadable build pair.left ↔ CsvReader.AmountReadable build pair.right) ∧
        (CsvReader.AmountReadable build pair.left → AmountsAgree build (chronoOrder + 1) pairs)

/-- Whether the pipeline has a run on the file that comes to write the snapshot. -/
def CanWrite (heap : PendingHeap) (config : ServiceConfig) (build : Build) (file : List Record) : Prop :=
  ∃ s, Steps (State.step config build) (.initial heap file) s ∧ s.main = .writingSnapshot

/-- The two files lead to the same rows, outcomes and accounts, and neither stops the processing if
    the other does not. -/
structure SameProcessing (build : Build) (file other : List Record) : Prop where
  delivered : List.Forall₂ InputMessage.Alike (loadFile build (.new file)).1
    (loadFile build (.new other)).1
  halts : (loadFile build (.new file)).2 = .ok () ↔ (loadFile build (.new other)).2 = .ok ()
  outcomes : outputs Accounts.resolve ∅ (loadFile build (.new file)).1 =
    outputs Accounts.resolve ∅ (loadFile build (.new other)).1
  accounts : (after Accounts.process ∅ (loadFile build (.new file)).1).released =
    (after Accounts.process ∅ (loadFile build (.new other)).1).released
  service : file.length ≤ 2 ^ 64 → ∀ heap config,
    (processFile heap config build file).result = (processFile heap config build other).result ∧
      (processFile heap config build file).world.sent.filterMap Event.resolution =
        (processFile heap config build other).world.sent.filterMap Event.resolution ∧
      (processFile heap config build file).world.accounts.released =
        (processFile heap config build other).world.accounts.released
  -- The whole pipeline writes the one snapshot if it can write the other, and they are the same.
  writes : ∀ heap config, CanWrite heap config build file ↔ CanWrite heap config build other
  snapshots : file.length ≤ 2 ^ 64 → ∀ heap config (s t : State heap),
    Steps (State.step config build) (.initial heap file) s → s.main = .writingSnapshot →
    Steps (State.step config build) (.initial heap other) t → t.main = .writingSnapshot →
    s.world.accounts.released = t.world.accounts.released

variable {build : Build} {chronoOrder : UInt64}

theorem fieldsReadable_pair (pair : RowPair) :
    CsvReader.FieldsReadable build chronoOrder pair.left ↔
      CsvReader.FieldsReadable build chronoOrder pair.right := by
  cases pair with
  | same recordResult => rfl
  | differing row other ignored =>
    constructor
    · rintro ⟨_, ⟨⟩, readable⟩
      exact ⟨_, rfl, readable⟩
    · rintro ⟨_, ⟨⟩, readable⟩
      exact ⟨_, rfl, readable⟩

/-- The messages of a row of both files differ in an ignored amount at most. -/
theorem alike_pair (pair : RowPair) {msg other : InputMessage} {following following' : UInt64}
    (left : CsvReader.readRecord build chronoOrder pair.left = .ok (msg, following))
    (right : CsvReader.readRecord build chronoOrder pair.right = .ok (other, following')) :
    msg.Alike other := by
  cases pair with
  | same recordResult =>
    obtain rfl : msg = other := congrArg Prod.fst (Outcome.ok.inj (left.symm.trans right))
    exact ⟨rfl, fun _ => rfl⟩
  | differing row amount ignored =>
    obtain ⟨_, ⟨⟩, message, -⟩ := CsvReader.readRecord_eq_ok.mp left
    obtain ⟨_, ⟨⟩, message', -⟩ := CsvReader.readRecord_eq_ok.mp right
    have transactionType := Option.some.inj
      (message.transactionType.symm.trans message'.transactionType)
    have clientId := Option.some.inj (message.clientId.symm.trans message'.clientId)
    have transactionId := Option.some.inj (message.transactionId.symm.trans message'.transactionId)
    constructor
    · rw [message.chronoOrder, transactionType, clientId, transactionId, ← message'.chronoOrder]
    · intro reads
      rw [RawInputMessage.ignoresAmount, message.transactionType, Option.any_some, reads] at ignored
      cases ignored

/-- The other fields are the same, so a row is readable in both files when its amount is. -/
theorem amountsAgree_iff (pairs : List RowPair) (chronoOrder : UInt64) :
    AmountsAgree build chronoOrder pairs ↔
      CsvReader.RowsAgree build RowPair.left RowPair.right chronoOrder pairs := by
  induction pairs generalizing chronoOrder with
  | nil => rfl
  | cons pair pairs ih =>
    have fields : CsvReader.FieldsReadable build chronoOrder pair.left ↔
        CsvReader.FieldsReadable build chronoOrder pair.right := fieldsReadable_pair pair
    rw [AmountsAgree, CsvReader.RowsAgree, CsvReader.Readable, CsvReader.Readable, ← fields, ih]
    by_cases readable : CsvReader.FieldsReadable build chronoOrder pair.left
    · simp [readable]
    · simp [readable]

/-! ## The service on the two files -/

/-- The service takes the rows of a file in their order. -/
theorem processFile_sequential (heap : PendingHeap) (config : ServiceConfig) {file : List Record}
    (short : file.length ≤ 2 ^ 64) :
    Service.SequentialRun heap (posted build (.new file)) (processFile heap config build file) := by
  apply Service.sequentialRun
  rw [incomingMessages_posted, CsvReader.loadFile_eq]
  exact (CsvReader.readRows_numbered (by simpa [CsvReader.new] using short)).1

theorem canWrite_iff_loaded (heap : PendingHeap) (config : ServiceConfig) (file : List Record) :
    CanWrite heap config build file ↔ (loadFile build (.new file)).2 = .ok () := by
  rw [CanWrite, canWrite_iff]
  simp only [CsvReader.readAll_loadFile]
  constructor
  · rintro ⟨messages, loaded⟩
    rw [loaded]
  · intro ok
    exact ⟨_, Prod.ext rfl ok⟩

/-- A snapshot has the accounts that the rows of the file lead to. -/
theorem snapshot_loaded {heap : PendingHeap} {config : ServiceConfig} {file : List Record}
    {s : State heap} (short : file.length ≤ 2 ^ 64)
    (steps : Steps (State.step config build) (.initial heap file) s)
    (writing : s.main = .writingSnapshot) :
    s.world.accounts = after Accounts.process ∅ (loadFile build (.new file)).1 := by
  obtain ⟨messages, read, accounts⟩ := snapshot_sequential short steps writing
  rw [accounts, CsvReader.readAll_loadFile.mp read]

/-- Files that deliver alike messages are processed alike. -/
theorem sameProcessing_of_alike {file other : List Record} (length : file.length = other.length)
    (delivered : List.Forall₂ InputMessage.Alike (loadFile build (.new file)).1
      (loadFile build (.new other)).1)
    (halts : (loadFile build (.new file)).2 = .ok () ↔ (loadFile build (.new other)).2 = .ok ()) :
    SameProcessing build file other where
  delivered := delivered
  halts := halts
  outcomes := (Accounts.run_alike delivered).1
  accounts := (Accounts.run_alike delivered).2
  service := by
    intro short heap config
    have left : Service.SequentialRun heap _ (processFile heap config build file) :=
      processFile_sequential heap config short
    have right : Service.SequentialRun heap _ (processFile heap config build other) :=
      processFile_sequential heap config (length ▸ short)
    obtain ⟨outcomes, accounts⟩ := Accounts.run_alike delivered
    refine ⟨left.result.trans right.result.symm, ?_, ?_⟩
    · rw [left.outcomes, right.outcomes, incomingMessages_posted, incomingMessages_posted, outcomes]
    · rw [left.accounts, right.accounts, incomingMessages_posted, incomingMessages_posted, accounts]
  writes := by
    intro heap config
    rw [canWrite_iff_loaded, canWrite_iff_loaded, halts]
  snapshots := by
    intro short heap config s t steps writing steps' writing'
    rw [snapshot_loaded short steps writing, snapshot_loaded (length ▸ short) steps' writing']
    exact (Accounts.run_alike delivered).2

/-- The column is ignored exactly as long as its texts are acceptable amounts or missing in both
    files, or in neither. -/
theorem ignores_amounts_iff (build : Build) (pairs : List RowPair) :
    SameProcessing build (pairs.map RowPair.left) (pairs.map RowPair.right) ↔
      AmountsAgree build 0 pairs := by
  have rows (file : List Record) : loadFile build (.new file) = CsvReader.readRows build 0 file :=
    CsvReader.loadFile_eq build (.new file)
  rw [amountsAgree_iff]
  constructor
  · intro same
    have length := same.delivered.length_eq
    rw [rows, rows] at length
    exact CsvReader.rowsAgree_of_length length
  · intro agree
    have loads := agree.loads fun {_ _ _} pair => alike_pair pair
    rw [← rows, ← rows] at loads
    exact sameProcessing_of_alike (by simp) loads.1 loads.2

/-- A dispute whose amount is `text`, and a deposit after it. -/
def disputeFile (text : Text) : List Record :=
  [.ok { type := "dispute".toList, client := "1".toList, tx := "1".toList, amount := text },
    .ok { type := "deposit".toList, client := "2".toList, tx := "2".toList, amount := "1.0".toList }]

/-- The text of a dispute's amount costs the client of the deposit that follows. -/
theorem disputed_amount_halts :
    (∀ build, (loadFile build (.new (disputeFile []))).2 = .ok () ∧
      (loadFile build (.new (disputeFile "abc".toList))) = ([], .err "Invalid amount")) ∧
      ∀ build, ¬ SameProcessing build (disputeFile []) (disputeFile "abc".toList) := by
  have loads (build : Build) : (loadFile build (.new (disputeFile []))).2 = .ok () ∧
      (loadFile build (.new (disputeFile "abc".toList))) = ([], .err "Invalid amount") := by
    rw [CsvReader.loadFile_eq, CsvReader.loadFile_eq]
    cases build <;> decide +kernel
  refine ⟨loads, ?_⟩
  intro build same
  obtain ⟨left, right⟩ := loads build
  have halts := same.halts.mp left
  rw [right] at halts
  cases halts

end PaymentsEngine.Pipeline
