import PaymentsEngine.Domain.Behaviour
import PaymentsEngine.Infrastructure.CsvWriter
import PaymentsEngine.Service.Clients

/-! # The snapshot as a text

`write_snapshot` goes through the accounts in an order of the map's own, and writes a
row for each.  Whatever the writer underneath does, what reaches it is a beginning of
the snapshot's text, and all of it when the call succeeds.  The text of a snapshot says
no less than the balances and the locks of all clients.
-/

namespace PaymentsEngine

open PaymentsEngine.Library PaymentsEngine.Library.Machine

/-- An order in which `accounts.iter()` may yield the entries: each of them once. -/
structure Iteration (accounts : Accounts) where
  entries : List (Sigma fun _ : ClientId => Account)
  complete : (entries : Multiset (Sigma fun _ : ClientId => Account)) = accounts.entries

/-- What is recorded about a snapshot that was written. -/
structure SnapshotMetrics where
  accountsWritten : Nat
  accountsLocked : Nat
  deriving DecidableEq, Repr

/-- How `write_snapshot` returns. -/
structure SnapshotRun where
  result : Except String Unit
  writer : CsvWriter
  metrics : Option SnapshotMetrics

namespace Iteration

variable {accounts : Accounts} (iteration : Iteration accounts)

theorem length_entries : iteration.entries.length = accounts.keys.card := by
  have card := congrArg Multiset.card iteration.complete
  simpa [Finmap.keys, Multiset.keys] using card

theorem mem_entries {clientId : ClientId} {account : Account} :
    ⟨clientId, account⟩ ∈ iteration.entries ↔ accounts.lookup clientId = some account := by
  rw [← Multiset.mem_coe, iteration.complete]
  exact Finmap.mem_lookup_iff.symm

theorem nodup_clients : (iteration.entries.map Sigma.fst).Nodup := by
  have nodup := accounts.nodupKeys
  rw [← iteration.complete] at nodup
  exact nodup

/-- Whoever has come to some entries, each of them once, may go on to the others. -/
theorem exists_continuing {entries : List (Sigma fun _ : ClientId => Account)}
    (nodup : (entries.map Sigma.fst).Nodup)
    (found : ∀ entry ∈ entries, accounts.lookup entry.1 = some entry.2) :
    ∃ (iteration : Iteration accounts) (rest : _), iteration.entries = entries ++ rest := by
  have below : (entries : Multiset (Sigma fun _ : ClientId => Account)) ≤ accounts.entries := by
    rw [Multiset.le_iff_subset (Multiset.coe_nodup.mpr nodup.of_map)]
    intro entry member
    exact Finmap.mem_lookup_iff.mp (found entry member)
  obtain ⟨others, complete⟩ := Multiset.le_iff_exists_add.mp below
  obtain ⟨rest, rfl⟩ := Quot.exists_rep others
  exact ⟨⟨entries ++ rest, by rw [complete]; rfl⟩, rest, rfl⟩

end Iteration

namespace Service

section Write

variable (serializer : Csv.Serializer) (writer : AsyncWrite)

/-- The loop over the accounts, left by the first row that cannot be written. -/
def writeAccounts (csvWriter : CsvWriter) (lockedCount : Nat) :
    List Account → Except String Unit × CsvWriter × Nat
  | [] => (.ok (), csvWriter, lockedCount)
  | account :: accounts =>
    let lockedCount := if account.locked then lockedCount + 1 else lockedCount
    match csvWriter.writeMessage serializer writer (.ofAccount account) with
    | (.ok (), csvWriter) => writeAccounts csvWriter lockedCount accounts
    | (.error _, csvWriter) => (.error "Unable to serialize output message", csvWriter, lockedCount)

/-- Serializes all account states to CSV via the given async writer. -/
def writeSnapshot (accounts : Accounts) (iteration : Iteration accounts) : SnapshotRun :=
  match CsvWriter.new.writeHeader serializer writer with
  | (.error error, csvWriter) => { result := .error error, writer := csvWriter, metrics := none }
  | (.ok (), csvWriter) =>
    let count := accounts.keys.card
    match writeAccounts serializer writer csvWriter 0 (iteration.entries.map Sigma.snd) with
    | (.error error, csvWriter, _) => { result := .error error, writer := csvWriter, metrics := none }
    | (.ok (), csvWriter, lockedCount) =>
      let flushed := csvWriter.flush writer
      { result := flushed.1
        writer := flushed.2
        metrics := if flushed.1.isOk then some ⟨count, lockedCount⟩ else none }

end Write

/-! ## What is written -/

/-- The rows for some accounts. -/
def rows (accounts : List Account) : List (List Text) :=
  accounts.map fun account => (OutputMessage.ofAccount account).fields

/-- The text of the snapshot of some accounts. -/
def snapshotText (accounts : List Account) : Text :=
  Csv.document (CsvWriter.header :: rows accounts)

theorem plainRecord_snapshot (accounts : List Account) :
    ∀ record ∈ CsvWriter.header :: rows accounts, Csv.PlainRecord record := by
  simp only [rows, List.forall_mem_cons, List.forall_mem_map]
  exact ⟨CsvWriter.plainRecord_header, fun account _ => OutputMessage.plainRecord_fields _⟩

theorem parse_snapshotText (accounts : List Account) :
    Csv.parse (snapshotText accounts) = CsvWriter.header :: rows accounts :=
  Csv.parse_document (plainRecord_snapshot accounts)

section Written

variable {serializer : Csv.Serializer} {writer : AsyncWrite}

/-- A loop that has succeeded with some accounts goes on with the others. -/
theorem writeAccounts_append {csvWriter left : CsvWriter} {lockedCount counted : Nat}
    {accounts : List Account} (others : List Account)
    (written : writeAccounts serializer writer csvWriter lockedCount accounts =
      (.ok (), left, counted)) :
    writeAccounts serializer writer csvWriter lockedCount (accounts ++ others) =
      writeAccounts serializer writer left counted others := by
  induction accounts generalizing csvWriter lockedCount with
  | nil =>
    cases written
    rfl
  | cons account accounts ih =>
    rw [List.cons_append]
    simp only [writeAccounts] at written ⊢
    split at written
    next next passed => exact ih written
    next => cases written

/-- The loop succeeds when none of its calls fails.  When it is left it has serialized the rows up
    to the one that failed. -/
theorem writeAccounts_written (accounts : List Account) :
    ∀ (csvWriter : CsvWriter) (lockedCount : Nat),
      let run := writeAccounts serializer writer csvWriter lockedCount accounts
      (run.1 = .ok () ↔ ∀ call, csvWriter.calls ≤ call → call < csvWriter.calls + accounts.length →
          writer.fails call = false) ∧
        ∃ written rest, accounts = written ++ rest ∧
          run.2.1.serialized = csvWriter.serialized ++ (rows written).flatMap serializer.serialize ∧
          (run.1 = .ok () → rest = [] ∧ run.2.1.calls = csvWriter.calls + accounts.length ∧
            run.2.2 = lockedCount + accounts.countP fun account => account.locked) := by
  induction accounts with
  | nil =>
    intro csvWriter lockedCount
    refine ⟨?_, [], [], by simp [writeAccounts, rows]⟩
    simp only [writeAccounts, List.length_nil, true_iff]
    omega
  | cons account accounts ih =>
    intro csvWriter lockedCount
    have writes := csvWriter.writes_serialize serializer writer
      (OutputMessage.ofAccount account).fields "Failed to write CSV record"
    rw [writeAccounts]
    rw [← CsvWriter.writeMessage] at writes
    generalize csvWriter.writeMessage serializer writer (.ofAccount account) = outcome at *
    obtain ⟨outcome, next⟩ := outcome
    obtain ⟨serialized, calls, result⟩ := writes
    dsimp only at serialized calls result
    cases outcome with
    | ok =>
      have first : writer.fails csvWriter.calls = false := by simpa using result
      obtain ⟨succeeds, written, rest, split, text, complete⟩ :=
        ih next (if account.locked then lockedCount + 1 else lockedCount)
      simp only [List.length_cons, List.countP_cons]
      refine ⟨?_, account :: written, rest, by simp [split], by simp [text, serialized, rows], ?_⟩
      · rw [succeeds, calls]
        constructor
        · intro others call lower upper
          by_cases here : call = csvWriter.calls
          · rw [here, first]
          · exact others call (by omega) (by omega)
        · intro all call lower upper
          exact all call (by omega) (by omega)
      · intro ok
        obtain ⟨none, called, counted⟩ := complete ok
        refine ⟨none, by omega, counted.trans ?_⟩
        cases account.locked <;> simp; omega
    | error error =>
      have first : writer.fails csvWriter.calls ≠ false := by simpa using result
      -- The failed row may have been passed on in part; the rows after it were not serialized.
      refine ⟨?_, [account], accounts, by simp, by simp [serialized, rows], by simp⟩
      simp only [List.length_cons, reduceCtorEq, false_iff]
      intro all
      exact first (all csvWriter.calls (by omega) (by omega))

/-- What `write_snapshot` lets reach the writer underneath, when it succeeds, and what it records. -/
theorem writeSnapshot_written {accounts : Accounts} (iteration : Iteration accounts)
    {values : List Account} (visited : iteration.entries.map Sigma.snd = values) :
    let run := writeSnapshot serializer writer accounts iteration
    run.writer.output <+: snapshotText values ∧
      (run.result = .ok () ↔ ∀ call < values.length + 2, writer.fails call = false) ∧
      (run.result = .ok () → run.writer.output = snapshotText values ∧
        run.metrics = some ⟨accounts.keys.card, values.countP fun account => account.locked⟩) := by
  have text : snapshotText values =
      serializer.serialize CsvWriter.header ++ (rows values).flatMap serializer.serialize :=
    (serializer.flatMap_serialize (plainRecord_snapshot values)).symm
  have writes := CsvWriter.new.writes_serialize serializer writer CsvWriter.header
    "Failed to serialise csv header"
  rw [← CsvWriter.writeHeader] at writes
  simp only [writeSnapshot, visited, text]
  generalize CsvWriter.new.writeHeader serializer writer = outcome at *
  obtain ⟨outcome, begun⟩ := outcome
  obtain ⟨serialized, calls, result⟩ := writes
  simp only [CsvWriter.new, CsvWriter.serialized, List.nil_append] at serialized calls result
  cases outcome with
  | error error =>
    have first : writer.fails 0 ≠ false := by simpa using result
    refine ⟨?_, ?_, by simp⟩
    · exact begun.output_begins.trans (serialized ▸ List.prefix_append _ _)
    · simp only [reduceCtorEq, false_iff]
      intro all
      exact first (all 0 (by omega))
  | ok =>
    have first : writer.fails 0 = false := by simpa using result
    obtain ⟨succeeds, written, rest, split, loopText, complete⟩ :=
      @writeAccounts_written serializer writer values begun 0
    dsimp only
    generalize writeAccounts serializer writer begun 0 values = loop at *
    obtain ⟨loopResult, left, lockedCount⟩ := loop
    dsimp only at succeeds loopText complete
    have soFar : left.serialized <+:
        serializer.serialize CsvWriter.header ++ (rows values).flatMap serializer.serialize := by
      rw [loopText, CsvWriter.serialized, serialized, split]
      simp [rows]
    cases loopResult with
    | error error =>
      refine ⟨left.output_begins.trans soFar, ?_, by simp⟩
      simp only [reduceCtorEq, false_iff] at succeeds ⊢
      intro all
      exact succeeds fun call lower upper => all call (by omega)
    | ok =>
      obtain ⟨rfl, called, counted⟩ := complete rfl
      obtain ⟨flushed, _, flushResult⟩ := left.writes_flush writer
      rw [List.append_nil] at flushed split
      have whole : left.serialized =
          serializer.serialize CsvWriter.header ++ (rows values).flatMap serializer.serialize := by
        rw [loopText, CsvWriter.serialized, serialized, split]
      refine ⟨?_, ?_, ?_⟩
      · exact (left.flush writer).2.output_begins.trans (flushed ▸ soFar)
      · -- The flush is the last of the calls.
        rw [flushResult, called]
        simp only [true_iff] at succeeds
        constructor
        · intro last call below
          by_cases header : call = 0
          · rw [header, first]
          · by_cases flush : call = begun.calls + values.length
            · rw [flush, last]
            · exact succeeds call (by omega) (by omega)
        · intro all
          exact all _ (by omega)
      · intro ok
        dsimp only at ok ⊢
        rw [left.flush_ok writer ok, ok, whole, counted]
        simp [Except.isOk, Except.toBool]

end Written

/-! ## What a snapshot says -/

/-- The text has the header, and one row for each client with the balances of its account. -/
structure Reports (text : Text) (accounts : Accounts) : Prop where
  header : (Csv.parse text).head? = some CsvWriter.header
  once : (Csv.parse text).tail.Nodup
  rows : ∀ row, row ∈ (Csv.parse text).tail ↔ ∃ clientId account,
    accounts.lookup clientId = some account ∧
      row = OutputMessage.fields { OutputMessage.ofAccount account with clientId := clientId }

/-- Every account is stored under its own client. -/
def OwnKeys (accounts : Accounts) : Prop :=
  ∀ clientId account, accounts.lookup clientId = some account → account.clientId = clientId

theorem ownKeys_after (messages : List InputMessage) : OwnKeys (after Accounts.process ∅ messages) := by
  intro clientId account found
  rw [(isolated_resolve clientId messages).account] at found
  split at found
  · have keeps : ∀ (account : Account) msg, account.clientId = clientId →
        (account.dispatch msg).2.clientId = clientId := by
      intro account msg same
      exact (account.apply_clientId msg.call).trans same
    cases found
    exact after_invariant Account.dispatch keeps rfl _
  · cases found

theorem reports_snapshotText {accounts : Accounts} (ownKeys : OwnKeys accounts)
    (iteration : Iteration accounts) :
    Reports (snapshotText (iteration.entries.map Sigma.snd)) accounts where
  header := by rw [parse_snapshotText]; rfl
  once := by
    -- Different clients have different rows: the row has the client in it.
    have clients : ((iteration.entries.map Sigma.fst).map clientText).Nodup :=
      iteration.nodup_clients.map clientText_injective
    rw [parse_snapshotText, List.tail_cons, rows, List.map_map]
    refine List.Nodup.of_map (fun row => row.headD []) ?_
    have same : (iteration.entries.map ((fun account => (OutputMessage.ofAccount account).fields) ∘
        Sigma.snd)).map (fun row => row.headD []) = (iteration.entries.map Sigma.fst).map clientText := by
      rw [List.map_map, List.map_map]
      refine List.map_congr_left ?_
      intro entry member
      have own := ownKeys entry.1 entry.2 (iteration.mem_entries.mp member)
      simp [OutputMessage.fields, OutputMessage.ofAccount, own]
    rw [same]
    exact clients
  rows := by
    intro row
    rw [parse_snapshotText, List.tail_cons, rows, List.map_map, List.mem_map]
    constructor
    · rintro ⟨⟨clientId, account⟩, member, rfl⟩
      have found := iteration.mem_entries.mp member
      refine ⟨clientId, account, found, ?_⟩
      simp [OutputMessage.ofAccount, ownKeys clientId account found]
    · rintro ⟨clientId, account, found, rfl⟩
      refine ⟨⟨clientId, account⟩, iteration.mem_entries.mpr found, ?_⟩
      simp [OutputMessage.ofAccount, ownKeys clientId account found]

/-- The row of a client is found in every other snapshot that has the same rows. -/
theorem Reports.found {text other : Text} {accounts others : Accounts} (first : Reports text accounts)
    (second : Reports other others) (same : (Csv.parse text).tail.Perm (Csv.parse other).tail)
    {clientId : ClientId} {account : Account} (found : accounts.lookup clientId = some account) :
    ∃ account', others.lookup clientId = some account' ∧ account.balances = account'.balances := by
  have row := (first.rows _).mpr ⟨clientId, account, found, rfl⟩
  obtain ⟨otherId, account', otherFound, equal⟩ := (second.rows _).mp (same.mem_iff.mp row)
  have messages := OutputMessage.fields_injective equal
  simp only [OutputMessage.ofAccount, OutputMessage.mk.injEq] at messages
  obtain ⟨rfl, available, held, total, locked⟩ := messages
  exact ⟨account', otherFound, by simp [Account.balances, available, held, total, locked]⟩

/-- The rows of a client whose balances are the same are the same. -/
theorem Reports.mem_of_balances {text other : Text} {accounts others : Accounts}
    (first : Reports text accounts) (second : Reports other others)
    (same : ∀ clientId, (accounts.lookup clientId).map Account.balances =
      (others.lookup clientId).map Account.balances) {row : List Text}
    (member : row ∈ (Csv.parse text).tail) : row ∈ (Csv.parse other).tail := by
  obtain ⟨clientId, account, found, rfl⟩ := (first.rows _).mp member
  have balances := same clientId
  rw [found, Option.map_some, eq_comm, Option.map_eq_some_iff] at balances
  obtain ⟨account', otherFound, balances⟩ := balances
  refine (second.rows _).mpr ⟨clientId, account', otherFound, ?_⟩
  rw [Account.balances_eq_iff] at balances
  obtain ⟨available, held, total, locked⟩ := balances
  simp [OutputMessage.ofAccount, available, held, total, locked]

/-- Snapshots have the same rows exactly when every client has the same balances in both. -/
theorem Reports.perm_iff {text other : Text} {accounts others : Accounts}
    (first : Reports text accounts) (second : Reports other others) :
    (Csv.parse text).tail.Perm (Csv.parse other).tail ↔ ∀ clientId,
      (accounts.lookup clientId).map Account.balances =
        (others.lookup clientId).map Account.balances := by
  constructor
  · intro same clientId
    cases found : accounts.lookup clientId with
    | some account =>
      obtain ⟨account', otherFound, balances⟩ := first.found second same found
      rw [otherFound, Option.map_some, Option.map_some, balances]
    | none =>
      cases otherFound : others.lookup clientId with
      | none => rfl
      | some account' =>
        obtain ⟨account, found', _⟩ := second.found first same.symm otherFound
        rw [found] at found'
        cases found'
  · intro same
    rw [List.perm_ext_iff_of_nodup first.once second.once]
    intro row
    exact ⟨first.mem_of_balances second same, second.mem_of_balances first fun id => (same id).symm⟩

/-- The clients whose account is locked. -/
def lockedClients (accounts : Accounts) : Finset ClientId :=
  accounts.keys.filter fun clientId => (accounts.lookup clientId).any fun account => account.locked

theorem countP_locked {accounts : Accounts} (iteration : Iteration accounts) :
    (iteration.entries.map Sigma.snd).countP (fun account => account.locked) =
      (lockedClients accounts).card := by
  have same : ((iteration.entries.filter fun entry => entry.2.locked).map Sigma.fst).toFinset =
      lockedClients accounts := by
    ext clientId
    simp only [lockedClients, List.mem_toFinset, List.mem_map, List.mem_filter, Sigma.exists,
      Finset.mem_filter, Finmap.mem_keys, Option.any_eq_true, iteration.mem_entries]
    constructor
    · rintro ⟨_, account, ⟨found, locked⟩, rfl⟩
      exact ⟨Finmap.mem_of_lookup_eq_some found, account, found, locked⟩
    · rintro ⟨_, account, found, locked⟩
      exact ⟨clientId, account, ⟨found, locked⟩, rfl⟩
  have nodup : ((iteration.entries.filter fun entry => entry.2.locked).map Sigma.fst).Nodup :=
    iteration.nodup_clients.sublist (List.filter_sublist.map _)
  rw [← same, List.toFinset_card_of_nodup nodup, List.length_map, ← List.countP_eq_length_filter,
    List.countP_map]
  rfl

/-- Whatever messages were processed, in whatever order the map is gone through, and whatever the
    writer underneath does: a beginning of a text that has one row for each client reaches it, the
    call succeeds exactly when the writer does not fail in the header, a row or the flush, and then
    the whole text has reached it and the metrics count the accounts and the locked ones. -/
theorem snapshot_output (serializer : Csv.Serializer) (writer : AsyncWrite)
    (messages : List InputMessage) (iteration : Iteration (after Accounts.process ∅ messages)) :
    let accounts := after Accounts.process ∅ messages
    let run := writeSnapshot serializer writer accounts iteration
    ∃ text, Reports text accounts ∧ run.writer.output <+: text ∧
      (run.result = .ok () ↔ ∀ call < accounts.keys.card + 2, writer.fails call = false) ∧
      (run.result = .ok () → run.writer.output = text ∧
        run.metrics = some ⟨accounts.keys.card, (lockedClients accounts).card⟩) := by
  intro accounts run
  have written := @writeSnapshot_written serializer writer accounts iteration _ rfl
  rw [countP_locked, List.length_map, iteration.length_entries] at written
  exact ⟨_, reports_snapshotText (ownKeys_after messages) iteration, written⟩

theorem reports_output {serializer : Csv.Serializer} {writer : AsyncWrite}
    {messages : List InputMessage} {iteration : Iteration (after Accounts.process ∅ messages)}
    (ok : (writeSnapshot serializer writer _ iteration).result = .ok ()) :
    Reports (writeSnapshot serializer writer _ iteration).writer.output
      (after Accounts.process ∅ messages) := by
  rw [((writeSnapshot_written iteration rfl).2.2 ok).1]
  exact reports_snapshotText (ownKeys_after messages) iteration

/-- Nothing of the balances is lost in a snapshot, and nothing else is in it: two of them that
    succeed have the same rows exactly when all clients have the same balances and locks. -/
theorem snapshots_same_rows_iff (serializer serializer' : Csv.Serializer) (writer writer' : AsyncWrite)
    (messages messages' : List InputMessage)
    (iteration : Iteration (after Accounts.process ∅ messages))
    (iteration' : Iteration (after Accounts.process ∅ messages'))
    (ok : (writeSnapshot serializer writer _ iteration).result = .ok ())
    (ok' : (writeSnapshot serializer' writer' _ iteration').result = .ok ()) :
    (Csv.parse (writeSnapshot serializer writer _ iteration).writer.output).tail.Perm
        (Csv.parse (writeSnapshot serializer' writer' _ iteration').writer.output).tail ↔
      ∀ clientId, ((after Accounts.process ∅ messages).lookup clientId).map Account.balances =
        ((after Accounts.process ∅ messages').lookup clientId).map Account.balances :=
  (reports_output ok).perm_iff (reports_output ok')

/-- A deposit in one and in two parts. -/
theorem snapshot_of_parts :
    let whole := [⟨0, .deposit, 1, 1, 30000⟩]
    let parts := [⟨0, .deposit, 1, 1, 10000⟩, ⟨1, .deposit, 1, 2, 20000⟩]
    ∃ (iteration : Iteration (after Accounts.process ∅ whole))
      (iteration' : Iteration (after Accounts.process ∅ parts)),
      (Csv.parse (writeSnapshot .bare ⟨fun _ _ => 5, fun _ => false⟩ _ iteration).writer.output).tail.Perm
        (Csv.parse (writeSnapshot .bare ⟨fun _ _ => 0, fun _ => false⟩ _ iteration').writer.output).tail := by
  intro whole parts
  obtain ⟨entries, complete⟩ := Quot.exists_rep (after Accounts.process ∅ whole).entries
  obtain ⟨entries', complete'⟩ := Quot.exists_rep (after Accounts.process ∅ parts).entries
  refine ⟨⟨entries, complete⟩, ⟨entries', complete'⟩, ?_⟩
  refine (snapshots_same_rows_iff _ _ _ _ whole parts _ _ ?_ ?_).mpr ?_
  · exact (writeSnapshot_written _ rfl).2.1.mpr fun _ _ => rfl
  · exact (writeSnapshot_written _ rfl).2.1.mpr fun _ _ => rfl
  · intro clientId
    rw [(isolated_resolve clientId whole).account, (isolated_resolve clientId parts).account]
    by_cases client : clientId = 1
    · rw [client]
      rfl
    · have others : ¬1 = clientId := fun same => client same.symm
      simp [whole, parts, others]

end Service

end PaymentsEngine
