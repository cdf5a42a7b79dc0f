import PaymentsEngine.Pipeline.Undisturbed
import PaymentsEngine.Service.WriteSnapshot

/-! # From the file to the text

Writing the snapshot is no single action: between two rows the other parties may go on.
As nobody changes an account any more after the signal was acknowledged, the rows are
nevertheless those of one `write_snapshot` over the accounts that the file leads to.
-/

namespace PaymentsEngine.Pipeline

open PaymentsEngine.Library PaymentsEngine.Library.Schedule PaymentsEngine.Library.Machine
open PaymentsEngine.Service (Reports writeSnapshot writeAccounts)

variable {heap : PendingHeap} {config : ServiceConfig} {build : Build} {file : List Record}

/-- `write_snapshot`, by what it does next. -/
inductive Snapshot where
  | beginning
  | iterating (count lockedCount : Nat) (visited : List ClientId)
  | finished (metrics : Option SnapshotMetrics)
  deriving DecidableEq

/-- The pipeline, with the writer of the snapshot. -/
structure Printing (heap : PendingHeap) where
  pipeline : State heap
  snapshot : Snapshot
  csvWriter : CsvWriter

inductive PrintAction where
  /-- An action of the pipeline, but for writing the snapshot at once. -/
  | party (action : Action)
  | header
  /-- The iteration comes to the entry of a client. -/
  | row (clientId : ClientId)
  | flush
  deriving DecidableEq

namespace Printing

def initial (heap : PendingHeap) (file : List Record) : Printing heap where
  pipeline := .initial heap file
  snapshot := .beginning
  csvWriter := .new

/-- `write_snapshot` returns, and `main` with it. -/
def returns (p : Printing heap) (run : SnapshotRun) : Printing heap where
  pipeline := { p.pipeline with
    main := .returned run.result, cancelled := p.pipeline.cancelled || run.result.isOk }
  snapshot := .finished run.metrics
  csvWriter := run.writer

section Step

variable (serializer : Csv.Serializer) (writer : AsyncWrite) (config : ServiceConfig) (build : Build)
variable (p : Printing heap)

def writeHeader : Printing heap :=
  match p.csvWriter.writeHeader serializer writer with
  | (.error error, csvWriter) => p.returns { result := .error error, writer := csvWriter, metrics := none }
  | (.ok (), csvWriter) =>
    { p with snapshot := .iterating p.pipeline.world.accounts.keys.card 0 [], csvWriter := csvWriter }

def writeRow (count lockedCount : Nat) (visited : List ClientId) (account : Account)
    (clientId : ClientId) : Printing heap :=
  let lockedCount := if account.locked then lockedCount + 1 else lockedCount
  match p.csvWriter.writeMessage serializer writer (.ofAccount account) with
  | (.ok (), csvWriter) =>
    { p with snapshot := .iterating count lockedCount (visited ++ [clientId]), csvWriter := csvWriter }
  | (.error _, csvWriter) => p.returns
    { result := .error "Unable to serialize output message", writer := csvWriter, metrics := none }

def flush (count lockedCount : Nat) : Printing heap :=
  let flushed := p.csvWriter.flush writer
  p.returns {
    result := flushed.1
    writer := flushed.2
    metrics := if flushed.1.isOk then some ⟨count, lockedCount⟩ else none }

def step (action : PrintAction) (p : Printing heap) : Option (Printing heap) :=
  match action, p.snapshot with
  | .party (.writeSnapshot _), _ => none
  | .party action, _ =>
    (State.step config build action p.pipeline).map fun next => { p with pipeline := next }
  | .header, .beginning =>
    if p.pipeline.main = .writingSnapshot then some (p.writeHeader serializer writer) else none
  | .row clientId, .iterating count lockedCount visited =>
    if clientId ∈ visited then none
    else (p.pipeline.world.accounts.lookup clientId).map fun account =>
      p.writeRow serializer writer count lockedCount visited account clientId
  -- The iteration ends when it has come to every client.
  | .flush, .iterating count lockedCount visited =>
    if p.pipeline.world.accounts.keys ⊆ visited.toFinset then
      some (p.flush writer count lockedCount)
    else none
  | _, _ => none

end Step

end Printing

/-! ## The rows so far -/

section Written

variable {serializer : Csv.Serializer} {writer : AsyncWrite} {accounts : Accounts}
variable {lockedCount : Nat} {csvWriter next : CsvWriter}
variable {entries : List (Sigma fun _ : ClientId => Account)}

/-- The rows of these entries of the accounts have all been written. -/
structure Written (serializer : Csv.Serializer) (writer : AsyncWrite) (accounts : Accounts)
    (lockedCount : Nat) (csvWriter : CsvWriter)
    (entries : List (Sigma fun _ : ClientId => Account)) : Prop where
  nodup : (entries.map Sigma.fst).Nodup
  found : ∀ entry ∈ entries, accounts.lookup entry.1 = some entry.2
  rows : ∃ begun, CsvWriter.new.writeHeader serializer writer = (.ok (), begun) ∧
    writeAccounts serializer writer begun 0 (entries.map Sigma.snd) = (.ok (), csvWriter, lockedCount)

namespace Written

theorem begins (begun : CsvWriter.new.writeHeader serializer writer = (.ok (), csvWriter)) :
    Written serializer writer accounts 0 csvWriter [] where
  nodup := .nil
  found := by simp
  rows := ⟨csvWriter, begun, rfl⟩

/-- As much as the whole snapshot goes on with after these entries. -/
theorem writeSnapshot_eq (written : Written serializer writer accounts lockedCount csvWriter entries)
    {iteration : Iteration accounts} {rest : List (Sigma fun _ : ClientId => Account)}
    (continues : iteration.entries = entries ++ rest) :
    writeSnapshot serializer writer accounts iteration =
      match writeAccounts serializer writer csvWriter lockedCount (rest.map Sigma.snd) with
      | (.error error, left, _) => { result := .error error, writer := left, metrics := none }
      | (.ok (), left, counted) =>
        let flushed := left.flush writer
        { result := flushed.1
          writer := flushed.2
          metrics := if flushed.1.isOk then some ⟨accounts.keys.card, counted⟩ else none } := by
  obtain ⟨begun, header, rows⟩ := written.rows
  have whole := Service.writeAccounts_append (rest.map Sigma.snd) rows
  cases goesOn : writeAccounts serializer writer csvWriter lockedCount (rest.map Sigma.snd) with
  | mk result left =>
    rw [goesOn] at whole
    cases result <;> simp only [writeSnapshot, header, continues, List.map_append, whole]

section Row

variable {clientId : ClientId} {account : Account}

theorem nodup_visit (written : Written serializer writer accounts lockedCount csvWriter entries)
    (unvisited : clientId ∉ entries.map Sigma.fst) :
    ((entries ++ [(⟨clientId, account⟩ : Sigma fun _ => Account)]).map Sigma.fst).Nodup := by
  rw [List.map_append, List.nodup_append_comm]
  exact List.nodup_cons.mpr ⟨unvisited, written.nodup⟩

theorem found_visit (written : Written serializer writer accounts lockedCount csvWriter entries)
    (found : accounts.lookup clientId = some account) :
    ∀ entry ∈ entries ++ [⟨clientId, account⟩], accounts.lookup entry.1 = some entry.2 := by
  intro entry member
  obtain earlier | last := List.mem_append.mp member
  · exact written.found entry earlier
  · rw [List.mem_singleton.mp last]
    exact found

theorem visits (written : Written serializer writer accounts lockedCount csvWriter entries)
    (unvisited : clientId ∉ entries.map Sigma.fst) (found : accounts.lookup clientId = some account)
    (row : csvWriter.writeMessage serializer writer (.ofAccount account) = (.ok (), next)) :
    Written serializer writer accounts (if account.locked then lockedCount + 1 else lockedCount) next
      (entries ++ [⟨clientId, account⟩]) where
  nodup := written.nodup_visit unvisited
  found := written.found_visit found
  rows := by
    obtain ⟨begun, header, rows⟩ := written.rows
    refine ⟨begun, header, ?_⟩
    rw [List.map_append, Service.writeAccounts_append _ rows]
    simp only [List.map_cons, List.map_nil, writeAccounts, row]

/-- A row that fails ends the snapshot, whatever it would have gone on with. -/
theorem fails (written : Written serializer writer accounts lockedCount csvWriter entries)
    (unvisited : clientId ∉ entries.map Sigma.fst) (found : accounts.lookup clientId = some account)
    {error : String}
    (row : csvWriter.writeMessage serializer writer (.ofAccount account) = (.error error, next)) :
    ∃ iteration : Iteration accounts, writeSnapshot serializer writer accounts iteration =
      { result := .error "Unable to serialize output message", writer := next, metrics := none } := by
  obtain ⟨iteration, rest, continues⟩ := Iteration.exists_continuing
    (written.nodup_visit unvisited) (written.found_visit found)
  refine ⟨iteration, ?_⟩
  rw [List.append_assoc] at continues
  rw [written.writeSnapshot_eq continues]
  simp only [List.cons_append, List.map_cons, writeAccounts, row]

end Row

theorem flushes (written : Written serializer writer accounts lockedCount csvWriter entries)
    (all : accounts.keys ⊆ (entries.map Sigma.fst).toFinset) :
    ∃ iteration : Iteration accounts, writeSnapshot serializer writer accounts iteration =
      { result := (csvWriter.flush writer).1
        writer := (csvWriter.flush writer).2
        metrics := if (csvWriter.flush writer).1.isOk then some ⟨accounts.keys.card, lockedCount⟩
          else none } := by
  obtain ⟨iteration, rest, continues⟩ := Iteration.exists_continuing written.nodup written.found
  have nothing : rest = [] := by
    rw [List.eq_nil_iff_forall_not_mem]
    intro entry member
    have found : accounts.lookup entry.1 = some entry.2 :=
      iteration.mem_entries.mp (by rw [continues]; exact List.mem_append_right _ member)
    have visited := all (Finmap.mem_keys.mpr (Finmap.mem_of_lookup_eq_some found))
    have nodup := iteration.nodup_clients
    rw [continues, List.map_append] at nodup
    exact (List.nodup_append.mp nodup).2.2 entry.1 (List.mem_toFinset.mp visited) entry.1
      (List.mem_map_of_mem member) rfl
  refine ⟨iteration, ?_⟩
  rw [written.writeSnapshot_eq continues, nothing]
  rfl

/-- What has reached the writer underneath is the beginning of a snapshot. -/
theorem output_begins (written : Written serializer writer accounts lockedCount csvWriter entries) :
    ∃ iteration : Iteration accounts,
      csvWriter.output <+: Service.snapshotText (iteration.entries.map Sigma.snd) := by
  obtain ⟨iteration, rest, continues⟩ := Iteration.exists_continuing written.nodup written.found
  refine ⟨iteration, csvWriter.output_begins.trans ?_⟩
  obtain ⟨begun, header, rows⟩ := written.rows
  have headerText := (CsvWriter.new.writes_serialize serializer writer CsvWriter.header
    "Failed to serialise csv header").serialized
  rw [← CsvWriter.writeHeader, header] at headerText
  obtain ⟨_, done, left, split, rowsText, complete⟩ :=
    @Service.writeAccounts_written serializer writer (entries.map Sigma.snd) begun 0
  rw [rows] at rowsText complete
  obtain ⟨rfl, _⟩ := complete rfl
  rw [List.append_nil] at split
  dsimp only at headerText rowsText
  rw [rowsText, headerText, continues, List.map_append, ← split, Service.snapshotText,
    ← serializer.flatMap_serialize (Service.plainRecord_snapshot _)]
  simp [CsvWriter.new, CsvWriter.serialized, Service.rows]

end Written

end Written

/-! ## What stays while the snapshot is written -/

section Kept

variable {s t : State heap}

/-- After the acknowledgement no action changes an account. -/
theorem Complete.world_kept (complete : Complete build file s) (taken : s.Takes config build t) :
    t.world = s.world := by
  cases taken with
  | serves advanced => exact (complete.idle.advance advanced).1
  | @fails task failure failed running => cases task <;> rfl
  | loads | receives | leavesLoop | handles | goesOn => rfl

/-- `main` goes on by itself, once it waits no longer. -/
theorem State.main_kept {action : Action} (taken : State.step config build action s = some t)
    (waits : ∀ tasks, s.main ≠ .waiting tasks) (other : ∀ result, action ≠ .writeSnapshot result) :
    t.main = s.main := by
  cases disturbs : action.disturbs with
  | false =>
    cases State.goes_of_step disturbs taken with
    | loads | loaderFails | receives | serves | leavesLoop | handles | handlerReturns => rfl
    | joins waiting | isSignalled waiting | signalDropped waiting => exact absurd waiting (waits _)
    | writes writing => exact absurd rfl (other _)
  | true =>
    obtain ⟨task, failure, _, rfl⟩ := State.stops_of_step disturbs taken
    cases task <;> rfl

end Kept

/-! ## Every interleaving -/

namespace Printing

variable {serializer : Csv.Serializer} {writer : AsyncWrite} {p q : Printing heap}

/-- What an action can do. -/
inductive Goes (serializer : Csv.Serializer) (writer : AsyncWrite) (config : ServiceConfig)
    (build : Build) (p : Printing heap) : Printing heap → Prop where
  | party {action : Action} {next : State heap} (other : ∀ result, action ≠ .writeSnapshot result)
      (taken : State.step config build action p.pipeline = some next) :
      Goes serializer writer config build p { p with pipeline := next }
  | header (beginning : p.snapshot = .beginning) (writing : p.pipeline.main = .writingSnapshot) :
      Goes serializer writer config build p (p.writeHeader serializer writer)
  | row {count lockedCount : Nat} {visited : List ClientId} {clientId : ClientId} {account : Account}
      (iterating : p.snapshot = .iterating count lockedCount visited) (unvisited : clientId ∉ visited)
      (found : p.pipeline.world.accounts.lookup clientId = some account) :
      Goes serializer writer config build p
        (p.writeRow serializer writer count lockedCount visited account clientId)
  | flush {count lockedCount : Nat} {visited : List ClientId}
      (iterating : p.snapshot = .iterating count lockedCount visited)
      (all : p.pipeline.world.accounts.keys ⊆ visited.toFinset) :
      Goes serializer writer config build p (p.flush writer count lockedCount)

theorem goes_of_step {action : PrintAction}
    (taken : step serializer writer config build action p = some q) :
    p.Goes serializer writer config build q := by
  rw [step.eq_def] at taken
  split at taken
  next => cases taken
  next action _ other =>
    obtain ⟨next, moved, rfl⟩ := Option.map_eq_some_iff.mp taken
    exact .party (fun result same => other result same) moved
  next beginning =>
    obtain ⟨writing, begun⟩ := Option.ite_none_right_eq_some.mp taken
    cases begun
    exact .header beginning writing
  next clientId count lockedCount visited iterating =>
    split at taken
    next => cases taken
    next unvisited =>
      obtain ⟨account, found, rfl⟩ := Option.map_eq_some_iff.mp taken
      exact .row iterating unvisited found
  next count lockedCount visited iterating =>
    obtain ⟨all, flushed⟩ := Option.ite_none_right_eq_some.mp taken
    cases flushed
    exact .flush iterating all
  next => cases taken

/-- How far the snapshot of some accounts is. -/
def Prints (serializer : Csv.Serializer) (writer : AsyncWrite) (accounts : Accounts) (main : Main)
    (csvWriter : CsvWriter) : Snapshot → Prop
  | .beginning => csvWriter = .new
  | .iterating count lockedCount visited => main = .writingSnapshot ∧ count = accounts.keys.card ∧
      ∃ entries, entries.map Sigma.fst = visited ∧
        Written serializer writer accounts lockedCount csvWriter entries
  | .finished metrics => ∃ (iteration : Iteration accounts) (result : AnyResult),
      main = .returned result ∧ writeSnapshot serializer writer accounts iteration =
        { result := result, writer := csvWriter, metrics := metrics }

/-- The pipeline below goes on as it does when it writes the snapshot at once. -/
structure Refines (serializer : Csv.Serializer) (writer : AsyncWrite) (config : ServiceConfig)
    (build : Build) (file : List Record) (p : Printing heap) : Prop where
  steps : Steps (State.step config build) (.initial heap file) p.pipeline
  complete : p.snapshot ≠ .beginning → Complete build file p.pipeline
  prints : Prints serializer writer p.pipeline.world.accounts p.pipeline.main p.csvWriter p.snapshot

theorem refines_initial : Refines serializer writer config build file (initial heap file) where
  steps := .refl
  complete := by intro begun; exact absurd rfl begun
  prints := rfl

namespace Refines

variable (refines : Refines serializer writer config build file p)

include refines

theorem complete_of_writing (writing : p.pipeline.main = .writingSnapshot) :
    Complete build file p.pipeline := by
  obtain working | complete := reachable_cases refines.steps
  · exact absurd writing working.noSnapshot
  · exact complete

theorem party {action : Action} {next : State heap} (other : ∀ result, action ≠ .writeSnapshot result)
    (taken : State.step config build action p.pipeline = some next) :
    Refines serializer writer config build file { p with pipeline := next } := by
  have takes := State.takes_of_step taken
  refine ⟨refines.steps.tail ⟨action, taken⟩, fun begun => (refines.complete begun).takes takes, ?_⟩
  have prints := refines.prints
  have complete := refines.complete
  cases stage : p.snapshot with
  | beginning =>
    rw [stage] at prints
    exact prints
  | iterating count lockedCount visited =>
    rw [stage] at prints complete
    obtain ⟨writing, rest⟩ := prints
    have main := State.main_kept taken (by simp [writing]) other
    dsimp only
    rw [(complete (by simp)).world_kept takes, main]
    exact ⟨writing, rest⟩
  | finished metrics =>
    rw [stage] at prints complete
    obtain ⟨iteration, result, returned, rest⟩ := prints
    have main := State.main_kept taken (by simp [returned]) other
    dsimp only
    rw [(complete (by simp)).world_kept takes, main]
    exact ⟨iteration, result, returned, rest⟩

/-- `write_snapshot` returns with what it would have returned at once. -/
theorem returns {run : SnapshotRun} (writing : p.pipeline.main = .writingSnapshot)
    (finished : ∃ iteration : Iteration p.pipeline.world.accounts,
      writeSnapshot serializer writer _ iteration = run) :
    Refines serializer writer config build file (p.returns run) := by
  have taken : State.step config build (.writeSnapshot run.result) p.pipeline =
      some (p.returns run).pipeline := by
    simp only [State.step, writing, Printing.returns]
  obtain ⟨iteration, rfl⟩ := finished
  exact {
    steps := refines.steps.tail ⟨_, taken⟩
    complete := fun _ => (refines.complete_of_writing writing).takes (State.takes_of_step taken)
    prints := ⟨iteration, _, rfl, rfl⟩ }

theorem header (beginning : p.snapshot = .beginning) (writing : p.pipeline.main = .writingSnapshot) :
    Refines serializer writer config build file (p.writeHeader serializer writer) := by
  have new : p.csvWriter = .new := by
    have prints := refines.prints
    rwa [beginning] at prints
  rw [writeHeader, new]
  split
  next error csvWriter failed =>
    refine refines.returns writing ?_
    obtain ⟨iteration, _⟩ : ∃ iteration : Iteration p.pipeline.world.accounts, _ :=
      @Iteration.exists_continuing _ [] .nil (by simp)
    exact ⟨iteration, by rw [writeSnapshot, failed]⟩
  next csvWriter begun =>
    exact {
      steps := refines.steps
      complete := fun _ => refines.complete_of_writing writing
      prints := ⟨writing, rfl, [], rfl, .begins begun⟩ }

theorem row {count lockedCount : Nat} {visited : List ClientId} {clientId : ClientId} {account : Account}
    (iterating : p.snapshot = .iterating count lockedCount visited) (unvisited : clientId ∉ visited)
    (found : p.pipeline.world.accounts.lookup clientId = some account) :
    Refines serializer writer config build file
      (p.writeRow serializer writer count lockedCount visited account clientId) := by
  have prints := refines.prints
  rw [iterating] at prints
  obtain ⟨writing, counted, entries, rfl, written⟩ := prints
  simp only [writeRow]
  split
  next csvWriter row =>
    exact {
      steps := refines.steps
      complete := fun _ => refines.complete_of_writing writing
      prints := ⟨writing, counted, _, by simp, written.visits unvisited found row⟩ }
  next error csvWriter row => exact refines.returns writing (written.fails unvisited found row)

theorem flush {count lockedCount : Nat} {visited : List ClientId}
    (iterating : p.snapshot = .iterating count lockedCount visited)
    (all : p.pipeline.world.accounts.keys ⊆ visited.toFinset) :
    Refines serializer writer config build file (p.flush writer count lockedCount) := by
  have prints := refines.prints
  rw [iterating] at prints
  obtain ⟨writing, rfl, entries, rfl, written⟩ := prints
  exact refines.returns writing (written.flushes all)

end Refines

theorem refines_of_steps (steps : Steps (step serializer writer config build) (initial heap file) p) :
    Refines serializer writer config build file p := by
  refine steps.invariant ?_ refines_initial
  intro action state next taken refines
  cases goes_of_step taken with
  | party other moved => exact refines.party other moved
  | header beginning writing => exact refines.header beginning writing
  | row iterating unvisited found => exact refines.row iterating unvisited found
  | flush iterating all => exact refines.flush iterating all

/-- Before the first row nothing has been written, and then a beginning of the text of a snapshot. -/
theorem Prints.output {accounts : Accounts} {main : Main} {csvWriter : CsvWriter} {snapshot : Snapshot}
    (prints : Prints serializer writer accounts main csvWriter snapshot)
    (written : csvWriter.output ≠ []) :
    snapshot ≠ .beginning ∧ ∃ iteration : Iteration accounts,
      csvWriter.output <+: Service.snapshotText (iteration.entries.map Sigma.snd) := by
  cases snapshot with
  | beginning =>
    rw [Prints] at prints
    rw [prints] at written
    exact absurd rfl written
  | iterating count lockedCount visited =>
    obtain ⟨_, _, entries, _, rows⟩ := prints
    exact ⟨by simp, rows.output_begins⟩
  | finished metrics =>
    obtain ⟨iteration, result, _, run⟩ := prints
    have output := (@Service.writeSnapshot_written serializer writer accounts iteration _ rfl).1
    rw [run] at output
    exact ⟨by simp, iteration, output⟩

end Printing

/-- What a snapshot without an error has written. -/
theorem Printing.Refines.reports {serializer : Csv.Serializer} {writer : AsyncWrite}
    {p : Printing heap} (refines : p.Refines serializer writer config build file)
    (short : file.length ≤ 2 ^ 64) {messages : List InputMessage}
    (read : CsvReader.readAll build 0 file = some messages) {metrics : Option SnapshotMetrics}
    (finished : p.snapshot = .finished metrics) (ok : p.pipeline.main = .returned (.ok ())) :
    Reports p.csvWriter.output (after Accounts.process ∅ messages) ∧
      metrics = some ⟨(after Accounts.process ∅ messages).keys.card,
        (Service.lockedClients (after Accounts.process ∅ messages)).card⟩ := by
  have complete := refines.complete (by rw [finished]; simp)
  have prints := refines.prints
  obtain ⟨messages', read', accounts⟩ := complete.sequential short
  rw [read] at read'
  cases read'
  rw [finished, accounts] at prints
  obtain ⟨iteration, result, returned, run⟩ := prints
  rw [ok] at returned
  cases returned
  have written := @Service.writeSnapshot_written serializer writer _ iteration _ rfl
  rw [run, Service.countP_locked] at written
  obtain ⟨output, metrics⟩ := written.2.2 rfl
  refine ⟨?_, metrics⟩
  rw [output]
  exact Service.reports_snapshotText (Service.ownKeys_after messages) iteration

/-- Every row of the file has been read and applied, and none is on its way any more. -/
structure Processed (build : Build) (file : List Record) (messages : List InputMessage)
    (s : State heap) : Prop where
  loaded : s.loader = .ended (.ok ())
  read : CsvReader.readAll build 0 file = some messages
  applied : s.world.applied = messages
  drained : s.channel = []
  flushed : s.server.buffered = 0

theorem Complete.processed {s : State heap} (complete : Complete build file s)
    (short : file.length ≤ 2 ^ 64) :
    ∃ messages, Processed build file messages s ∧
      s.world.accounts = after Accounts.process ∅ messages := by
  obtain ⟨messages, read, _, inOrder⟩ := complete.applied
  have applied := inOrder (CsvReader.readAll_numbered read short)
  exact ⟨messages, ⟨complete.loaded, read, applied, complete.channel, complete.idle.buffered⟩,
    by rw [complete.accounts, applied]⟩

/-- In every interleaving of the parties with the rows: a run that writes row after row is a run
    that writes the snapshot at once.  Nothing has been written before the loader has read all rows
    of the file and the service has applied them, and then a beginning of a text with one row for
    each client whose balances are those that the file leads to.  When `write_snapshot` returns it
    has done what one call over these accounts does, and without an error it has written the whole
    text. -/
theorem output_correct (heap : PendingHeap) (config : ServiceConfig) (build : Build)
    (file : List Record) (serializer : Csv.Serializer) (writer : AsyncWrite)
    (short : file.length ≤ 2 ^ 64) (p : Printing heap)
    (steps : Steps (Printing.step serializer writer config build) (.initial heap file) p) :
    Steps (State.step config build) (.initial heap file) p.pipeline ∧
    (p.csvWriter.output ≠ [] → ∃ messages text, Processed build file messages p.pipeline ∧
      Reports text (after Accounts.process ∅ messages) ∧ p.csvWriter.output <+: text) ∧
    ∀ metrics, p.snapshot = .finished metrics →
      ∃ messages, Processed build file messages p.pipeline ∧
        ∃ (iteration : Iteration (after Accounts.process ∅ messages)) (result : AnyResult),
          p.pipeline.main = .returned result ∧
          writeSnapshot serializer writer _ iteration =
            { result := result, writer := p.csvWriter, metrics := metrics } ∧
          (result = .ok () → Reports p.csvWriter.output (after Accounts.process ∅ messages)) := by
  have refines := Printing.refines_of_steps steps
  have prints := refines.prints
  refine ⟨refines.steps, ?_, ?_⟩
  · intro written
    obtain ⟨begun, output⟩ := prints.output written
    obtain ⟨messages, processed, accounts⟩ := (refines.complete begun).processed short
    rw [accounts] at output
    obtain ⟨iteration, output⟩ := output
    exact ⟨messages, _, processed,
      Service.reports_snapshotText (Service.ownKeys_after messages) iteration, output⟩
  · intro metrics finished
    have complete := refines.complete (by rw [finished]; simp)
    obtain ⟨messages, processed, accounts⟩ := complete.processed short
    rw [finished, accounts] at prints
    obtain ⟨iteration, result, returned, run⟩ := prints
    refine ⟨messages, processed, iteration, result, returned, run, ?_⟩
    rintro rfl
    exact (refines.reports short processed.read finished returned).1

/-- The handler returns between the header and the row. -/
def printSchedule : List PrintAction :=
  depositSchedule.map .party ++ [.header, .party (.advance .handler), .row 1, .flush]

theorem output_of_deposit :
    ∃ p : Printing (listHeap PendingTransaction.cmp),
      p.csvWriter.output =
        "client,available,held,total,locked\n1,1.0000,0.0000,1.0000,false\n".toList ∧
      ∃ messages text, Processed .debug depositFile messages p.pipeline ∧
        Reports text (after Accounts.process ∅ messages) ∧ p.csvWriter.output <+: text := by
  have writes : (run (Printing.step .bare ⟨fun _ _ => 3, fun _ => false⟩ ⟨1⟩ .debug) printSchedule
      (.initial (listHeap PendingTransaction.cmp) depositFile)).map (fun p => p.csvWriter.output) =
        some "client,available,held,total,locked\n1,1.0000,0.0000,1.0000,false\n".toList := by
    decide +kernel
  obtain ⟨p, ran, output⟩ := Option.map_eq_some_iff.mp writes
  have correct := output_correct _ ⟨1⟩ .debug depositFile .bare ⟨fun _ _ => 3, fun _ => false⟩
    (by decide) p (steps_of_run ran)
  exact ⟨p, output, correct.2.1 (by rw [output]; decide)⟩

end PaymentsEngine.Pipeline
