import RustDns.Chunks
import RustDns.Machine
import RustDns.Text

/-!
# The writer of the query log

The DNS handler sends an entry for each query to a task that writes them to the table
`query_log`.  The task collects the entries and writes them in batches: when a batch is full,
every two seconds, and when the channel is closed.  A batch is written in one transaction; if
that fails, its entries are gone.

`written_of_closed` says what is written in a run: the batches whose write succeeded, in the
order of arrival.  Every entry is in one batch, and no batch is larger than `BATCH_SIZE`.
-/

namespace RustDns.QueryLogWriter

open Text

/-- An entry of the query log. -/
structure QueryLogEntry where
  time : Str
  clientIp : Str
  question : Str
  qtype : Str
  status : Str
  reason : Option Str
  answer : Option Str
  elapsedNs : ℤ
  upstreamNs : Option ℤ
  upstreamName : Option Str
  appId : Option ℤ
deriving DecidableEq

/-- `BATCH_SIZE` of the task. -/
def batchSize : ℕ := 500

/-! ## A batch -/

/-- A value that is bound to a statement. -/
inductive Column where
  | null
  | text (text : Str)
  | int (n : ℤ)
deriving DecidableEq

def Column.ofText : Option Str → Column
  | none => .null
  | some content => .text content

def Column.ofInt : Option ℤ → Column
  | none => .null
  | some n => .int n

/-- The values that `write_batch` binds for an entry, in this order. -/
def QueryLogEntry.columns (entry : QueryLogEntry) : List Column :=
  [.text entry.time, .text entry.clientIp, .text entry.question, .text entry.qtype,
    .text entry.status, .ofText entry.reason, .ofText entry.answer, .int entry.elapsedNs,
    .ofInt entry.upstreamNs, .ofText entry.upstreamName, .ofInt entry.appId]

/-- `FIELDS_PER_ROW`. -/
def fieldsPerRow : ℕ := 11

/-- `MAX_ROWS_PER_STMT`. -/
def maxRowsPerStmt : ℕ := 32766 / fieldsPerRow

/-- The numbers of the placeholders `($1,$2,…),($12,…),…`, row by row. -/
def placeholders (chunk : List QueryLogEntry) : List (List ℕ) :=
  chunk.zipIdx.map fun row =>
    (List.range fieldsPerRow).map fun column => row.2 * fieldsPerRow + (column + 1)

/-- The values that are bound for a chunk. -/
def bound (chunk : List QueryLogEntry) : List Column := chunk.flatMap QueryLogEntry.columns

/-- The rows of `INSERT INTO query_log … VALUES`, where `$i` is the value that is bound at `i`. -/
def insertedRows (values : List (List ℕ)) (bound : List Column) : List (List Column) :=
  values.map fun row => row.map fun index => bound.getD (index - 1) .null

/-- `batch.chunks(size)`; there are no more chunks than entries. -/
def chunksRounds (size : ℕ) : (rounds : ℕ) → List QueryLogEntry → List (List QueryLogEntry)
  | 0, _ => []
  | rounds + 1, batch =>
    if batch = [] then [] else batch.take size :: chunksRounds size rounds (batch.drop size)

def chunks (size : ℕ) (batch : List QueryLogEntry) : List (List QueryLogEntry) :=
  chunksRounds size batch.length batch

/-- Which statements of a transaction fail: `BEGIN`, the insertion of a chunk, `COMMIT`. -/
structure Faults where
  begin : Bool := false
  insert : ℕ → Bool := fun _ => false
  commit : Bool := false

/-- No statement fails. -/
def Faults.AreNone (faults : Faults) : Prop :=
  faults.begin = false ∧ (∀ chunk, faults.insert chunk = false) ∧ faults.commit = false

/-- The insertions of the chunks, up to one that fails. -/
def insertChunks (faults : Faults) : (chunk : ℕ) → List (List QueryLogEntry) →
    List (List Column) → Option (List (List Column))
  | _, [], rows => some rows
  | index, chunk :: rest, rows =>
    if faults.insert index then none
    else insertChunks faults (index + 1) rest
      (rows ++ insertedRows (placeholders chunk) (bound chunk))

/-- `write_batch`: whether it succeeds, and the table after it.  A transaction that is not
committed leaves the table as it was. -/
def writeBatch (faults : Faults) (batch : List QueryLogEntry) (rows : List (List Column)) :
    Bool × List (List Column) :=
  if batch = [] then (true, rows)
  else if faults.begin then (false, rows)
  else
    match insertChunks faults 0 (chunks maxRowsPerStmt batch) rows with
    | none => (false, rows)
    | some after => if faults.commit then (false, rows) else (true, after)

/-! ## The task -/

structure Alert where
  id : Str
  clientId : Str
  message : Str
  createdAt : Str

structure AlertEnv where
  id : Str
  createdAt : Str

/-- A batch that was to be written, and whether that succeeded, which the code only logs. -/
structure Attempt where
  batch : List QueryLogEntry
  faults : Faults
  succeeded : Bool

/-- The task, the table, and what was done so far.  `block_counts` has the number of blocked
queries of a client, and the time of the first one in nanoseconds. -/
structure Writer where
  batch : List QueryLogEntry := []
  blockCounts : List (Str × ℕ × ℕ) := []
  closed : Bool := false
  rows : List (List Column) := []
  alerts : List Alert := []
  attempts : List Attempt := []

inductive Event where
  | received (entry : QueryLogEntry) (now : ℕ) (alertEnv : AlertEnv) (faults : Faults)
  | tick (now : ℕ) (faults : Faults)
  | closed (faults : Faults)

/-- `as_secs` of a duration in nanoseconds. -/
def seconds (duration : ℕ) : ℕ := duration / 10 ^ 9

def countBlocked (now : ℕ) (tracker : ℕ × ℕ) : ℕ × ℕ :=
  if 60 < seconds (now - tracker.2) then (1, now) else (tracker.1 + 1, tracker.2)

def alertMessage (clientIp : Str) : Str :=
  str "Client " ++ clientIp ++
    str " triggered 50 blocked queries within a minute. Potential malware activity."

def detect (entry : QueryLogEntry) (now : ℕ) (alertEnv : AlertEnv) (writer : Writer) : Writer :=
  if entry.status = str "blocked" then
    let tracker := (writer.blockCounts.lookup entry.clientIp).getD (0, now)
    let counted := countBlocked now tracker
    let isReset : Bool := 60 < seconds (now - tracker.2)
    { writer with
      blockCounts := (entry.clientIp, counted) ::
        writer.blockCounts.filter (·.1 ≠ entry.clientIp)
      alerts :=
        if ! isReset && counted.1 = 50 then
          writer.alerts ++ [⟨alertEnv.id, entry.clientIp, alertMessage entry.clientIp,
            alertEnv.createdAt⟩]
        else writer.alerts }
  else writer

/-- `flush`: the batch is written, and emptied in any case. -/
def flush (faults : Faults) (writer : Writer) : Writer :=
  let (succeeded, rows) := writeBatch faults writer.batch writer.rows
  { writer with
    batch := [], rows, attempts := writer.attempts ++ [⟨writer.batch, faults, succeeded⟩] }

def flushRest (faults : Faults) (writer : Writer) : Writer :=
  if writer.batch = [] then writer else flush faults writer

/-- One round of the loop in `run`; after the channel was closed there is none. -/
def step (writer : Writer) (event : Event) : Writer × Unit :=
  if writer.closed then (writer, ())
  else
    match event with
    | .received entry now alertEnv faults =>
      let writer := detect entry now alertEnv writer
      let writer := { writer with batch := writer.batch ++ [entry] }
      (if batchSize ≤ writer.batch.length then flush faults writer else writer, ())
    | .tick now faults =>
      let writer := flushRest faults writer
      ({ writer with
        blockCounts := writer.blockCounts.filter fun count =>
          seconds (now - count.2.2) < 120 }, ())
    | .closed faults => ({ flushRest faults writer with closed := true }, ())

/-! ## Writing a batch -/

variable (chunk : List QueryLogEntry) (before : List Column) (faults : Faults)

theorem map_range_getD (row after : List Column) :
    ((List.range row.length).map fun column =>
      (before ++ row ++ after).getD (before.length + (column + 1) - 1) .null) = row := by
  refine List.ext_getElem (by simp) fun index hleft hright => ?_
  simp only [List.getElem_map, List.getElem_range]
  rw [List.append_assoc, show before.length + (index + 1) - 1 = before.length + index by omega,
    List.getD_append_right _ _ _ _ (Nat.le_add_right _ _), Nat.add_sub_cancel_left,
    List.getD_append _ _ _ _ hright, List.getD_eq_getElem _ _ hright]

theorem insertedRows_zipIdx (count : ℕ) (hbefore : before.length = count * fieldsPerRow) :
    insertedRows ((chunk.zipIdx count).map fun row => (List.range fieldsPerRow).map fun column =>
        row.2 * fieldsPerRow + (column + 1)) (before ++ bound chunk) =
      chunk.map QueryLogEntry.columns := by
  induction chunk generalizing before count with
  | nil => rfl
  | cons entry rest ih =>
    have hrow := map_range_getD before entry.columns (bound rest)
    have hlength : (before ++ entry.columns).length = (count + 1) * fieldsPerRow := by
      rw [List.length_append, hbefore, Nat.add_mul]
      rfl
    have hbound : before ++ bound (entry :: rest) = before ++ entry.columns ++ bound rest := by
      simp [bound]
    rw [List.zipIdx_cons, List.map_cons, List.map_cons, hbound, insertedRows, List.map_cons]
    refine List.cons_eq_cons.mpr ⟨?_, ih _ _ hlength⟩
    rw [List.map_map, ← hbefore]
    exact hrow

theorem insertedRows_eq :
    insertedRows (placeholders chunk) (bound chunk) = chunk.map QueryLogEntry.columns :=
  insertedRows_zipIdx chunk [] 0 rfl

theorem chunks_eq (size : ℕ) (batch : List QueryLogEntry) :
    chunks size batch = Chunks.chunks size batch := by
  unfold chunks Chunks.chunks
  generalize batch.length = rounds
  induction rounds generalizing batch with
  | zero => rfl
  | succ rounds ih => simp only [chunksRounds, Chunks.chunksRounds, List.isEmpty_iff, ih]

theorem insertChunks_eq (index : ℕ) (chunks : List (List QueryLogEntry))
    (rows : List (List Column)) :
    insertChunks faults index chunks rows = none ∨ insertChunks faults index chunks rows =
        some (rows ++ chunks.flatten.map QueryLogEntry.columns) := by
  induction chunks generalizing index rows with
  | nil => exact Or.inr (by simp [insertChunks])
  | cons chunk rest ih =>
    rw [insertChunks]
    split_ifs
    · exact Or.inl rfl
    · simpa [insertedRows_eq] using ih (index + 1) (rows ++ chunk.map QueryLogEntry.columns)

theorem insertChunks_isSome (hnone : ∀ chunk, faults.insert chunk = false) (index : ℕ)
    (chunks : List (List QueryLogEntry)) (rows : List (List Column)) :
    (insertChunks faults index chunks rows).isSome = true := by
  induction chunks generalizing index rows with
  | nil => rfl
  | cons chunk rest ih =>
    rw [insertChunks, hnone, if_neg Bool.false_ne_true]
    exact ih _ _

theorem writeBatch_succeeds {faults : Faults} (hnone : faults.AreNone) (batch : List QueryLogEntry)
    (rows : List (List Column)) : (writeBatch faults batch rows).1 = true := by
  obtain ⟨hbegin, hinsert, hcommit⟩ := hnone
  obtain ⟨after, hafter⟩ := Option.isSome_iff_exists.mp
    (insertChunks_isSome faults hinsert 0 (chunks maxRowsPerStmt batch) rows)
  by_cases hbatch : batch = []
  · simp [writeBatch, hbatch]
  · simp [writeBatch, hbatch, hbegin, hcommit, hafter]

theorem writeBatch_eq (batch : List QueryLogEntry) (rows : List (List Column)) :
    (writeBatch faults batch rows).2 =
      rows ++ if (writeBatch faults batch rows).1 then batch.map QueryLogEntry.columns else [] := by
  have hchunks : (chunks maxRowsPerStmt batch).flatten = batch := by
    rw [chunks_eq, Chunks.flatten_chunks (by decide)]
  by_cases hbatch : batch = []
  · simp [writeBatch, hbatch]
  cases hbegin : faults.begin with
  | true => simp [writeBatch, hbatch, hbegin]
  | false =>
    rcases insertChunks_eq faults 0 (chunks maxRowsPerStmt batch) rows with hinsert | hinsert
    · simp [writeBatch, hbatch, hbegin, hinsert]
    · rw [hchunks] at hinsert
      cases hcommit : faults.commit <;>
        simp [writeBatch, hbatch, hbegin, hinsert, hcommit]

/-! ## Runs -/

def received : List Event → List QueryLogEntry :=
  List.filterMap fun
    | .received entry _ _ _ => some entry
    | .tick _ _ | .closed _ => none

/-- What was done with the entries so far: each is in a batch that was to be written, in the
order of arrival, or still waits; and the table has the batches whose write succeeded. -/
structure Invariant (entries : List QueryLogEntry) (writer : Writer) : Prop where
  batches : writer.attempts.flatMap Attempt.batch ++ writer.batch = entries
  room : writer.batch.length < batchSize
  sizes : ∀ attempt ∈ writer.attempts, attempt.batch.length ≤ batchSize
  succeeds : ∀ attempt ∈ writer.attempts, attempt.faults.AreNone → attempt.succeeded = true
  rows : writer.rows = (writer.attempts.filter Attempt.succeeded).flatMap
    (·.batch.map QueryLogEntry.columns)

section Runs

variable {entries : List QueryLogEntry} {writer : Writer}

theorem invariant_flush (faults : Faults)
    (hbatches : writer.attempts.flatMap Attempt.batch ++ writer.batch = entries)
    (hsize : writer.batch.length ≤ batchSize)
    (hsizes : ∀ attempt ∈ writer.attempts, attempt.batch.length ≤ batchSize)
    (hsucceeds : ∀ attempt ∈ writer.attempts, attempt.faults.AreNone → attempt.succeeded = true)
    (hrows : writer.rows = (writer.attempts.filter Attempt.succeeded).flatMap
      (·.batch.map QueryLogEntry.columns)) :
    Invariant entries (flush faults writer) where
  batches := by simpa [flush] using hbatches
  room := by simp [flush, batchSize]
  sizes := by
    refine List.forall_mem_append.mpr ⟨hsizes, List.forall_mem_singleton.mpr hsize⟩
  succeeds := List.forall_mem_append.mpr
    ⟨hsucceeds, List.forall_mem_singleton.mpr fun hnone => writeBatch_succeeds hnone _ _⟩
  rows := by
    have hwrite := writeBatch_eq faults writer.batch writer.rows
    simp only [flush, List.filter_append, List.flatMap_append, ← hrows]
    rw [hwrite]
    cases (writeBatch faults writer.batch writer.rows).1 <;> simp

theorem Invariant.flushRest (hinvariant : Invariant entries writer) (faults : Faults) :
    Invariant entries (flushRest faults writer) ∧
      (QueryLogWriter.flushRest faults writer).batch = [] := by
  unfold QueryLogWriter.flushRest
  split_ifs with hbatch
  · exact ⟨hinvariant, hbatch⟩
  · exact ⟨invariant_flush faults hinvariant.batches hinvariant.room.le hinvariant.sizes
      hinvariant.succeeds hinvariant.rows, rfl⟩

theorem detect_eq (entry : QueryLogEntry) (now : ℕ) (alertEnv : AlertEnv) (writer : Writer) :
    ∃ blockCounts alerts,
      detect entry now alertEnv writer = { writer with blockCounts, alerts } := by
  unfold detect
  split_ifs
  · exact ⟨_, _, rfl⟩
  · exact ⟨_, _, rfl⟩

theorem Invariant.congr (hinvariant : Invariant entries writer) {other : Writer}
    (hbatch : other.batch = writer.batch) (hattempts : other.attempts = writer.attempts)
    (hrows : other.rows = writer.rows) : Invariant entries other where
  batches := by rw [hbatch, hattempts, hinvariant.batches]
  room := hbatch ▸ hinvariant.room
  sizes := hattempts ▸ hinvariant.sizes
  succeeds := hattempts ▸ hinvariant.succeeds
  rows := by rw [hrows, hattempts, hinvariant.rows]

theorem invariant_step (hinvariant : Invariant entries writer) (hopen : writer.closed = false)
    (event : Event) : Invariant (entries ++ received [event]) (step writer event).1 := by
  cases event with
  | received entry now alertEnv faults =>
    obtain ⟨blockCounts, alerts, hdetect⟩ := detect_eq entry now alertEnv writer
    have hroom := hinvariant.room
    have hlength : (writer.batch ++ [entry]).length ≤ batchSize := by simpa using hroom
    have hbatches : writer.attempts.flatMap Attempt.batch ++ (writer.batch ++ [entry]) =
        entries ++ [entry] := by
      rw [← List.append_assoc, hinvariant.batches]
    simp only [step, hopen, hdetect, if_neg Bool.false_ne_true]
    split_ifs with hfull
    · exact invariant_flush faults hbatches hlength hinvariant.sizes hinvariant.succeeds
        hinvariant.rows
    · exact ⟨hbatches, not_le.mp hfull, hinvariant.sizes, hinvariant.succeeds, hinvariant.rows⟩
  | tick now faults =>
    obtain ⟨hflush, -⟩ := hinvariant.flushRest faults
    simp only [step, hopen, if_neg Bool.false_ne_true, received, List.filterMap_cons,
      List.filterMap_nil, List.append_nil]
    exact hflush.congr rfl rfl rfl
  | closed faults =>
    obtain ⟨hflush, -⟩ := hinvariant.flushRest faults
    simp only [step, hopen, if_neg Bool.false_ne_true, received, List.filterMap_cons,
      List.filterMap_nil, List.append_nil]
    exact hflush.congr rfl rfl rfl

def Event.isOpen : Event → Bool
  | .closed _ => false
  | .received _ _ _ _ | .tick _ _ => true

theorem closed_flushRest (faults : Faults) (writer : Writer) :
    (flushRest faults writer).closed = writer.closed := by
  unfold flushRest flush
  split_ifs <;> rfl

theorem closed_step (hopen : writer.closed = false) {event : Event} (hevent : event.isOpen = true) :
    (step writer event).1.closed = false := by
  cases event with
  | received entry now alertEnv faults =>
    obtain ⟨blockCounts, alerts, hdetect⟩ := detect_eq entry now alertEnv writer
    simp only [step, hdetect, hopen, if_neg Bool.false_ne_true]
    split_ifs
    · rfl
    · rfl
  | tick now faults =>
    simp only [step, hopen, if_neg Bool.false_ne_true]
    exact (closed_flushRest faults writer).trans hopen
  | closed faults => cases hevent

theorem invariant_run (hinvariant : Invariant entries writer) (hopen : writer.closed = false)
    (events : List Event) (hevents : ∀ event ∈ events, event.isOpen = true) :
    Invariant (entries ++ received events) (Machine.run step writer events) ∧
      (Machine.run step writer events).closed = false := by
  induction events generalizing entries writer with
  | nil => exact ⟨(List.append_nil entries).symm ▸ hinvariant, hopen⟩
  | cons event rest ih =>
    obtain ⟨hevent, hrest⟩ := List.forall_mem_cons.mp hevents
    have hreceived : received (event :: rest) = received [event] ++ received rest := by
      rw [received, ← List.filterMap_append]
      rfl
    rw [hreceived, ← List.append_assoc]
    exact ih (invariant_step hinvariant hopen event) (closed_step hopen hevent) hrest

/-- What was written of the entries. -/
structure Written (entries : List QueryLogEntry) (writer : Writer) : Prop where
  /-- The rows are those of the batches whose write succeeded. -/
  rows : writer.rows = (writer.attempts.filter Attempt.succeeded).flatMap
    (·.batch.map QueryLogEntry.columns)
  /-- Every entry is in one batch. -/
  batches : writer.attempts.flatMap Attempt.batch = entries
  sizes : ∀ attempt ∈ writer.attempts, attempt.batch.length ≤ batchSize
  /-- A batch is written if no statement fails. -/
  succeeds : ∀ attempt ∈ writer.attempts, attempt.faults.AreNone → attempt.succeeded = true
  /-- If every write succeeds nothing is lost. -/
  all : (∀ attempt ∈ writer.attempts, attempt.succeeded = true) →
    writer.rows = entries.map QueryLogEntry.columns

theorem Invariant.written (hinvariant : Invariant entries writer) (hbatch : writer.batch = []) :
    Written entries writer where
  rows := hinvariant.rows
  batches := by simpa [hbatch] using hinvariant.batches
  sizes := hinvariant.sizes
  succeeds := hinvariant.succeeds
  all hall := by
    have hbatches : writer.attempts.flatMap Attempt.batch = entries := by
      simpa [hbatch] using hinvariant.batches
    rw [hinvariant.rows, List.filter_eq_self.mpr hall, ← hbatches, List.map_flatMap]

end Runs

/-- **What the writer writes.**  When the channel is closed, whatever writes have failed, every
entry that was received was in one batch, no batch was too large, and the table has the batches
whose write succeeded, in the order of arrival.  A write succeeds if none of its statements
fails. -/
theorem written_of_closed (events : List Event) (hevents : ∀ event ∈ events, event.isOpen = true)
    (faults : Faults) :
    Written (received events) (Machine.run step {} (events ++ [.closed faults])) := by
  have hinit : Invariant [] {} := ⟨rfl, by decide, by simp, by simp, rfl⟩
  obtain ⟨hinvariant, hopen⟩ := invariant_run hinit rfl events hevents
  obtain ⟨hflush, hbatch⟩ := hinvariant.flushRest faults
  have hlast : Machine.run step {} (events ++ [.closed faults]) =
      (step (Machine.run step {} events) (.closed faults)).1 := List.foldl_concat _ _ _ _
  rw [hlast]
  simp only [step, hopen, if_neg Bool.false_ne_true]
  exact Invariant.written (hflush.congr rfl rfl rfl) hbatch

/-! ### A write that fails -/

section Failure

def entryFor (question : String) : QueryLogEntry where
  time := str "2026-02-01T12:00:00+00:00"
  clientIp := str "10.0.0.7"
  question := str question
  qtype := str "A"
  status := str "allowed"
  reason := none
  answer := none
  elapsedNs := 1200
  upstreamNs := none
  upstreamName := none
  appId := none

/-- Two entries whose transaction is not committed, and one more. -/
def failingRun : List Event :=
  [.received (entryFor "a.example") 0 ⟨[], []⟩ {}, .received (entryFor "b.example") 1 ⟨[], []⟩ {},
    .tick 2 { commit := true }, .received (entryFor "c.example") 3 ⟨[], []⟩ {}]

theorem written_failingRun :
    Written (received failingRun) (Machine.run step {} (failingRun ++ [.closed {}])) :=
  written_of_closed failingRun (by decide) {}

end Failure

end RustDns.QueryLogWriter
