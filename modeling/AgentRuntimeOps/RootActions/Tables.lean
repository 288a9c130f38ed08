import AgentRuntimeOps.Lib.Table
import AgentRuntimeOps.Lib.Tx
import AgentRuntimeOps.RootActions.Admission
import AgentRuntimeOps.RootActions.Authorization
import AgentRuntimeOps.RootActions.Receipts

/-!
# The tables of the root-owned store

The schema of `posix_store.py`: one table per `CREATE TABLE`, keyed by its primary key, with the
further `UNIQUE` constraints checked on insertion.  A violated constraint is the `IntegrityError`
that `_execute_insert` turns into a `StorageConflict`.

The ledger is append-only; its `AUTOINCREMENT` sequence counts its rows, and an insertion beyond
the largest row id is refused by the database.  The foreign keys of the schema hold because every
method reads the row it refers to before it inserts.
-/

namespace AgentRuntimeOps.RootActions

open AgentRuntimeOps.Lib

/-! ## Rows -/

/-- A row of `root_action_jobs`. -/
structure JobRow where
  job : SealedJob
  submission : SubmissionMetadata
  deriving DecidableEq

/-- A row of `root_action_receipts`. -/
structure ReceiptRow where
  receiptDigest : String
  jobId : String
  jobDigest : String
  operationId : String
  kind : String
  canonicalReceipt : Json
  deriving DecidableEq

/-- A row of `root_action_receipt_current`. -/
structure ReceiptPointer where
  jobId : String
  receiptDigest : String
  deriving DecidableEq

/-- A row of `root_action_quarantine`. -/
structure QuarantineRow where
  jobId : String
  receiptDigest : String
  rootStorageId : String
  deriving DecidableEq

/-- A row of `root_action_auth_credentials`. -/
structure CredentialRow where
  credential : RegisteredCredential
  credentialFingerprint : String
  deriving DecidableEq

/-- The database of `PosixRootActionStore`. -/
structure Store where
  jobs : Table JobRow String (fun row => row.job.jobId)
  records : Table JobRecord String (fun row => row.jobId)
  ledger : List LedgerEntry
  rawReceipts : Table RawReceiptArtifact String (fun row => row.reference.jobId)
  receipts : Table ReceiptRow String (fun row => row.receiptDigest)
  receiptCurrent : Table ReceiptPointer String (fun row => row.jobId)
  quarantine : Table QuarantineRow String (fun row => row.jobId)
  bootstraps : Table BootstrapSession String (fun row => row.bootstrapId)
  credentials : Table CredentialRow (List UInt8) (fun row => row.credential.credentialId)
  ceremonies : Table PendingCeremony String (fun row => row.ceremonyId)
  approvals : Table ApprovalRecord String (fun row => row.approvalId)

/-- The store that `_initialize_schema` creates. -/
def Store.empty : Store :=
  ⟨.empty, .empty, [], .empty, .empty, .empty, .empty, .empty, .empty, .empty, .empty⟩

/-- A method of the store: it reads and writes the database or raises. -/
abbrev StoreTx := Tx Store Exn

/-! ## Insertion under constraints -/

section insertion

variable {ρ κ : Type} {key : ρ → κ} [DecidableEq κ]

/-- `_execute_insert`: a row whose key or whose further unique column (`clash`) is taken is a
`StorageConflict`. -/
def insertRow (t : Table ρ κ key) (clash : ρ → Bool) (row : ρ) (message : String) :
    Except Exn (Table ρ κ key) := do
  require (t.rows.any clash = false) (Exn.storageConflict message)
  orRaise (t.insert? row) (Exn.storageConflict message)

lemma insertRow_ok {t t' : Table ρ κ key} {clash : ρ → Bool} {row : ρ} {message : String} :
    insertRow t clash row message = .ok t' ↔
      (∀ r ∈ t.rows, clash r = false) ∧ t.insert? row = some t' := by
  unfold insertRow
  simp only [except_bind_ok, require_ok, exists_const, orRaise_ok, List.any_eq_false,
    Bool.not_eq_true]

/-- An update that must hit exactly one row, as the `rowcount` checks demand. -/
def updateOne (t : Table ρ κ key) (p : ρ → Bool) (f : ρ → ρ) (hf : ∀ r, key (f r) = key r)
    (message : String) : Except Exn (Table ρ κ key) := do
  require (t.countWhere p = 1) (Exn.storageConflict message)
  return t.updateWhere p f hf

omit [DecidableEq κ] in
lemma updateOne_ok {t t' : Table ρ κ key} {p : ρ → Bool} {f : ρ → ρ}
    {hf : ∀ r, key (f r) = key r} {message : String} :
    updateOne t p f hf message = .ok t' ↔ t.countWhere p = 1 ∧ t.updateWhere p f hf = t' := by
  unfold updateOne
  simp only [except_bind_ok, require_ok, exists_const, except_pure_ok]

end insertion

/-- The largest row id of the database. -/
def maxRowId : Nat := 2 ^ 63 - 1

/-- Append a row to the ledger: `UNIQUE(job_id, event_id)` and the next sequence number. -/
def insertLedgerRow (ledger : List LedgerEntry) (row : Nat → LedgerEntry) (message : String) :
    Except Exn (List LedgerEntry) := do
  let entry := row (ledger.length + 1)
  require (ledger.length < maxRowId) ⟨.operationalError, "database or disk is full"⟩
  require (ledger.any (fun e => e.jobId = entry.jobId && e.eventId = entry.eventId) = false)
    (Exn.storageConflict message)
  return ledger ++ [entry]

lemma insertLedgerRow_ok {ledger ledger' : List LedgerEntry} {row : Nat → LedgerEntry}
    {message : String} :
    insertLedgerRow ledger row message = .ok ledger' ↔
      ledger.length < maxRowId ∧
        (∀ e ∈ ledger, e.jobId = (row (ledger.length + 1)).jobId →
          e.eventId ≠ (row (ledger.length + 1)).eventId) ∧
        ledger ++ [row (ledger.length + 1)] = ledger' := by
  unfold insertLedgerRow
  simp only [except_bind_ok, require_ok, exists_const, except_pure_ok, List.any_eq_false,
    Bool.and_eq_true, decide_eq_true_eq, not_and]

end AgentRuntimeOps.RootActions
