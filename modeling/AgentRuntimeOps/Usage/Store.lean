import AgentRuntimeOps.Lib.Table
import AgentRuntimeOps.Lib.Tx
import AgentRuntimeOps.Usage.Ledger

/-!
# The central usage store

`domain/usage_store.py` on the tables of the usage database.  A statement may raise an exception of
the driver at any point (`faults`); a transaction that raises is rolled back, and a commit that
raises has not committed.  The row lock that `SELECT … FOR UPDATE` takes on the cursor lasts until
the end of the transaction, so that the pages of one runtime instance are stored one after the
other.

The unique keys of `provider_usage_call` are not modelled: an insertion that would violate them
appears as a statement that raises.  A JSON column gives back the value that it was given.
-/

namespace AgentRuntimeOps.Usage

open AgentRuntimeOps.Lib

/-! ## Rows -/

/-- `RuntimeUsageStamp` -/
structure Stamp where
  instanceId : String
  linuxAccount : String
  publicHost : String
  family : String
  runtimeClass : String
  bindingDigest : String
  containerId : String
  wrapperImage : String
  productImage : String
  opsRepoCommit : String
  collectedAt : String
  deriving DecidableEq, Repr

/-- What `_assignment_for_call` answers. -/
structure Assignment where
  intervalId : Option Int
  mbId : Option String
  status : String
  deriving DecidableEq, Repr

/-- A row of `provider_usage_call`.  The columns that are fields of the stamp or of the receipt are
read off these. -/
structure CallRow where
  stamp : Stamp
  coverageStatus : String
  coverageDigest : String
  receipt : Json
  startedAt : Int
  completedAt : Int
  assignment : Assignment
  collectedAt : Int

namespace CallRow

/-- `runtime_instance_id` -/
def instanceId (row : CallRow) : String := row.stamp.instanceId

/-- `product_family` -/
def family (row : CallRow) : String := row.stamp.family

/-- `call_id` -/
def callId (row : CallRow) : String := Usage.callId row.receipt

/-- `product_ledger_seq` -/
def seq (row : CallRow) : Int := ledgerSeq row.receipt

/-- `receipt_digest` -/
def digest (row : CallRow) : String := digestOf row.receipt

end CallRow

/-- A row of `provider_usage_coverage_manifest`. -/
structure ManifestRow where
  digest : String
  family : String
  status : String
  manifest : Json
  firstCollectedAt : Int
  lastCollectedAt : Int

/-- `last_status` -/
inductive CursorStatus where
  | never
  | ok
  | failed
  | conflict
  deriving DecidableEq, Repr

/-- A row of `usage_collection_cursor`. -/
structure CursorRow where
  instanceId : String
  linuxAccount : String
  publicHost : String
  family : String
  runtimeClass : String
  bindingDigest : String
  lastLedgerSeq : Int
  lastHighWatermark : Option Int
  lastSuccessAt : Option Int
  lastAttemptAt : Option Int
  lastStatus : CursorStatus
  lastErrorCode : Option String
  lastErrorDetail : Option String
  coverage : Option Json
  wrapperImage : Option String
  productImage : Option String
  containerId : Option String

/-- A row of `usage_collection_conflict`. -/
structure ConflictRow where
  instanceId : String
  family : String
  callId : String
  seq : Int
  kind : String
  existingDigest : String
  observedDigest : String
  receipt : Json
  detectedAt : Int

/-- A row of `slot_assignment_interval`. -/
structure Interval where
  id : Int
  agentId : String
  mbId : String
  effectiveFrom : Int
  effectiveTo : Option Int

/-- The tables. -/
structure Db where
  calls : List CallRow
  manifests : Table ManifestRow String ManifestRow.digest
  cursors : Table CursorRow String CursorRow.instanceId
  conflicts : List ConflictRow
  intervals : List Interval

/-! ## Statements -/

/-- A connection in a transaction: what it sees of the tables, and how many statements it has
executed. -/
structure Conn where
  db : Db
  statements : Nat

/-- The statements at which the driver raises, and what it says. -/
abbrev Faults : Type := Nat → Option String

/-- An exception of the driver. -/
def databaseError (detail : String) : Raised := .other "OperationalError" detail

/-- `cursor.execute`. -/
def execute {α : Type} (faults : Faults) (f : Db → Except Raised (α × Db)) : Tx Conn Raised α :=
  fun c =>
    match faults c.statements with
    | some detail => (.error (databaseError detail), { c with statements := c.statements + 1 })
    | none =>
        match f c.db with
        | .ok (a, db) => (.ok a, { db := db, statements := c.statements + 1 })
        | .error e => (.error e, { c with statements := c.statements + 1 })

/-- A `SELECT`. -/
def select {α : Type} (faults : Faults) (f : Db → α) : Tx Conn Raised α :=
  execute faults fun db => .ok (f db, db)

/-- An `INSERT` or an `UPDATE`. -/
def change (faults : Faults) (f : Db → Db) : Tx Conn Raised Unit :=
  execute faults fun db => .ok ((), f db)

section store

variable [PythonText]

/-- `_sql_timestamp`. -/
def sqlTimestamp (value : String) : Except Raised Int :=
  match PythonText.fromisoformat (replaceZulu value) with
  | .invalid => throw (.contract ("invalid receipt timestamp: " ++ value))
  | .naive => throw (.contract ("receipt timestamp must include a timezone: " ++ value))
  | .overflow => throw (.other "OverflowError" "date value out of range")
  | .utc micros => return micros

/-! ## The cursor -/

/-- The row that `INSERT IGNORE` writes. -/
def newCursor (stamp : Stamp) : CursorRow where
  instanceId := stamp.instanceId
  linuxAccount := stamp.linuxAccount
  publicHost := stamp.publicHost
  family := stamp.family
  runtimeClass := stamp.runtimeClass
  bindingDigest := stamp.bindingDigest
  lastLedgerSeq := 0
  lastHighWatermark := none
  lastSuccessAt := none
  lastAttemptAt := none
  lastStatus := .never
  lastErrorCode := none
  lastErrorDetail := none
  coverage := none
  wrapperImage := none
  productImage := none
  containerId := none

/-- `INSERT IGNORE INTO usage_collection_cursor`. -/
def insertIgnore (row : CursorRow) (db : Db) : Db :=
  match db.cursors.insert? row with
  | some cursors => { db with cursors := cursors }
  | none => db

/-- `_ensure_cursor_locked`. -/
def ensureCursorLocked (faults : Faults) (stamp : Stamp) (expectedAfter : Int) :
    Tx Conn Raised Unit := do
  change faults (insertIgnore (newCursor stamp))
  let found ← select faults fun db => db.cursors.find? stamp.instanceId
  let row ← Tx.ofExcept (orRaise found (.contract "usage cursor disappeared during collection"))
  Tx.ofExcept (check (row.family = stamp.family) "usage cursor product family changed")
  Tx.ofExcept (check (row.lastLedgerSeq = expectedAfter)
    ("usage cursor raced: expected=" ++ toString expectedAfter ++ " actual=" ++
      toString row.lastLedgerSeq))

/-- `UPDATE usage_collection_cursor … WHERE runtime_instance_id`. -/
def Db.updateCursor (db : Db) (instanceId : String) (f : CursorRow → CursorRow)
    (hf : ∀ row, (f row).instanceId = row.instanceId) : Db :=
  { db with cursors := db.cursors.updateWhere (fun row => row.instanceId = instanceId) f hf }

/-! ## Assignments and conflicts -/

/-- `_assignment_for_call`. -/
def assignmentForCall (faults : Faults) (linuxAccount : String) (startedAt : Int) :
    Tx Conn Raised Assignment := do
  let rows ← select faults fun db => db.intervals.filter fun row =>
    row.agentId = linuxAccount ∧ row.effectiveFrom ≤ startedAt ∧
      ∀ till ∈ row.effectiveTo, startedAt < till
  match rows with
  | [] => return { intervalId := none, mbId := none, status := "unavailable" }
  | [row] => return { intervalId := some row.id, mbId := some row.mbId, status := "matched" }
  | _ => Tx.raise (.contract ("overlapping assignment intervals for " ++ linuxAccount))

/-- The row that a conflict leaves in the cursor's table. -/
def conflictedCursor (moment : Int) (kind detail : String) (row : CursorRow) : CursorRow :=
  { row with
    lastStatus := .conflict
    lastAttemptAt := some moment
    lastErrorCode := some kind
    lastErrorDetail := some detail }

omit [PythonText] in
lemma conflictedCursor_instanceId (moment : Int) (kind detail : String) (row : CursorRow) :
    (conflictedCursor moment kind detail row).instanceId = row.instanceId := rfl

/-- `_record_conflict`. -/
def recordConflict (faults : Faults) (stamp : Stamp) (receipt : Json) (kind : String)
    (existingDigest : String) : Tx Conn Raised Unit := do
  let _ ← Tx.ofExcept (canonicalJsonBytes receipt)
  let moment ← Tx.ofExcept (sqlTimestamp stamp.collectedAt)
  change faults fun db => { db with
    conflicts := db.conflicts ++ [{
      instanceId := stamp.instanceId
      family := stamp.family
      callId := callId receipt
      seq := ledgerSeq receipt
      kind := kind
      existingDigest := existingDigest
      observedDigest := digestOf receipt
      receipt := receipt
      detectedAt := moment }] }
  let detail := "call=" ++ callId receipt ++ " seq=" ++ toString (ledgerSeq receipt)
  change faults fun db => db.updateCursor stamp.instanceId (conflictedCursor moment kind detail)
    (conflictedCursor_instanceId moment kind detail)

/-! ## Coverage manifests -/

/-- `_coverage_payload`. -/
def coveragePayload (coverage : ValidatedCoverage) : Json :=
  .obj [("coverageStatus", .str coverage.status), ("manifestDigest", .str coverage.manifestDigest),
    ("productFamily", .str coverage.family), ("schema", .str "jitech-provider-usage-coverage/v1"),
    ("surfaces", .arr coverage.surfaces)]

/-- `UPDATE provider_usage_coverage_manifest SET last_collected_at`. -/
def Db.touchManifest (db : Db) (digest : String) (moment : Int) : Db :=
  { db with
    manifests := db.manifests.updateWhere (fun row => row.digest = digest)
      (fun row => { row with lastCollectedAt := moment }) fun _ => rfl }

/-- `INSERT INTO provider_usage_coverage_manifest`. -/
def insertManifest (row : ManifestRow) (db : Db) : Except Raised (Unit × Db) :=
  match db.manifests.insert? row with
  | some manifests => return ((), { db with manifests := manifests })
  | none => throw (.other "IntegrityError" "duplicate manifest_digest")

/-- `_store_coverage_manifest`. -/
def storeCoverageManifest (faults : Faults) (stamp : Stamp) (coverage : ValidatedCoverage) :
    Tx Conn Raised Unit := do
  let payload := coveragePayload coverage
  let text ← Tx.ofExcept (canonicalJsonBytes payload)
  let existing ← select faults fun db => db.manifests.find? coverage.manifestDigest
  match existing with
  | none => do
      let moment ← Tx.ofExcept (sqlTimestamp stamp.collectedAt)
      execute faults (insertManifest {
        digest := coverage.manifestDigest
        family := coverage.family
        status := coverage.status
        manifest := payload
        firstCollectedAt := moment
        lastCollectedAt := moment })
  | some row => do
      let stored ← Tx.ofExcept (canonicalJsonBytes row.manifest)
      Tx.ofExcept (check
        (row.family = coverage.family ∧ row.status = coverage.status ∧ stored = text)
        ("producer coverage digest is bound to different bytes: " ++ coverage.manifestDigest))
      let moment ← Tx.ofExcept (sqlTimestamp stamp.collectedAt)
      change faults fun db => db.touchManifest coverage.manifestDigest moment

/-- A statement for each of these values. -/
def forEachTx {σ ε α : Type} (f : α → Tx σ ε Unit) : List α → Tx σ ε Unit
  | [] => pure ()
  | a :: as => do
      f a
      forEachTx f as

/-! ## Receipts -/

/-- The row that is inserted for a receipt. -/
def newCall (stamp : Stamp) (coverage : ValidatedCoverage) (receipt : Json)
    (startedAt completedAt : Int) (assignment : Assignment) (collectedAt : Int) : CallRow where
  stamp := stamp
  coverageStatus := coverage.status
  coverageDigest := coverage.manifestDigest
  receipt := receipt
  startedAt := startedAt
  completedAt := completedAt
  assignment := assignment
  collectedAt := collectedAt

/-- What a receipt with a known call id is: a replay, or a conflict of this kind. -/
def replayKind (existing : CallRow) (receipt : Json) : Option String :=
  if existing.digest = digestOf receipt ∧ existing.seq = ledgerSeq receipt then none
  else if existing.digest = digestOf receipt then some "call_id_sequence_mismatch"
  else some "call_id_digest_mismatch"

/-- `_insert_receipt`. -/
def insertReceipt (faults : Faults) (stamp : Stamp) (coverage : ValidatedCoverage)
    (receipt : Json) : Tx Conn Raised Bool := do
  let existing ← select faults fun db => db.calls.find? fun row =>
    row.instanceId = stamp.instanceId ∧ row.callId = callId receipt
  match existing with
  | some row =>
      match replayKind row receipt with
      | none => return false
      | some kind => do
          recordConflict faults stamp receipt kind row.digest
          Tx.raise (.conflict ("same callId has different digest: instance=" ++
            stamp.instanceId ++ " call=" ++ callId receipt))
  | none => do
      let bySequence ← select faults fun db => db.calls.find? fun row =>
        row.instanceId = stamp.instanceId ∧ row.family = stamp.family ∧
          row.seq = ledgerSeq receipt
      match bySequence with
      | some row => do
          recordConflict faults stamp receipt "ledger_sequence_reused" row.digest
          Tx.raise (.conflict ("product ledger sequence reused: instance=" ++ stamp.instanceId ++
            " seq=" ++ toString (ledgerSeq receipt)))
      | none => do
          let startedAt ← Tx.ofExcept (sqlTimestamp (receipt.textField "startedAt"))
          let completedAt ← Tx.ofExcept (sqlTimestamp (receipt.textField "completedAt"))
          let assignment ← assignmentForCall faults stamp.linuxAccount startedAt
          let _ ← Tx.ofExcept (canonicalJsonBytes receipt)
          let collectedAt ← Tx.ofExcept (sqlTimestamp stamp.collectedAt)
          change faults fun db => { db with calls := db.calls ++
            [newCall stamp coverage receipt startedAt completedAt assignment collectedAt] }
          return true

/-! ## Pages -/

/-- The counts of a page, and the conflict that stopped it. -/
structure Outcome where
  inserted : Nat
  idempotent : Nat
  pending : Option Raised

/-- `try: … except UsageLedgerConflict`. -/
def catchConflict {α : Type} (x : Tx Conn Raised α) : Tx Conn Raised (α ⊕ Raised) := fun c =>
  match x c with
  | (.ok a, c') => (.ok (.inl a), c')
  | (.error e, c') => if e.isConflict then (.ok (.inr e), c') else (.error e, c')

/-- `historical_coverage[digest]`. -/
def historicalCoverage (page : ValidatedExport) (digest : String) :
    Except Raised ValidatedCoverage :=
  orRaise (page.coverageManifests.reverse.find? fun item => item.manifestDigest = digest)
    (.other "KeyError" ("'" ++ digest ++ "'"))

/-- The loop over the receipts, which a conflict stops. -/
def storeReceipts (faults : Faults) (stamp : Stamp) (page : ValidatedExport) :
    List Json → Nat → Nat → Tx Conn Raised Outcome
  | [], inserted, idempotent => return { inserted, idempotent, pending := none }
  | receipt :: receipts, inserted, idempotent => do
      let coverage ← Tx.ofExcept (historicalCoverage page (coverageDigestOf receipt))
      let result ← catchConflict (insertReceipt faults stamp coverage receipt)
      match result with
      | .inr e => return { inserted, idempotent, pending := some e }
      | .inl true => storeReceipts faults stamp page receipts (inserted + 1) idempotent
      | .inl false => storeReceipts faults stamp page receipts inserted (idempotent + 1)

/-- The cursor after a page. -/
def advancedCursor (stamp : Stamp) (coverage : ValidatedCoverage) (page : ValidatedExport)
    (moment : Int) (row : CursorRow) : CursorRow :=
  { row with
    linuxAccount := stamp.linuxAccount
    publicHost := stamp.publicHost
    runtimeClass := stamp.runtimeClass
    bindingDigest := stamp.bindingDigest
    lastLedgerSeq := page.nextCursor
    lastHighWatermark := some page.highWatermark
    lastSuccessAt := some moment
    lastAttemptAt := some moment
    lastStatus := .ok
    lastErrorCode := none
    lastErrorDetail := none
    coverage := some (coveragePayload coverage)
    wrapperImage := some stamp.wrapperImage
    productImage := some stamp.productImage
    containerId := some stamp.containerId }

omit [PythonText] in
lemma advancedCursor_instanceId (stamp : Stamp) (coverage : ValidatedCoverage)
    (page : ValidatedExport) (moment : Int) (row : CursorRow) :
    (advancedCursor stamp coverage page moment row).instanceId = row.instanceId := rfl

/-- What `store_export_page` does within its transaction. -/
def storePage (faults : Faults) (stamp : Stamp) (coverage : ValidatedCoverage)
    (page : ValidatedExport) : Tx Conn Raised Outcome := do
  change faults id
  ensureCursorLocked faults stamp page.after
  storeCoverageManifest faults stamp coverage
  forEachTx (storeCoverageManifest faults stamp) page.coverageManifests
  let outcome ← storeReceipts faults stamp page page.receipts 0 0
  match outcome.pending with
  | some _ => return outcome
  | none => do
      let moment ← Tx.ofExcept (sqlTimestamp stamp.collectedAt)
      let _ ← Tx.ofExcept (canonicalJsonBytes (coveragePayload coverage))
      change faults fun db => db.updateCursor stamp.instanceId
        (advancedCursor stamp coverage page moment)
        (advancedCursor_instanceId stamp coverage page moment)
      return outcome

/-- What `store_export_page` returns. -/
structure Stored where
  inserted : Nat
  idempotent : Nat
  nextCursor : Int
  deriving DecidableEq, Repr

/-- `store_export_page`: a conflict is committed, every other exception is rolled back. -/
def storeExportPage (faults : Faults) (stamp : Stamp) (coverage : ValidatedCoverage)
    (page : ValidatedExport) (db : Db) : Except Raised Stored × Db :=
  match storePage faults stamp coverage page ⟨db, 0⟩ with
  | (.error e, _) => (.error e, db)
  | (.ok outcome, c) =>
      match faults c.statements with
      | some detail => (.error (databaseError detail), db)
      | none =>
          match outcome.pending with
          | some e => (.error e, c.db)
          | none => (.ok { inserted := outcome.inserted, idempotent := outcome.idempotent,
                           nextCursor := page.nextCursor }, c.db)

/-! ## Failures and the cursor -/

/-- The row that a failed collection writes where there is none. -/
def failedCursor (stamp : Stamp) (moment : Int) (code detail : String) : CursorRow :=
  { newCursor stamp with
    lastAttemptAt := some moment
    lastStatus := .failed
    lastErrorCode := some code
    lastErrorDetail := some detail
    wrapperImage := some stamp.wrapperImage
    productImage := some stamp.productImage
    containerId := some stamp.containerId }

/-- `ON DUPLICATE KEY UPDATE` of a failed collection. -/
def refailedCursor (stamp : Stamp) (moment : Int) (code detail : String) (row : CursorRow) :
    CursorRow :=
  { row with
    linuxAccount := stamp.linuxAccount
    publicHost := stamp.publicHost
    runtimeClass := stamp.runtimeClass
    bindingDigest := stamp.bindingDigest
    lastStatus := .failed
    lastAttemptAt := some moment
    lastErrorCode := some code
    lastErrorDetail := some detail
    wrapperImage := some stamp.wrapperImage
    productImage := some stamp.productImage
    containerId := some stamp.containerId }

omit [PythonText] in
lemma refailedCursor_instanceId (stamp : Stamp) (moment : Int) (code detail : String)
    (row : CursorRow) : (refailedCursor stamp moment code detail row).instanceId = row.instanceId :=
  rfl

/-- The insertion of a failed collection. -/
def upsertFailure (stamp : Stamp) (moment : Int) (code detail : String) (db : Db) : Db :=
  match db.cursors.insert? (failedCursor stamp moment code detail) with
  | some cursors => { db with cursors := cursors }
  | none => db.updateCursor stamp.instanceId (refailedCursor stamp moment code detail)
      (refailedCursor_instanceId stamp moment code detail)

/-- `record_collection_failure`; the detail is redacted. -/
def recordCollectionFailure (faults : Faults) (stamp : Stamp) (code detail : String) (db : Db) :
    Except Raised Unit × Db :=
  match (do
      change faults id
      let moment ← Tx.ofExcept (sqlTimestamp stamp.collectedAt)
      change faults (upsertFailure stamp moment code detail)
      change faults id : Tx Conn Raised Unit) ⟨db, 0⟩ with
  | (.error e, _) => (.error e, db)
  | (.ok (), c) => (.ok (), c.db)

/-- `read_cursor`. -/
def readCursor (faults : Faults) (stamp : Stamp) (db : Db) : Except Raised Int :=
  match faults 0 with
  | some detail => throw (databaseError detail)
  | none =>
      match db.cursors.find? stamp.instanceId with
      | none => return 0
      | some row => do
          check (row.family = stamp.family)
            ("usage cursor family mismatch: stored=" ++ row.family ++ " live=" ++ stamp.family)
          require (row.lastStatus ≠ .conflict)
            (.conflict ("usage cursor is stopped on an unresolved conflict: instance=" ++
              stamp.instanceId))
          return row.lastLedgerSeq

end store

end AgentRuntimeOps.Usage
