import AgentRuntimeOps.Usage.Consistency
import AgentRuntimeOps.Usage.Cost

/-!
# The estimates of the calls

`domain/usage_cost_store.py`: `project_costs` on the tables of the usage database.  As in the usage
store, a statement may raise an exception of the driver at any point, a transaction that raises is
rolled back, and a commit that raises has not committed.  The named lock lets one projector run at
a time; the calls of `provider_usage_call` are numbered by their place in the table.

The rows of a call and a scenario are a history: `unavailable` rows, at most one for each pair of
artifacts, and after them at most one `complete` or `partial` row, which is the last
(`cost_estimates_settle_once`).
-/

namespace AgentRuntimeOps.Usage

open AgentRuntimeOps.Lib

/-! ## Rows -/

/-- A row of `usage_pricing_catalog_revision` or `usage_reference_fx_ledger_revision`. -/
structure RevisionRow where
  digest : String
  schema : String
  revision : String
  publishedAt : String
  artifact : Json
  recordedAt : Int

/-- A row of `provider_usage_cost_estimate`.  The columns that are fields of the projection are
read off it. -/
structure Estimate where
  /-- `provider_usage_call_id` -/
  call : Nat
  instanceId : String
  linuxAccount : String
  receiptDigest : String
  projection : Projection
  digest : String
  estimatedAt : Int

namespace Estimate

/-- The columns of the unique key. -/
def identity (row : Estimate) : Nat × String × String × String × String :=
  (row.call, row.projection.catalogDigest, row.projection.fxDigest, row.projection.apiProduct,
    row.projection.priceScenario)

/-- What a row is an estimate of: a call, by the prices of a product in a scenario. -/
def subject (row : Estimate) : Nat × String × String :=
  (row.call, row.projection.apiProduct, row.projection.priceScenario)

/-- `estimate_status IN ('complete','partial')` -/
def Settled (row : Estimate) : Prop := row.projection.status ≠ .unavailable

instance (row : Estimate) : Decidable row.Settled := inferInstanceAs (Decidable (_ ≠ _))

end Estimate

/-- The two tables of artifacts. -/
inductive RevisionTable where
  | catalogs
  | ledgers
  deriving DecidableEq, Repr

/-- The name of a table of artifacts. -/
def RevisionTable.name : RevisionTable → String
  | catalogs => "usage_pricing_catalog_revision"
  | ledgers => "usage_reference_fx_ledger_revision"

/-- The tables. -/
structure CostDb where
  usage : Db
  revisions : RevisionTable → Table RevisionRow String RevisionRow.digest
  estimates : Table Estimate (Nat × String × String × String × String) Estimate.identity

/-! ## Statements -/

/-- A connection: what it sees of the tables, and how many statements it has executed. -/
structure CostConn where
  db : CostDb
  statements : Nat

/-- `cursor.execute`. -/
def costStatement {α : Type} (faults : Faults) (f : CostDb → Except Raised (α × CostDb)) :
    Tx CostConn Raised α :=
  fun c =>
    match faults c.statements with
    | some detail => (.error (databaseError detail), { c with statements := c.statements + 1 })
    | none =>
        match f c.db with
        | .ok (a, db) => (.ok a, { db := db, statements := c.statements + 1 })
        | .error e => (.error e, { c with statements := c.statements + 1 })

/-- A `SELECT`. -/
def costSelect {α : Type} (faults : Faults) (f : CostDb → α) : Tx CostConn Raised α :=
  costStatement faults fun db => .ok (f db, db)

/-- `_acquire_cost_projection_lock`; whether the lock is free is for the server to say. -/
def acquireCostProjectionLock (faults : Faults) (acquired : Bool) : Tx CostConn Raised Unit := do
  costSelect faults fun _ => ()
  Tx.ofExcept (require acquired
    (.other "UsageCostProjectionBusy" "usage cost projection already running"))

/-- The tables that `ensure_cost_schema` asks for, in sorted order. -/
def requiredCostTables : List String :=
  ["provider_usage_cost_estimate", "usage_pricing_catalog_revision",
    "usage_reference_fx_ledger_revision"]

/-- `ensure_cost_schema`. -/
def ensureCostSchema (faults : Faults) (tables : List String) : Tx CostConn Raised Unit := do
  costSelect faults fun _ => ()
  let missing := requiredCostTables.filter (· ∉ tables)
  Tx.ofExcept (check (missing = [])
    ("usage cost DB schema incomplete: missing=" ++ nameList missing))

/-- `INSERT INTO` a table of artifacts. -/
def insertRevision (table : RevisionTable) (row : RevisionRow) (db : CostDb) :
    Except Raised (Unit × CostDb) :=
  match (db.revisions table).insert? row with
  | some rows => return ((), { db with revisions := Function.update db.revisions table rows })
  | none => throw (.other "IntegrityError" "duplicate artifact_digest")

/-- `INSERT INTO provider_usage_cost_estimate`. -/
def insertEstimate (row : Estimate) (db : CostDb) : Except Raised (Unit × CostDb) :=
  match db.estimates.insert? row with
  | some estimates => return ((), { db with estimates := estimates })
  | none => throw (.other "IntegrityError" "duplicate projection identity")

section store

variable [PythonText] [PythonCalendar]

omit [PythonCalendar] in
/-- `_store_revision`. -/
def storeRevision (faults : Faults) (table : RevisionTable) (row : RevisionRow) :
    Tx CostConn Raised Unit := do
  let text ← Tx.ofExcept (canonicalJsonBytes row.artifact)
  let existing ← costSelect faults fun db => (db.revisions table).find? row.digest
  match existing with
  | some stored => do
      let storedText ← Tx.ofExcept (canonicalJsonBytes stored.artifact)
      Tx.ofExcept (check (storedText = text)
        (table.name ++ " digest is bound to different bytes"))
  | none => costStatement faults (insertRevision table row)

/-- The row of an artifact. -/
def revisionRow (payload : Json) (digest : String) (moment : Int) : RevisionRow where
  digest := digest
  schema := payload.textField "schema"
  revision := payload.textField "revision"
  publishedAt := payload.textField "publishedAt"
  artifact := payload
  recordedAt := moment

/-! ## One call -/

/-- What is done with a call. -/
inductive RowOutcome where
  | inserted
  | idempotent
  | settledSkipped
  deriving DecidableEq, Repr

/-- The identity of the estimate of a call. -/
def Valuation.identity (v : Valuation) (call : Nat) : Nat × String × String × String × String :=
  (call, v.catalog.digest, v.fx.digest, v.apiProduct, v.priceScenario)

/-- What the estimate of a call is an estimate of. -/
def Valuation.subject (v : Valuation) (call : Nat) : Nat × String × String :=
  (call, v.apiProduct, v.priceScenario)

/-- The stored receipt of a call is an object that has the digest of its row. -/
def checkStoredReceipt (row : CallRow) : Except Raised Unit := do
  check row.receipt.isObject "stored usage receipt must be an object"
  check (row.receipt.field "receiptDigest" = .str row.digest)
    "stored usage receipt digest disagrees with its row"

/-- A stored row is that of the projection. -/
def checkSameEstimate (existing : Estimate) (projection : Projection) (digest : String) :
    Except Raised Unit := do
  check (existing.digest = digest) "cost estimate identity is bound to different bytes"
  let storedText ← canonicalJsonBytes (existing.projection.toJson existing.digest)
  let text ← canonicalJsonBytes (projection.toJson digest)
  check (storedText = text) "cost estimate identity is bound to different bytes"

/-- The texts of the row's three JSON columns. -/
def estimateTexts (projection : Projection) (digest : String) :
    Except Raised (List (List UInt8)) :=
  [.arr (projection.components.map CostComponent.toJson), .arr (projection.missing.map .str),
    projection.toJson digest].mapM canonicalJsonBytes

/-- The row of a projection. -/
def estimateRow (index : Nat) (row : CallRow) (projection : Projection) (digest : String)
    (moment : Int) : Estimate where
  call := index
  instanceId := row.instanceId
  linuxAccount := row.stamp.linuxAccount
  receiptDigest := row.digest
  projection := projection
  digest := digest
  estimatedAt := moment

/-- The body of the loop of `project_costs`. -/
def projectRow (faults : Faults) (v : Valuation) (moment : Int) (index : Nat) (row : CallRow) :
    Tx CostConn Raised RowOutcome := do
  Tx.ofExcept (checkStoredReceipt row)
  let (projection, digest) ← Tx.ofExcept (projectCallCost row.receipt v)
  let existing ← costSelect faults fun db => db.estimates.find? (v.identity index)
  match existing with
  | some stored => do
      Tx.ofExcept (checkSameEstimate stored projection digest)
      return .idempotent
  | none => do
      let settled ← costSelect faults fun db =>
        db.estimates.rows.find? fun e => e.subject = v.subject index ∧ e.Settled
      match settled with
      | some _ => return .settledSkipped
      | none => do
          let _ ← Tx.ofExcept (estimateTexts projection digest)
          costStatement faults (insertEstimate (estimateRow index row projection digest moment))
          return .inserted

/-! ## All calls -/

/-- What `project_costs` returns. -/
structure Counts where
  inserted : Nat
  idempotent : Nat
  settledSkipped : Nat
  deriving DecidableEq, Repr

/-- One more of these. -/
def Counts.add (counts : Counts) : RowOutcome → Counts
  | .inserted => { counts with inserted := counts.inserted + 1 }
  | .idempotent => { counts with idempotent := counts.idempotent + 1 }
  | .settledSkipped => { counts with settledSkipped := counts.settledSkipped + 1 }

/-- The loop of `project_costs`. -/
def projectRows (faults : Faults) (v : Valuation) (moment : Int) :
    List (CallRow × Nat) → Counts → Tx CostConn Raised Counts
  | [], counts => return counts
  | (row, index) :: rows, counts => do
      let outcome ← projectRow faults v moment index row
      projectRows faults v moment rows (counts.add outcome)

/-- The calls of an account with their numbers; without an account, or with an empty one, all. -/
def selectedCalls (account : Option String) (db : CostDb) : List (CallRow × Nat) :=
  db.usage.calls.zipIdx.filter fun call =>
    ∀ name ∈ account, name ≠ "" → call.1.stamp.linuxAccount = name

/-- The arguments of `project_costs`. -/
structure CostRequest where
  valuation : Valuation
  account : Option String
  moment : Int

/-- What `project_costs` does before it commits. -/
def projectBody (faults : Faults) (acquired : Bool) (tables : List String)
    (request : CostRequest) : Tx CostConn Raised Counts := do
  acquireCostProjectionLock faults acquired
  ensureCostSchema faults tables
  costSelect faults fun _ => ()
  let v := request.valuation
  storeRevision faults .catalogs (revisionRow v.catalog.payload v.catalog.digest request.moment)
  storeRevision faults .ledgers (revisionRow v.fx.payload v.fx.digest request.moment)
  let calls ← costSelect faults (selectedCalls request.account)
  projectRows faults v request.moment calls ⟨0, 0, 0⟩

/-- `project_costs`: an exception is passed on when the transaction is rolled back. -/
def projectCosts (faults : Faults) (acquired : Bool) (tables : List String)
    (request : CostRequest) (db : CostDb) : Except Raised Counts × CostDb :=
  match projectBody faults acquired tables request ⟨db, 0⟩ with
  | (.error e, _) => (.error e, db)
  | (.ok counts, c) =>
      match faults c.statements with
      | some detail => (.error (databaseError detail), db)
      | none => (.ok counts, c.db)

/-! ## What a statement does -/

section statements

omit [PythonText] [PythonCalendar]

variable {α : Type} {faults : Faults} {c c' : CostConn}

lemma costStatement_ok {f : CostDb → Except Raised (α × CostDb)} {a : α}
    (h : costStatement faults f c = (.ok a, c')) : f c.db = .ok (a, c'.db) := by
  unfold costStatement at h
  rcases hfault : faults c.statements with _ | detail
  · simp only [hfault] at h
    rcases hf : f c.db with e | ⟨b, db⟩
    · simp [hf] at h
    · simp only [hf, Prod.mk.injEq, Except.ok.injEq] at h
      obtain ⟨rfl, rfl⟩ := h
      rfl
  · simp [hfault] at h

lemma costSelect_ok {f : CostDb → α} {a : α} (h : costSelect faults f c = (.ok a, c')) :
    a = f c.db ∧ c'.db = c.db := by
  have hf := costStatement_ok h
  simp only [Except.ok.injEq, Prod.mk.injEq] at hf
  exact ⟨hf.1.symm, hf.2.symm⟩

lemma insertRevision_ok {table : RevisionTable} {row : RevisionRow} {db db' : CostDb} {u : Unit}
    (h : insertRevision table row db = .ok (u, db')) :
    ∃ rows, (db.revisions table).insert? row = some rows ∧
      db' = { db with revisions := Function.update db.revisions table rows } := by
  unfold insertRevision at h
  rcases hrows : (db.revisions table).insert? row with _ | rows
  · simp [hrows, throw, throwThe, MonadExceptOf.throw] at h
  · simp only [hrows, pure, Except.pure, Except.ok.injEq, Prod.mk.injEq] at h
    exact ⟨rows, rfl, h.2.symm⟩

lemma insertEstimate_ok {row : Estimate} {db db' : CostDb} {u : Unit}
    (h : insertEstimate row db = .ok (u, db')) :
    ∃ estimates, db.estimates.insert? row = some estimates ∧
      db' = { db with estimates := estimates } := by
  unfold insertEstimate at h
  rcases hrows : db.estimates.insert? row with _ | rows
  · simp [hrows, throw, throwThe, MonadExceptOf.throw] at h
  · simp only [hrows, pure, Except.pure, Except.ok.injEq, Prod.mk.injEq] at h
    exact ⟨rows, rfl, h.2.symm⟩

end statements

/-! ## What a projection says of itself -/

section projections

variable {receipt : Json} {v : Valuation} {p : Projection}

/-- The projection is one of this valuation. -/
structure OfValuation (v : Valuation) (p : Projection) : Prop where
  catalog : p.catalogDigest = v.catalog.digest
  fx : p.fxDigest = v.fx.digest
  product : p.apiProduct = v.apiProduct
  scenario : p.priceScenario = v.priceScenario

lemma ofValuation_unavailable (reason : String) :
    OfValuation v (unavailable receipt v reason) := ⟨rfl, rfl, rfl, rfl⟩

lemma ofValuation_estimate {entry rate : Json} {day : Nat}
    (h : estimate receipt v entry rate day = .ok p) : OfValuation v p := by
  simp only [estimate, except_bind_ok, except_pure_ok] at h
  obtain ⟨-, -, -, -, -, -, -, -, -, -, rfl⟩ := h
  exact ⟨rfl, rfl, rfl, rfl⟩

lemma ofValuation_of_pure {reason : String}
    (h : (pure (unavailable receipt v reason) : Except Raised Projection) = .ok p) :
    OfValuation v p := by
  rw [← except_pure_ok.mp h]
  exact ofValuation_unavailable reason

lemma ofValuation_projectCall (h : projectCall receipt v = .ok p) : OfValuation v p := by
  unfold projectCall at h
  simp only [] at h
  split at h
  · exact ofValuation_of_pure h
  · split at h
    · obtain ⟨startedAt, -, h⟩ := except_bind_ok.mp h
      obtain ⟨entries, -, h⟩ := except_bind_ok.mp h
      obtain ⟨applicable, -, h⟩ := except_bind_ok.mp h
      split at h
      · exact ofValuation_of_pure h
      · obtain ⟨usageDay, -, h⟩ := except_bind_ok.mp h
        obtain ⟨rate, -, h⟩ := except_bind_ok.mp h
        split at h
        · exact ofValuation_of_pure h
        · split at h
          · exact ofValuation_estimate h
          · exact ofValuation_of_pure h
      · exact ofValuation_of_pure h
    · exact ofValuation_of_pure h

lemma ofValuation_projectCallCost {digest : String}
    (h : projectCallCost receipt v = .ok (p, digest)) : OfValuation v p := by
  simp only [projectCallCost, except_bind_ok, except_pure_ok, Prod.mk.injEq] at h
  obtain ⟨q, hq, -, -, rfl, -⟩ := h
  exact ofValuation_projectCall hq

lemma OfValuation.identity (h : OfValuation v p) (index : Nat) (row : CallRow) (digest : String)
    (moment : Int) : (estimateRow index row p digest moment).identity = v.identity index := by
  simp only [Estimate.identity, estimateRow, h.catalog, h.fx, h.product, h.scenario,
    Valuation.identity]

lemma OfValuation.subject (h : OfValuation v p) (index : Nat) (row : CallRow) (digest : String)
    (moment : Int) : (estimateRow index row p digest moment).subject = v.subject index := by
  simp only [Estimate.subject, estimateRow, h.product, h.scenario, Valuation.subject]

end projections

/-! ## What a call of `project_costs` can do -/

section effects

variable {faults : Faults} {v : Valuation} {moment : Int} {index : Nat} {row : CallRow}
  {c c' : CostConn}

/-- A call needs no further estimate: it has one by these artifacts, or a settled one. -/
def Covered (v : Valuation) (index : Nat) (db : CostDb) : Prop :=
  ∃ e ∈ db.estimates.rows,
    e.identity = v.identity index ∨ e.subject = v.subject index ∧ e.Settled

/-- What is done with one call. -/
inductive RowEffect (v : Valuation) (index : Nat) (db : CostDb) : RowOutcome → CostDb → Prop where
  | known {outcome : RowOutcome} (hcovered : Covered v index db)
      (houtcome : outcome ≠ .inserted) : RowEffect v index db outcome db
  | added {e : Estimate}
      {estimates : Table Estimate (Nat × String × String × String × String) Estimate.identity}
      (hidentity : e.identity = v.identity index) (hsubject : e.subject = v.subject index)
      (hopen : ∀ a ∈ db.estimates.rows, a.Settled → a.subject ≠ e.subject)
      (hrows : estimates.rows = db.estimates.rows ++ [e]) :
      RowEffect v index db .inserted { db with estimates := estimates }

lemma projectRow_ok {outcome : RowOutcome}
    (h : projectRow faults v moment index row c = (.ok outcome, c')) :
    RowEffect v index c.db outcome c'.db := by
  unfold projectRow at h
  obtain ⟨_, c₁, hstored, h⟩ := Tx.bind_ok.mp h
  obtain ⟨-, rfl⟩ := Tx.ofExcept_ok.mp hstored
  obtain ⟨⟨p, digest⟩, c₂, hread, h⟩ := Tx.bind_ok.mp h
  obtain ⟨hprojection, rfl⟩ := Tx.ofExcept_ok.mp hread
  have hof := ofValuation_projectCallCost hprojection
  obtain ⟨existing, c₃, hexisting, h⟩ := Tx.bind_ok.mp h
  obtain ⟨rfl, hdb⟩ := costSelect_ok hexisting
  rw [← hdb] at h ⊢
  rcases hfind : c₃.db.estimates.find? (v.identity index) with _ | stored
  · simp only [hfind] at h
    obtain ⟨settled, c₄, hsettled, h⟩ := Tx.bind_ok.mp h
    obtain ⟨rfl, hdb'⟩ := costSelect_ok hsettled
    rw [← hdb'] at h ⊢
    rcases hold : c₄.db.estimates.rows.find?
        (fun e => e.subject = v.subject index ∧ e.Settled) with _ | e
    · simp only [hold] at h
      obtain ⟨_, c₅, htexts, h⟩ := Tx.bind_ok.mp h
      obtain ⟨-, rfl⟩ := Tx.ofExcept_ok.mp htexts
      obtain ⟨_, c₆, hinsert, h⟩ := Tx.bind_ok.mp h
      obtain ⟨rfl, rfl⟩ := Tx.pure_ok.mp h
      obtain ⟨estimates, hestimates, hdb''⟩ := insertEstimate_ok (costStatement_ok hinsert)
      rw [hdb'']
      refine .added (hof.identity index row digest moment) (hof.subject index row digest moment)
        (fun a ha hsettled' => ?_) (Table.rows_insert? hestimates)
      have hnone := List.find?_eq_none.mp hold a ha
      rw [hof.subject]
      intro hsame
      exact hnone (by simp [hsame, hsettled'])
    · simp only [hold] at h
      obtain ⟨rfl, rfl⟩ := Tx.pure_ok.mp h
      have he := List.find?_some hold
      simp only [Bool.decide_and, Bool.and_eq_true, decide_eq_true_eq] at he
      exact .known ⟨e, List.mem_of_find?_eq_some hold, .inr he⟩ (by simp)
  · simp only [hfind] at h
    obtain ⟨_, c₄, hsame, h⟩ := Tx.bind_ok.mp h
    obtain ⟨-, rfl⟩ := Tx.ofExcept_ok.mp hsame
    obtain ⟨rfl, rfl⟩ := Tx.pure_ok.mp h
    exact .known ⟨stored, Table.mem_of_find? hfind, .inl (Table.key_of_find? hfind)⟩ (by simp)

/-- Where no row follows a settled row of its subject. -/
def Settling (rows : List Estimate) : Prop :=
  rows.Pairwise fun a e => a.Settled → a.subject ≠ e.subject

/-- What the loop does with these calls. -/
structure RowsEffect (v : Valuation) (calls : List (CallRow × Nat)) (db : CostDb)
    (counts counts' : Counts) (db' : CostDb) : Prop where
  usage : db'.usage = db.usage
  revisions : db'.revisions = db.revisions
  extends_rows : db.estimates.rows <+: db'.estimates.rows
  settling : Settling db.estimates.rows → Settling db'.estimates.rows
  covered : ∀ call ∈ calls, Covered v call.2 db'
  idle : (∀ call ∈ calls, Covered v call.2 db) → db' = db ∧ counts'.inserted = counts.inserted

lemma Covered.mono {db db' : CostDb} (h : Covered v index db)
    (hrows : db.estimates.rows <+: db'.estimates.rows) : Covered v index db' := by
  obtain ⟨e, he, hcovers⟩ := h
  exact ⟨e, hrows.subset he, hcovers⟩

/-- A call that is covered gets no row. -/
lemma RowEffect.idle {outcome : RowOutcome} {db db' : CostDb}
    (h : RowEffect v index db outcome db') (hcovered : Covered v index db) :
    db' = db ∧ outcome ≠ .inserted := by
  cases h with
  | known _ houtcome => exact ⟨rfl, houtcome⟩
  | @added e estimates hidentity hsubject hopen hrows =>
      exfalso
      obtain ⟨a, ha, hsame | ⟨hsame, hsettled⟩⟩ := hcovered
      · have hnodup := estimates.nodup
        rw [hrows, List.map_append, List.nodup_append] at hnodup
        refine hnodup.2.2 a.identity (List.mem_map_of_mem ha) e.identity (by simp) ?_
        rw [hsame, hidentity]
      · exact hopen a ha hsettled (hsame.trans hsubject.symm)

lemma RowEffect.rowsEffect {outcome : RowOutcome} {db db' : CostDb} {counts : Counts}
    (h : RowEffect v index db outcome db') :
    RowsEffect v [(row, index)] db counts (counts.add outcome) db' where
  usage := by cases h <;> rfl
  revisions := by cases h <;> rfl
  extends_rows := by
    cases h with
    | known => exact List.prefix_refl _
    | added _ _ _ hrows => exact ⟨_, hrows.symm⟩
  settling := by
    intro hsettling
    cases h with
    | known => exact hsettling
    | added _ _ hopen hrows =>
        unfold Settling
        rw [hrows, List.pairwise_append]
        refine ⟨hsettling, List.pairwise_singleton _ _, fun a ha b hb hsettled => ?_⟩
        rw [List.mem_singleton.mp hb]
        exact hopen a ha hsettled
  covered := by
    intro call hcall
    obtain rfl := List.mem_singleton.mp hcall
    cases h with
    | known hcovered => exact hcovered
    | @added e estimates hidentity _ _ hrows => exact ⟨e, by rw [hrows]; simp, .inl hidentity⟩
  idle := by
    intro hcovered
    obtain ⟨hdb, houtcome⟩ := h.idle (hcovered _ (List.mem_singleton_self _))
    refine ⟨hdb, ?_⟩
    cases outcome with
    | inserted => exact absurd rfl houtcome
    | idempotent => rfl
    | settledSkipped => rfl

lemma RowsEffect.trans {calls calls' : List (CallRow × Nat)} {db mid db' : CostDb}
    {counts counts₁ counts' : Counts} (h : RowsEffect v calls db counts counts₁ mid)
    (h' : RowsEffect v calls' mid counts₁ counts' db') :
    RowsEffect v (calls ++ calls') db counts counts' db' where
  usage := h'.usage.trans h.usage
  revisions := h'.revisions.trans h.revisions
  extends_rows := h.extends_rows.trans h'.extends_rows
  settling hsettling := h'.settling (h.settling hsettling)
  covered call hcall := by
    rcases List.mem_append.mp hcall with hcall | hcall
    · exact (h.covered call hcall).mono h'.extends_rows
    · exact h'.covered call hcall
  idle hcovered := by
    obtain ⟨rfl, hcounts⟩ := h.idle fun call hcall =>
      hcovered call (List.mem_append_left _ hcall)
    obtain ⟨rfl, hcounts'⟩ := h'.idle fun call hcall =>
      hcovered call (List.mem_append_right _ hcall)
    exact ⟨rfl, hcounts'.trans hcounts⟩

lemma projectRows_ok {calls : List (CallRow × Nat)} {counts counts' : Counts}
    (h : projectRows faults v moment calls counts c = (.ok counts', c')) :
    RowsEffect v calls c.db counts counts' c'.db := by
  induction calls generalizing counts c with
  | nil =>
      obtain ⟨rfl, rfl⟩ := Tx.pure_ok.mp h
      exact ⟨rfl, rfl, List.prefix_refl _, id, by simp, fun _ => ⟨rfl, rfl⟩⟩
  | cons call calls ih =>
      obtain ⟨outcome, c₁, hrow, h⟩ := Tx.bind_ok.mp h
      exact (projectRow_ok hrow).rowsEffect.trans (ih h)

/-! ### The artifacts -/

/-- The artifact with this digest is stored. -/
def Recorded (table : RevisionTable) (digest : String) (db : CostDb) : Prop :=
  ∃ stored, (db.revisions table).find? digest = some stored

/-- What storing an artifact does. -/
structure RevisionEffect (table : RevisionTable) (digest : String) (db db' : CostDb) : Prop where
  usage : db'.usage = db.usage
  estimates : db'.estimates = db.estimates
  revisions : ∀ t, (db.revisions t).rows <+: (db'.revisions t).rows
  recorded : Recorded table digest db'
  idle : Recorded table digest db → db' = db

omit [PythonText] [PythonCalendar] in
lemma Recorded.mono {table : RevisionTable} {digest : String} {db db' : CostDb}
    (h : Recorded table digest db)
    (hrows : ∀ t, (db.revisions t).rows <+: (db'.revisions t).rows) :
    Recorded table digest db' := by
  obtain ⟨stored, hstored⟩ := h
  obtain ⟨hmem, hdigest⟩ := Table.find?_eq_some_iff.mp hstored
  exact ⟨stored, Table.find?_eq_some_iff.mpr ⟨(hrows table).subset hmem, hdigest⟩⟩

omit [PythonCalendar] in
lemma storeRevision_ok {table : RevisionTable} {revision : RevisionRow} {u : Unit}
    (h : storeRevision faults table revision c = (.ok u, c')) :
    RevisionEffect table revision.digest c.db c'.db := by
  unfold storeRevision at h
  obtain ⟨text, c₁, htext, h⟩ := Tx.bind_ok.mp h
  obtain ⟨-, rfl⟩ := Tx.ofExcept_ok.mp htext
  obtain ⟨existing, c₂, hexisting, h⟩ := Tx.bind_ok.mp h
  obtain ⟨rfl, hdb⟩ := costSelect_ok hexisting
  rw [← hdb] at h ⊢
  rcases hfind : (c₂.db.revisions table).find? revision.digest with _ | stored
  · simp only [hfind] at h
    obtain ⟨rows, hrows, hdb'⟩ := insertRevision_ok (costStatement_ok h)
    rw [hdb']
    refine ⟨rfl, rfl, fun t => ?_, ?_, ?_⟩
    · by_cases ht : t = table
      · subst ht
        simp only [Function.update_self]
        exact ⟨[revision], (Table.rows_insert? hrows).symm⟩
      · simp only [Function.update_of_ne ht]
        exact List.prefix_refl _
    · refine ⟨revision, ?_⟩
      simp only [Function.update_self]
      rw [Table.find?_insert? hrows, if_pos rfl]
    · rintro ⟨stored, hstored⟩
      rw [hfind] at hstored
      cases hstored
  · simp only [hfind] at h
    obtain ⟨storedText, c₃, hstored, h⟩ := Tx.bind_ok.mp h
    obtain ⟨-, rfl⟩ := Tx.ofExcept_ok.mp hstored
    obtain ⟨-, rfl⟩ := Tx.ofExcept_ok.mp h
    exact ⟨rfl, rfl, fun _ => List.prefix_refl _, ⟨stored, hfind⟩, fun _ => rfl⟩

/-! ### The whole call -/

/-- Nothing is left to store for a request. -/
structure Done (request : CostRequest) (db : CostDb) : Prop where
  catalog : Recorded .catalogs request.valuation.catalog.digest db
  fx : Recorded .ledgers request.valuation.fx.digest db
  covered : ∀ call ∈ selectedCalls request.account db, Covered request.valuation call.2 db

/-- What a call that returns has done. -/
structure CostEffect (request : CostRequest) (db : CostDb) (counts : Counts) (db' : CostDb) :
    Prop where
  usage : db'.usage = db.usage
  revisions : ∀ t, (db.revisions t).rows <+: (db'.revisions t).rows
  estimates : db.estimates.rows <+: db'.estimates.rows
  settling : Settling db.estimates.rows → Settling db'.estimates.rows
  done : Done request db'
  idle : Done request db → db' = db ∧ counts.inserted = 0

omit [PythonText] [PythonCalendar] in
lemma selectedCalls_congr {account : Option String} {db db' : CostDb}
    (h : db'.usage.calls = db.usage.calls) :
    selectedCalls account db' = selectedCalls account db := by
  unfold selectedCalls
  rw [h]

lemma projectBody_ok {acquired : Bool} {tables : List String} {request : CostRequest}
    {counts : Counts} (h : projectBody faults acquired tables request c = (.ok counts, c')) :
    CostEffect request c.db counts c'.db := by
  simp only [projectBody, acquireCostProjectionLock, ensureCostSchema] at h
  obtain ⟨_, c₁, hlock, h⟩ := Tx.bind_ok.mp h
  obtain ⟨_, c₂, hget, hlock⟩ := Tx.bind_ok.mp hlock
  obtain ⟨-, rfl⟩ := Tx.ofExcept_ok.mp hlock
  obtain ⟨_, c₃, hschema, h⟩ := Tx.bind_ok.mp h
  obtain ⟨_, c₄, htables, hschema⟩ := Tx.bind_ok.mp hschema
  obtain ⟨-, rfl⟩ := Tx.ofExcept_ok.mp hschema
  obtain ⟨_, c₅, hbegin, h⟩ := Tx.bind_ok.mp h
  have hstart : c₅.db = c.db :=
    (costSelect_ok hbegin).2.trans ((costSelect_ok htables).2.trans (costSelect_ok hget).2)
  obtain ⟨_, c₆, hcatalog, h⟩ := Tx.bind_ok.mp h
  have hcatalog := storeRevision_ok hcatalog
  obtain ⟨_, c₇, hfx, h⟩ := Tx.bind_ok.mp h
  have hfx := storeRevision_ok hfx
  obtain ⟨calls, c₈, hcalls, h⟩ := Tx.bind_ok.mp h
  obtain ⟨rfl, hdb⟩ := costSelect_ok hcalls
  have hrows := projectRows_ok h
  rw [hdb] at hrows
  rw [← hstart]
  have husage : c₇.db.usage = c₅.db.usage := hfx.usage.trans hcatalog.usage
  have hestimates : c₇.db.estimates = c₅.db.estimates := hfx.estimates.trans hcatalog.estimates
  refine ⟨hrows.usage.trans husage, fun t => ?_, ?_, ?_, ⟨?_, ?_, ?_⟩, ?_⟩
  · rw [hrows.revisions]
    exact (hcatalog.revisions t).trans (hfx.revisions t)
  · rw [← hestimates]
    exact hrows.extends_rows
  · rw [← hestimates]
    exact hrows.settling
  · obtain ⟨stored, hstored⟩ := hcatalog.recorded.mono hfx.revisions
    exact ⟨stored, by rw [hrows.revisions]; exact hstored⟩
  · obtain ⟨stored, hstored⟩ := hfx.recorded
    exact ⟨stored, by rw [hrows.revisions]; exact hstored⟩
  · rw [selectedCalls_congr (congrArg Db.calls hrows.usage)]
    exact hrows.covered
  · rintro ⟨hc, hf, hcovered⟩
    have hfirst := hcatalog.idle hc
    rw [hfirst] at hfx
    have hsecond := hfx.idle hf
    rw [hsecond] at hrows
    exact hrows.idle hcovered

/-- A call fails and changes nothing, or it returns. -/
lemma projectCosts_effect {acquired : Bool} {tables : List String} {request : CostRequest}
    {db : CostDb} {result : Except Raised Counts} {db' : CostDb}
    (h : projectCosts faults acquired tables request db = (result, db')) :
    (∃ e, result = .error e ∧ db' = db) ∨
      ∃ counts, result = .ok counts ∧ CostEffect request db counts db' := by
  unfold projectCosts at h
  rcases hbody : projectBody faults acquired tables request ⟨db, 0⟩ with ⟨e | counts, c⟩
  · rw [hbody] at h
    cases h
    exact .inl ⟨e, rfl, rfl⟩
  · rw [hbody] at h
    simp only [] at h
    rcases hfault : faults c.statements with _ | detail
    · rw [hfault] at h
      cases h
      exact .inr ⟨counts, rfl, projectBody_ok hbody⟩
    · rw [hfault] at h
      cases h
      exact .inl ⟨_, rfl, rfl⟩

end effects

/-! ## Any sequence of calls -/

section runs

/-- A call of `project_costs`. -/
structure CostCall where
  faults : Faults
  acquired : Bool
  tables : List String
  request : CostRequest

/-- The call on the tables. -/
def CostCall.run (call : CostCall) (db : CostDb) : Except Raised Counts × CostDb :=
  projectCosts call.faults call.acquired call.tables call.request db

/-- What happens to the tables: a page of usage is stored, or costs are projected. -/
inductive CostStep where
  | store (call : StoreCall)
  | project (call : CostCall)

/-- The tables after a step. -/
def costStep : CostStep → CostDb → Option CostDb
  | .store call, db => some { db with usage := (call.run db.usage).2 }
  | .project call, db => some (call.run db).2

/-- The rows of the tables stay, in their order. -/
structure Grows (db db' : CostDb) : Prop where
  calls : db.usage.calls <+: db'.usage.calls
  revisions : ∀ t, (db.revisions t).rows <+: (db'.revisions t).rows
  estimates : db.estimates.rows <+: db'.estimates.rows
  settling : Settling db.estimates.rows → Settling db'.estimates.rows

omit [PythonText] [PythonCalendar] in
lemma Grows.refl (db : CostDb) : Grows db db :=
  ⟨List.prefix_refl _, fun _ => List.prefix_refl _, List.prefix_refl _, id⟩

omit [PythonText] [PythonCalendar] in
lemma Grows.trans {db mid db' : CostDb} (h : Grows db mid) (h' : Grows mid db') : Grows db db' :=
  ⟨h.calls.trans h'.calls, fun t => (h.revisions t).trans (h'.revisions t),
    h.estimates.trans h'.estimates, fun hsettling => h'.settling (h.settling hsettling)⟩

lemma grows_run (call : CostCall) (db : CostDb) : Grows db (call.run db).2 := by
  obtain ⟨e, -, hdb⟩ | ⟨counts, -, heffect⟩ :=
    projectCosts_effect (Prod.mk.eta (p := call.run db)).symm
  · rw [hdb]
    exact .refl db
  · exact ⟨by rw [heffect.usage], heffect.revisions, heffect.estimates, heffect.settling⟩

lemma grows_step {step : CostStep} {db db' : CostDb} (h : costStep step db = some db') :
    Grows db db' := by
  cases step with
  | store call =>
      cases h
      refine ⟨?_, fun _ => List.prefix_refl _, List.prefix_refl _, id⟩
      exact (storeExportPage_effect (Prod.mk.eta (p := call.run db.usage)).symm).calls_isPrefix
  | project call =>
      cases h
      exact grows_run call db

lemma grows_of_reaches {db db' : CostDb} (h : Reaches costStep AnyStep db db') : Grows db db' :=
  h.invariant (.refl db) fun _ _ _ hgrows _ hstep => hgrows.trans (grows_step hstep)

/-- What is done stays done while there are no new calls. -/
lemma Done.mono {request : CostRequest} {db db' : CostDb} (h : Done request db)
    (hgrows : Grows db db') (hcalls : db'.usage.calls = db.usage.calls) : Done request db' where
  catalog := h.catalog.mono hgrows.revisions
  fx := h.fx.mono hgrows.revisions
  covered call hcall := by
    rw [selectedCalls_congr hcalls] at hcall
    exact (h.covered call hcall).mono hgrows.estimates

omit [PythonText] [PythonCalendar] in
/-- Rows that follow a settled row are rows of other subjects. -/
lemma Settling.mem_of_isPrefix {rows rows' : List Estimate} (h : Settling rows')
    (hrows : rows <+: rows') {a e : Estimate} (ha : a ∈ rows) (hsettled : a.Settled)
    (he : e ∈ rows') (hsubject : e.subject = a.subject) : e ∈ rows := by
  obtain ⟨added, rfl⟩ := hrows
  rcases List.mem_append.mp he with he | he
  · exact he
  · exact absurd hsubject.symm ((List.pairwise_append.mp h).2.2 a ha e he hsettled)

omit [PythonText] [PythonCalendar] in
/-- There is one settled row of a subject. -/
lemma Settling.unique {rows : List Estimate} (h : Settling rows) {a b : Estimate} (ha : a ∈ rows)
    (hb : b ∈ rows) (hsubject : a.subject = b.subject) (ha' : a.Settled) (hb' : b.Settled) :
    a = b := by
  induction rows with
  | nil => cases ha
  | cons row rows ih =>
      obtain ⟨hrow, hrows⟩ := List.pairwise_cons.mp h
      rcases List.mem_cons.mp ha with rfl | harest
      · rcases List.mem_cons.mp hb with rfl | hbrest
        · rfl
        · exact absurd hsubject (hrow b hbrest ha')
      · rcases List.mem_cons.mp hb with rfl | hbrest
        · exact absurd hsubject.symm (hrow a harest hb')
        · exact ih hrows harest hbrest

end runs

end store

/-! ## A run -/

section samples

attribute [local instance] sampleText

/-- The clocks are nine hours ahead, and digits are ASCII. -/
@[reducible] def sampleCalendar : PythonCalendar where
  seoulOffset _ := 9 * 3600 * 1000000
  decimalDigit c := if c.isDigit then some (c.toNat - 48) else none

attribute [local instance] sampleCalendar

/-- A catalogue without prices. -/
def sampleCatalog : PricingCatalog where
  payload := .obj [("entries", .arr []), ("publishedAt", .str "2026-07-01T00:00:00Z"),
    ("revision", .str "1"), ("schema", .str "jitech-provider-pricing-catalog/v1")]
  digest := "sha256:091ad85691b12202ba5fb9f11f0898e1acc5e18775b2e674835c0b284ab27526"
  valid := by decide +kernel

/-- A ledger without rates. -/
def sampleFx : DailyReferenceFxLedger where
  payload := .obj [("baseCurrency", .str "USD"), ("maxCarryDays", .int 7),
    ("publishedAt", .str "2026-07-01T00:00:00Z"), ("quoteCurrency", .str "KRW"),
    ("rates", .arr []), ("revision", .str "1"), ("schema", .str "jitech-daily-reference-fx/v1")]
  digest := "sha256:48d403328856f64778865c7a513f455a86ec71f0f292b103791b21220535e6b5"
  valid := by decide +kernel

/-- A projection of all calls. -/
def sampleCostCall : CostCall where
  faults _ := none
  acquired := true
  tables := requiredCostTables
  request := {
    valuation := ⟨sampleCatalog, sampleFx, "gemini_developer_api", "paid_standard_list"⟩
    account := none
    moment := 0 }

/-- Tables with one call. -/
def oneCall : CostDb where
  usage := { noUsage with
    calls := [newCall sampleStamp sampleCoverage (sampleReceipt 1) 0 0
      ⟨none, none, "unavailable"⟩ 0] }
  revisions _ := .empty
  estimates := .empty

end samples

end AgentRuntimeOps.Usage
