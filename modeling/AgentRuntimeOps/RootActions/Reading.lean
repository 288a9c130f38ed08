import AgentRuntimeOps.RootActions.SystemReads

/-!
# Programs that read while others write

A program that reads and publishes sees one store of the service after the other, each later than
the one before (`Reader`): alone in a process, or among other threads.  Whatever the others do, the
public projection of a job is returned; which of the stores its parts come from is said by
`Reader.publicProjection`.
-/

set_option linter.unusedSectionVars false

namespace AgentRuntimeOps.RootActions

open AgentRuntimeOps.Lib Program

variable [UnicodeData]

/-- A meaning of operations under which a program sees one store of the service after the other. -/
structure Reader {V : Type} (exec : (op : Op) → V → Except Exn op.Res × V) (sees : V → Store) :
    Prop where
  read : ∀ r v, (exec (.read r) v).1 = r.run (sees v)
  leads : ∀ op v, op.isNeutral = true → (sees v).LeadsTo (sees (exec op v).2)
  published : ∀ jobId v, ∃ known : Option (Nat × String),
    (exec (.published jobId) v).1 = .ok known
  remember : ∀ bundle v, (exec (.remember bundle) v).1 = .ok ()

/-- One operation later. -/
def Next {V : Type} (exec : (op : Op) → V → Except Exn op.Res × V) (v v' : V) : Prop :=
  ∃ op, op.isNeutral = true ∧ v' = (exec op v).2

/-- A process among others sees the stores that the others leave. -/
lemma reader_among (env : Env) (p : Nat) {others : Nat → Sys → Sys} {seen : Nat → Store}
    (hseen : ∀ n w, (others n w).store = seen n) (hleads : ∀ n, (seen n).LeadsTo (seen (n + 1))) :
    Reader (among (Sys.exec env p) others) (fun v => seen v.1) where
  read r v := by
    change r.run (others v.1 v.2).store = _
    rw [hseen]
  leads op v h := hleads v.1
  published _ _ := ⟨_, rfl⟩
  remember _ _ := rfl

/-- The receipt that goes with a record. -/
structure ReceiptOf (job : SealedJob) (r : JobRecord) (receipt : Option ReceiptArtifact) : Prop where
  fits : ∀ artifact ∈ receipt, r.state.isFinal = true ∧ ReceiptFits job r artifact
  isSome : receipt.isSome = r.state.isFinal

/-- The public projection of a job, and which of its records its parts show: the receipt is that of
the second read, the status that of the third and the history that of the fifth. -/
def Projected {V : Type} (exec : (op : Op) → V → Except Exn op.Res × V) (sees : V → Store)
    (jobId : String) (job : SealedJob) (v : V) (bundle : PublicProjectionBundle) (v' : V) : Prop :=
  ∃ v₁ v₂ v₃ v₄ r₁ r₂ r₄ receipt,
    (Next exec v v₁ ∧ Next exec v₁ v₂ ∧ Next exec v₂ v₃ ∧ Next exec v₃ v₄ ∧ Next exec v₄ v') ∧
    (Known (sees v₁) jobId job r₁ ∧ Known (sees v₂) jobId job r₂ ∧ Known (sees v₄) jobId job r₄) ∧
    ReceiptOf job r₁ receipt ∧ bundle.receipt = receipt.map (·.canonicalReceipt) ∧
    bundle.status.receipt = receipt.map (fun a => (a.kind, a.receiptDigest)) ∧
    bundle.status.state = r₂ ∧
    bundle.history.events.getLast?.map (·.recordRevision) = some r₄.revision

namespace Reader

variable {V : Type} {exec : (op : Op) → V → Except Exn op.Res × V} {sees : V → Store} {v : V}
  {jobId : String} {job : SealedJob} {r : JobRecord} {cfg : BrokerConfig}

lemma next (h : Reader exec sees) {v' : V} (hnext : Next exec v v') :
    (sees v).LeadsTo (sees v') := by
  obtain ⟨op, hop, rfl⟩ := hnext
  exact h.leads op v hop

/-- A neutral program leads to later stores. -/
lemma eval (h : Reader exec sees) {α : Type} {p : Prog α} (hp : Neutral p) (v : V) :
    (sees v).LeadsTo (sees (Program.eval exec p v).2) := by
  induction p generalizing v with
  | ret a => exact .refl _
  | fail e => exact .refl _
  | call op k ih => exact (h.leads op v hp.1).trans (ih _ (hp.2 _) _)

/-- A read that succeeds. -/
lemma returns_read (h : Reader exec sees) {q : StoreRead} {a : q.Res} {Q : q.Res → V → Prop}
    (hrun : q.run (sees v) = .ok a) (hQ : ∀ v', Next exec v v' → Q a v') :
    Returns exec (Prog.read q) v Q :=
  returns_perform (Op.read q) ((h.read q v).trans hrun) (hQ _ ⟨_, rfl, rfl⟩)

lemma eval_read_error (h : Reader exec sees) {q : StoreRead} {exc : Exn}
    (hrun : q.run (sees v) = .error exc) :
    ∃ v', Program.eval exec (Prog.read q) v = (.error exc, v') ∧ Next exec v v' := by
  refine ⟨(exec (.read q) v).2, ?_, ⟨_, rfl, rfl⟩⟩
  exact (eval_perform exec (Op.read q) v).trans (Prod.ext ((h.read q v).trans hrun) rfl)

/-- The receipt of a job is read. -/
lemma readOptionalReceipt (h : Reader exec sees) (hs : SystemInv (sees v))
    (hk : Known (sees v) jobId job r) :
    Returns exec (readOptionalReceipt job) v fun receipt v' =>
      Next exec v v' ∧ ReceiptOf job r receipt := by
  cases hfinal : r.state.isFinal with
  | true =>
      obtain ⟨artifact, hretrieve, hfits⟩ := hk.retrieve_final hs hfinal
      refine returns_tryCatch (returns_bind.mpr (h.returns_read
        (q := .retrieve job.jobId job.jobDigest) (a := artifact) ?_ fun v' hnext => ?_))
      · rw [← hk.id] at hretrieve
        exact hretrieve
      · refine returns_pure ⟨hnext, fun a ha => ?_, ?_⟩
        · cases ha
          exact ⟨hfinal, hfits⟩
        · rw [hfinal]
          rfl
  | false =>
      have hretrieve : (StoreRead.retrieve job.jobId job.jobDigest).run (sees v) =
          .error (Exn.storageNotFound jobId) := by
        have hnone := hk.retrieve_open hs hfinal job.jobDigest
        rw [← hk.id] at hnone ⊢
        exact hnone
      obtain ⟨v', heval, hnext⟩ := h.eval_read_error hretrieve
      refine returns_tryCatch_of_error (eval_bind_of_error exec heval) ?_
      · refine returns_pure ⟨hnext, nofun, ?_⟩
        rw [hfinal]
        rfl

/-- The status of a job is projected from a valid record and a receipt that goes with it. -/
lemma statusProjection (h : Reader exec sees) (hs : SystemInv (sees v))
    (hwindow : cfg.lineageFailurePolicy.windowSeconds ≤ longestWindow) (hjob : job.WellFormed)
    (hvalid : r.Valid) (hid : r.jobId = job.jobId) (hdigest : r.jobDigest = job.jobDigest)
    {receipt : Option ReceiptArtifact}
    (hreceipt : ∀ artifact ∈ receipt, r.state.isFinal = true ∧ ReceiptFits job r artifact) :
    Returns exec (cfg.statusProjection job r receipt) v fun status v' =>
      Next exec v v' ∧ ∃ lineage : LineageSummary, lineage.Bounded ∧
        status = ⟨job, r, some lineage, receipt.map fun a => (a.kind, a.receiptDigest)⟩ := by
  obtain ⟨lineage, hlineage, hbounded⟩ := lineageSummary_ok hs.ledger hjob.lineageId
    hvalid.lastChangedAt hwindow
  refine returns_bind.mpr (h.returns_read (q := .lineageSummary job.lineageId
    r.lastChangedAt cfg.lineageFailurePolicy) (a := lineage) hlineage fun v' hnext => ?_)
  exact returns_ofExcept.mpr
    ⟨_, statusProjection_ok hvalid hid hdigest hreceipt, hnext, lineage, hbounded, rfl⟩

/-- **The public projection of a job is always returned.** -/
theorem publicProjection (h : Reader exec sees) (hs : SystemInv (sees v))
    (hwindow : cfg.lineageFailurePolicy.windowSeconds ≤ longestWindow)
    (hk : Known (sees v) jobId job r) :
    Returns exec (cfg.publicProjection jobId) v (Projected exec sees jobId job v) := by
  refine returns_bind.mpr (h.returns_read (q := .readSealed jobId) (a := job) hk.readSealed
    fun v₁ hnext₁ => ?_)
  have hs₁ := (h.next hnext₁).systemInv hs
  obtain ⟨r₁, hk₁, -⟩ := hk.later hs (h.next hnext₁)
  refine returns_bind.mpr ((h.readOptionalReceipt hs₁ hk₁).mono ?_)
  rintro receipt v₂ ⟨hnext₂, hreceipt⟩
  have hs₂ := (h.next hnext₂).systemInv hs₁
  obtain ⟨r₂, hk₂, -, hfinal₂⟩ := hk₁.later hs₁ (h.next hnext₂)
  refine returns_bind.mpr (h.returns_read (q := .readRecord jobId) (a := r₂) hk₂.readRecord
    fun v₃ hnext₃ => ?_)
  have hs₃ := (h.next hnext₃).systemInv hs₂
  obtain ⟨r₃, hk₃, -⟩ := hk₂.later hs₂ (h.next hnext₃)
  -- A receipt is read before the record, so the record is final when there is one.
  have hfits : ∀ artifact ∈ receipt, r₂.state.isFinal = true ∧ ReceiptFits job r₂ artifact := by
    intro artifact hartifact
    obtain ⟨hfinal, hfit⟩ := hreceipt.fits artifact hartifact
    rw [hfinal₂ hfinal]
    exact ⟨hfinal, hfit⟩
  have hid : r₂.jobId = job.jobId := hk₂.recordId.trans hk₂.id.symm
  refine returns_bind.mpr ((h.statusProjection hs₃ hwindow hk.wellFormed hk₂.valid hid
    hk₂.digest.symm hfits).mono ?_)
  rintro status v₄ ⟨hnext₄, lineage, hlineage, rfl⟩
  have hs₄ := (h.next hnext₄).systemInv hs₃
  obtain ⟨r₄, hk₄, -⟩ := hk₃.later hs₃ (h.next hnext₄)
  obtain ⟨entries, hread, hhistory⟩ := hk₄.readLedger hs₄
  refine returns_bind.mpr (h.returns_read (q := .readLedger jobId) (a := entries) hread
    fun v' hnext' => ?_)
  refine returns_bind.mpr (returns_ofExcept.mpr ⟨_, hhistory.projected, ?_⟩)
  have hsummary : ∀ summary ∈ some lineage, summary.Bounded := by
    intro summary hmem
    rw [← Option.mem_some_iff.mp hmem]
    exact hlineage
  obtain ⟨digest, hbuild⟩ := buildPublicProjection_ok hk.wellFormed hk₂.valid (hk₂.revision hs₂)
    hsummary hhistory fun artifact hartifact => (hfits artifact hartifact).2
  exact returns_ofExcept.mpr ⟨_, hbuild, v₁, v₂, v₃, v₄, r₁, r₂, r₄, receipt,
    ⟨hnext₁, hnext₂, hnext₃, hnext₄, hnext'⟩, ⟨hk₁, hk₂, hk₄⟩, hreceipt, rfl, rfl, rfl,
    hhistory.last⟩

lemma projected (h : Reader exec sees) {bundle : PublicProjectionBundle} {v' : V}
    (hp : Projected exec sees jobId job v bundle v') : (sees v).LeadsTo (sees v') := by
  obtain ⟨v₁, v₂, v₃, v₄, -, -, -, -, ⟨h₁, h₂, h₃, h₄, h₅⟩, -⟩ := hp
  exact (h.next h₁).trans ((h.next h₂).trans ((h.next h₃).trans ((h.next h₄).trans (h.next h₅))))

/-- Publishing a projection raises nothing. -/
lemma publishBestEffort (h : Reader exec sees) (bundle : PublicProjectionBundle) :
    Returns exec (cfg.publishBestEffort bundle) v fun _ v' => (sees v).LeadsTo (sees v') := by
  have hneutral : Neutral (do
      cfg.publish bundle
      cfg.publishCatalog
      return true) :=
    allOps_bind (neutral_publish cfg bundle) fun _ =>
      allOps_bind (neutral_publishCatalog cfg) fun _ => trivial
  refine returns_bind.mpr (returns_tryCatch_pure _ v (fun _ => false) fun done => ?_)
  have hleads := h.eval hneutral v
  cases done with
  | true =>
      refine returns_perform (Op.remember bundle) (h.remember bundle _) ?_
      exact hleads.trans (h.leads (.remember bundle) _ rfl)
  | false => exact returns_pure hleads

lemma publishNewer (h : Reader exec sees) (hs : SystemInv (sees v))
    (hwindow : cfg.lineageFailurePolicy.windowSeconds ≤ longestWindow)
    (hk : Known (sees v) jobId job r) (bundle : PublicProjectionBundle) :
    Returns exec (cfg.publishNewer jobId bundle) v fun _ v' => (sees v).LeadsTo (sees v') := by
  obtain ⟨known, hknown⟩ := h.published jobId v
  have hleads := h.leads (.published jobId) v rfl
  refine returns_bind.mpr (returns_perform (Op.published jobId) (a := known) hknown ?_)
  split_ifs
  · obtain ⟨r', hk', -⟩ := hk.later hs hleads
    exact (h.publicProjection (hleads.systemInv hs) hwindow hk').mono fun _ _ hp =>
      hleads.trans (h.projected hp)
  · exact returns_pure hleads
  · refine returns_bind.mpr ((h.publishBestEffort bundle).mono fun _ v' hleads' => ?_)
    exact returns_pure (hleads.trans hleads')

/-- **The published copy of a job is repaired**, whatever the others do. -/
theorem repairPublic (h : Reader exec sees) (hs : SystemInv (sees v))
    (hwindow : cfg.lineageFailurePolicy.windowSeconds ≤ longestWindow)
    (hk : Known (sees v) jobId job r) (bundle : Option PublicProjectionBundle) :
    Returns exec (cfg.repairPublic jobId bundle) v fun _ v' => (sees v).LeadsTo (sees v') := by
  refine returns_bind.mpr (h.returns_read (q := .readRecord jobId) (a := r) hk.readRecord
    fun v₁ hnext₁ => ?_)
  have hleads := h.next hnext₁
  have hs₁ := hleads.systemInv hs
  obtain ⟨r₁, hk₁, -⟩ := hk.later hs hleads
  split
  · exact (h.publishNewer hs₁ hwindow hk₁ _).mono fun _ _ hleads' => hleads.trans hleads'
  · refine returns_bind.mpr ((h.publicProjection hs₁ hwindow hk₁).mono fun bundle v₂ hp => ?_)
    have hleads₂ := h.projected hp
    obtain ⟨r₂, hk₂, -⟩ := hk₁.later hs₁ hleads₂
    exact (h.publishNewer (hleads₂.systemInv hs₁) hwindow hk₂ bundle).mono fun _ _ hleads' =>
      hleads.trans (hleads₂.trans hleads')

end Reader

end AgentRuntimeOps.RootActions
