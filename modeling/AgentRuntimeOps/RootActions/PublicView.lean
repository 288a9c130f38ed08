import AgentRuntimeOps.RootActions.Reading
import AgentRuntimeOps.RootActions.Settling

/-!
# The public view of a job that is being finalized

`public_projection` reads the receipt, the record and the ledger of a job one after the other, and
the worker may finalize the job between two of these reads.  The view then shows the record of one
store and the receipt or the history of another.
-/

set_option linter.unusedSectionVars false

namespace AgentRuntimeOps.RootActions

open AgentRuntimeOps.Lib Program Connection

/-! ## One store -/

/-- The receipt is one of the state of the record. -/
def receiptMatches (record : JobRecord) (receipt : Json) : Prop :=
  (record.state = .unknown ↔ receipt.textField "kind" = "unknown") ∧
    receipt.field "terminal_outcome" = .ofOption (record.terminalOutcome.map (·.value))

/-- The view describes one store: a final state goes with its receipt, and the last event of the
history has the revision of the state. -/
def PublicProjectionBundle.Consistent (bundle : PublicProjectionBundle) : Prop :=
  (bundle.status.state.state.isFinal = true ↔
      ∃ receipt, bundle.receipt = some receipt ∧ receiptMatches bundle.status.state receipt) ∧
    bundle.history.events.getLast?.map (·.recordRevision) = some bundle.status.state.revision

/-- The call finalizes the claimed execution of a job. -/
def StoreWrite.Finalizes (jobId : String) : StoreWrite → Prop
  | .completeClaimedExecution event .. | .markClaimedExecutionUnknown event .. =>
      event.jobId = jobId
  | _ => False

variable [UnicodeData]

lemma ReceiptFits.matches {job : SealedJob} {r : JobRecord} {artifact : ReceiptArtifact}
    (h : ReceiptFits job r artifact) (hfinal : r.state.isFinal = true) :
    receiptMatches r artifact.canonicalReceipt := by
  obtain ⟨-, -, -, hartifact⟩ := sealReceipt_ok.mp h.verified
  have hkind : artifact.kind = artifact.canonicalReceipt.textField "kind" := congrArg _ hartifact
  refine ⟨⟨fun hunknown => hkind ▸ h.unknown hunknown, fun hunknown => ?_⟩, h.outcome⟩
  cases hstate : r.state with
  | unknown => rfl
  | terminal => exact absurd (hkind.trans hunknown) (h.terminal hstate)
  | pending => rw [hstate] at hfinal; cases hfinal
  | running => rw [hstate] at hfinal; cases hfinal

/-- A receipt is read exactly when the record is final, and it is one of its state. -/
lemma ReceiptOf.isFinal_iff {job : SealedJob} {r : JobRecord} {receipt : Option ReceiptArtifact}
    (h : ReceiptOf job r receipt) :
    r.state.isFinal = true ↔ ∃ shown, receipt.map (·.canonicalReceipt) = some shown ∧
      receiptMatches r shown := by
  cases receipt with
  | none =>
      have hopen : r.state.isFinal = false := h.isSome.symm
      rw [hopen]
      simp
  | some artifact =>
      obtain ⟨hfinal, hfits⟩ := h.fits artifact rfl
      exact ⟨fun _ => ⟨_, rfl, hfits.matches hfinal⟩, fun _ => hfinal⟩

lemma ReceiptOf.eq_none {job : SealedJob} {r : JobRecord} {receipt : Option ReceiptArtifact}
    (h : ReceiptOf job r receipt) (hopen : r.state.isFinal = false) : receipt = none :=
  Option.not_isSome_iff_eq_none.mp (by rw [h.isSome, hopen]; exact Bool.false_ne_true)

lemma finalizes_moves {jobId : String} {c : StoreWrite} {s s' : Store} {a : c.Res}
    (hc : c.Finalizes jobId) (hrun : c.run s = (.ok a, s')) :
    ∃ r r', s.records.find? jobId = some r ∧ r.state.isFinal = false ∧
      s'.records.find? jobId = some r' ∧ r'.state.isFinal = true ∧
      r'.revision = r.revision + 1 := by
  cases c with
  | completeClaimedExecution event raw receipt =>
      obtain rfl : event.jobId = jobId := hc
      obtain ⟨-, hkind, hfinal⟩ := Store.completeClaimedExecution_ok.mp hrun
      obtain ⟨r, hr⟩ := finalize_moves (.inl hkind) hfinal
      exact ⟨r, a, hr⟩
  | markClaimedExecutionUnknown event raw receipt =>
      obtain rfl : event.jobId = jobId := hc
      obtain ⟨-, hkind, hfinal⟩ := Store.markClaimedExecutionUnknown_ok.mp hrun
      obtain ⟨r, hr⟩ := finalize_moves (.inr hkind) hfinal
      exact ⟨r, a, hr⟩
  | _ => exact hc.elim

/-- Others move one operation on. -/
lemma fst_of_next {W : Type} {exec : (op : Op) → W → Except Exn op.Res × W}
    {others : Nat → W → W} {v v' : Nat × W} (h : Next (among exec others) v v') :
    v'.1 = v.1 + 1 := by
  obtain ⟨op, -, rfl⟩ := h
  rfl

/-- One commit leads to a later store. -/
lemma commit_leads {s s' : Store} (h : s.LeadsTo s') (k n : Nat) :
    (if n < k then s else s').LeadsTo (if n + 1 < k then s else s') := by
  by_cases hn : n + 1 < k
  · rw [if_pos hn, if_pos (by omega)]
    exact .refl _
  · rw [if_neg hn]
    split_ifs
    · exact h
    · exact .refl _

section commit

variable {s s' : Store} {c : StoreWrite} {a : c.Res} {jobId : String} {env : Env}
  {cfg : BrokerConfig} {p k : Nat} {others : Nat → Sys → Sys}

/-- **What the public view shows** when the job is finalized during `public_projection`.  The first
`k` operations see the store before the commit of the worker, the others the one after it; the
receipt, the record and the ledger are read by the second, the third and the fifth. -/
lemma publicProjection_during (w : Sys)
    (hs : ReachableBy (fun c => c.isSystem = true) s) (hsystem : c.isSystem = true)
    (hc : c.Finalizes jobId) (hrun : c.run s = (.ok a, s'))
    (hwindow : cfg.lineageFailurePolicy.windowSeconds ≤ longestWindow)
    (hothers : ∀ n w, (others n w).store = if n < k then s else s') :
    ∃ r r' job receipt bundle v, r.state.isFinal = false ∧ r'.state.isFinal = true ∧
      r'.revision = r.revision + 1 ∧
      eval (among (Sys.exec env p) others) (cfg.publicProjection jobId) (0, w) = (.ok bundle, v) ∧
      ReceiptOf job (if 1 < k then r else r') receipt ∧
      bundle.receipt = receipt.map (·.canonicalReceipt) ∧
      bundle.status.state = (if 2 < k then r else r') ∧
      bundle.history.events.getLast?.map (·.recordRevision) =
        some (if 4 < k then r else r').revision := by
  have hinv := SystemInv.of_reachable hs
  obtain ⟨r, r', hr, hopen, hr', hfinal, hrevision⟩ := finalizes_moves hc hrun
  have hleads : s.LeadsTo s' := by
    have hafter := Store.LeadsTo.after hsystem s
    rwa [StoreWrite.after_of_ok hrun] at hafter
  have hreader : Reader (among (Sys.exec env p) others) (fun v => if v.1 < k then s else s') :=
    reader_among env p hothers (commit_leads hleads k)
  -- The records that the view can show.
  have hshown : ∀ {n : Nat} {job : SealedJob} {q : JobRecord},
      Known (if n < k then s else s') jobId job q → q = if n < k then r else r' := by
    intro n job q hq
    have hfound := hq.found
    split_ifs at hfound ⊢
    · exact Option.some.inj (hfound.symm.trans hr)
    · exact Option.some.inj (hfound.symm.trans hr')
  have hinv' : SystemInv (if 0 < k then s else s') := by
    split_ifs
    · exact hinv
    · exact hleads.systemInv hinv
  obtain ⟨q, hq⟩ : ∃ q, (if 0 < k then s else s').records.find? jobId = some q := by
    split_ifs
    · exact ⟨r, hr⟩
    · exact ⟨r', hr'⟩
  obtain ⟨job, hk⟩ := Known.of_record hinv' hq
  obtain ⟨bundle, v, heval, hprojected⟩ :=
    hreader.publicProjection (v := (0, w)) hinv' hwindow hk
  obtain ⟨v₁, v₂, v₃, v₄, r₁, r₂, r₄, receipt, ⟨h₁, h₂, h₃, h₄, -⟩, ⟨hk₁, hk₂, hk₄⟩, hreceipt,
    hbundle, -, hstate, hlast⟩ := hprojected
  have hv₁ : v₁.1 = 1 := fst_of_next h₁
  have hv₂ : v₂.1 = 2 := by rw [fst_of_next h₂, hv₁]
  have hv₄ : v₄.1 = 4 := by rw [fst_of_next h₄, fst_of_next h₃, hv₂]
  have hr₁ := hshown hk₁
  have hr₂ := hshown hk₂
  have hr₄ := hshown hk₄
  rw [hv₁] at hr₁
  rw [hv₂] at hr₂
  rw [hv₄] at hr₄
  refine ⟨r, r', job, receipt, bundle, v, hopen, hfinal, hrevision, heval, ?_, hbundle, ?_, ?_⟩
  · rw [← hr₁]
    exact hreceipt
  · rw [hstate, hr₂]
  · rw [hlast, hr₄]

/-- **The public view is always returned, and it describes one store exactly when the job is not
finalized between the read of its receipt and that of its ledger.** -/
theorem public_view_consistent_iff (w : Sys)
    (hs : ReachableBy (fun c => c.isSystem = true) s) (hsystem : c.isSystem = true)
    (hc : c.Finalizes jobId) (hrun : c.run s = (.ok a, s'))
    (hwindow : cfg.lineageFailurePolicy.windowSeconds ≤ longestWindow)
    (hothers : ∀ n w, (others n w).store = if n < k then s else s') :
    ∃ bundle v, eval (among (Sys.exec env p) others) (cfg.publicProjection jobId) (0, w) =
        (.ok bundle, v) ∧ (bundle.Consistent ↔ k ≤ 1 ∨ 5 ≤ k) := by
  obtain ⟨r, r', job, receipt, bundle, v, hopen, hfinal, hrevision, heval, hreceipt, hbundle, hstate,
    hlast⟩ := publicProjection_during w hs hsystem hc hrun hwindow hothers
  refine ⟨bundle, v, heval, ?_⟩
  unfold PublicProjectionBundle.Consistent
  rw [hstate, hlast, hbundle]
  rcases (by omega : k ≤ 1 ∨ k = 2 ∨ (2 < k ∧ k ≤ 4) ∨ 5 ≤ k) with hk | hk | hk | hk
  · -- Every read is of the store after the commit.
    rw [if_neg (by omega)] at hreceipt
    rw [if_neg (by omega), if_neg (by omega)]
    exact iff_of_true ⟨hreceipt.isFinal_iff, rfl⟩ (.inl hk)
  · -- The receipt is read before the commit, the record after it.
    rw [if_pos (by omega)] at hreceipt
    rw [if_neg (by omega), hreceipt.eq_none hopen, hfinal]
    simp [hk]
  · -- The record is read before the commit, the ledger after it.
    rw [if_pos (by omega), if_neg (by omega)]
    refine iff_of_false (fun h => ?_) (by omega)
    have hsame := Option.some.inj h.2
    omega
  · -- Every read is of the store before the commit.
    rw [if_pos (by omega)] at hreceipt
    rw [if_pos (by omega), if_pos (by omega)]
    exact iff_of_true ⟨hreceipt.isFinal_iff, rfl⟩ (.inr hk)

end commit

omit [UnicodeData] in
/-- The execution of the sample job is finalized. -/
lemma finalized_sample {s : Store} :
    let _ := UnicodeData.asciiOnly
    SystemInv s → s.HoldsClaimed →
    ∃ (c : StoreWrite) (a : c.Res) (s' : Store), c.isSystem = true ∧ c.Finalizes "job" ∧
      c.run s = (.ok a, s') := by
  intro _ hs hclaimed
  have hreason : isSafeId "worker_lost" = true := by decide
  have hnote : (failureNote "Lost" "worker_lost").length ≤ maxRawReceiptBytes := by decide
  obtain ⟨sealed, s', hsealed, -, hmark⟩ := mark_ok hs hclaimed.known rfl hreason
    (markable_sample hclaimed hnote)
  refine ⟨.markClaimedExecutionUnknown _ _ _, _, s', ?_, ?_, hmark⟩
  · refine decide_eq_true ?_
    rw [canonicalReceipt_of_sealUnknown hsealed]
    rfl
  · rfl

/-- The worker commits `s'` after `k` operations. -/
def commitAfter (k : Nat) (s s' : Store) (n : Nat) (w : Sys) : Sys :=
  { w with store := if n < k then s else s' }

omit [UnicodeData] in
/-- A view that is read before the commit. -/
theorem public_view_consistent_sample :
    let _ := UnicodeData.asciiOnly
    let env := sampleEnv fun _ => ("event", "2026-01-01T00:00:00Z")
    ∃ s s' bundle v, eval (among (Sys.exec env 0) (commitAfter 5 s s'))
      (sampleConfig.publicProjection "job") (0, Sys.initial) = (.ok bundle, v) ∧
        bundle.Consistent := by
  intro _ env
  obtain ⟨s, hs, hclaimed⟩ := running_sample
  obtain ⟨c, a, s', hsystem, hc, hrun⟩ := finalized_sample (SystemInv.of_reachable hs) hclaimed
  obtain ⟨bundle, v, heval, hiff⟩ := @public_view_consistent_iff _ s s' c a "job" env sampleConfig
    0 5 (commitAfter 5 s s') Sys.initial hs hsystem hc hrun (by decide) fun _ _ => rfl
  exact ⟨s, s', bundle, v, heval, hiff.mpr (.inr le_rfl)⟩

omit [UnicodeData] in
/-- **A view of two stores**: the worker commits after the receipt was read and before the record
is.  The view shows a final state and no receipt. -/
theorem public_view_without_receipt :
    let _ := UnicodeData.asciiOnly
    let env := sampleEnv fun _ => ("event", "2026-01-01T00:00:00Z")
    ∃ (s s' : Store) (c : StoreWrite) (a : c.Res) (bundle : PublicProjectionBundle) (v : Nat × Sys),
      ReachableBy (fun c => c.isSystem = true) s ∧ c.Finalizes "job" ∧ c.run s = (.ok a, s') ∧
      eval (among (Sys.exec env 0) (commitAfter 2 s s')) (sampleConfig.publicProjection "job")
        (0, Sys.initial) = (.ok bundle, v) ∧
      bundle.status.state.state.isFinal = true ∧ bundle.receipt = none ∧ ¬ bundle.Consistent := by
  intro _ env
  obtain ⟨s, hs, hclaimed⟩ := running_sample
  obtain ⟨c, a, s', hsystem, hc, hrun⟩ := finalized_sample (SystemInv.of_reachable hs) hclaimed
  obtain ⟨r, r', job, receipt, bundle, v, hopen, hfinal, -, heval, hreceipt, hbundle, hstate, -⟩ :=
    @publicProjection_during _ s s' c a "job" env sampleConfig 0 2 (commitAfter 2 s s') Sys.initial
      hs hsystem hc hrun (by decide) fun _ _ => rfl
  have hshown : bundle.status.state.state.isFinal = true := by
    rw [hstate]
    exact hfinal
  have hnone : bundle.receipt = none := by
    rw [hbundle, hreceipt.eq_none hopen]
    rfl
  refine ⟨s, s', c, a, bundle, v, hs, hc, hrun, heval, hshown, hnone, fun h => ?_⟩
  obtain ⟨shown, hsome, -⟩ := h.1.mp hshown
  rw [hnone] at hsome
  cases hsome

end AgentRuntimeOps.RootActions
