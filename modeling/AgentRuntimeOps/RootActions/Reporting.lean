import AgentRuntimeOps.RootActions.PublicView
import AgentRuntimeOps.RootActions.Running

/-!
# Reporting a job that is being finalized

`submit`, a retry of it and `status` capture a record of the job and read its receipt afterwards.
`status_projection` refuses a receipt next to a record that is not final, so the three report the
job exactly when it was not finalized between the two (`reports_iff`).
-/

set_option linter.unusedSectionVars false

namespace AgentRuntimeOps.RootActions

open AgentRuntimeOps.Lib Program Connection

variable [UnicodeData]

/-- The job is `UNKNOWN` or `TERMINAL`. -/
def Store.Final (s : Store) (jobId : String) : Prop :=
  ∃ r, s.records.find? jobId = some r ∧ r.state.isFinal = true

/-- The program returns. -/
abbrev Reported {V α : Type} (exec : (op : Op) → V → Except Exn op.Res × V) (p : Prog α) (v : V) :
    Prop :=
  Returns exec p v fun _ _ => True

lemma Known.final_iff {s : Store} {jobId : String} {job : SealedJob} {r : JobRecord}
    (h : Known s jobId job r) : s.Final jobId ↔ r.state.isFinal = true := by
  constructor
  · rintro ⟨r', hr', hfinal⟩
    rw [h.found] at hr'
    cases hr'
    exact hfinal
  · exact fun hfinal => ⟨r, h.found, hfinal⟩

namespace Reader

variable {V : Type} {exec : (op : Op) → V → Except Exn op.Res × V} {sees : V → Store} {v : V}
  {jobId : String} {job : SealedJob} {record r : JobRecord} {cfg : BrokerConfig}

/-- **A status is projected from a captured record** exactly when the job was not finalized since. -/
lemma projects_iff (h : Reader exec sees) (hs : SystemInv (sees v))
    (hwindow : cfg.lineageFailurePolicy.windowSeconds ≤ longestWindow)
    (hk : Known (sees v) jobId job r) (hvalid : record.Valid) (hid : record.jobId = job.jobId)
    (hdigest : record.jobDigest = job.jobDigest) (hsame : record.state.isFinal = true → r = record)
    {β : Type} {rest : StatusProjection → Prog β}
    (hrest : ∀ status v', (sees v).LeadsTo (sees v') → Reported exec (rest status) v') :
    Reported exec (do
        let receipt ← RootActions.readOptionalReceipt job
        let status ← cfg.statusProjection job record receipt
        rest status) v ↔
      ((sees v).Final jobId → record.state.isFinal = true) := by
  rw [hk.final_iff]
  constructor
  · intro hreturns hfinal
    by_contra hopen
    obtain ⟨receipt, v₁, -, hstatus, -, hreceipt⟩ :=
      (returns_bind.mp hreturns).and (h.readOptionalReceipt hs hk)
    -- The receipt that is read belongs to the final record.
    obtain ⟨artifact, rfl⟩ := Option.isSome_iff_exists.mp (hreceipt.isSome.trans hfinal)
    obtain ⟨lineage, v₂, -, hof⟩ := returns_bind.mp (returns_bind.mp hstatus)
    obtain ⟨status', hstatus', -⟩ := returns_ofExcept.mp hof
    exact statusProjection_open (by simpa using hopen) artifact status' hstatus'
  · intro hcond
    refine returns_bind.mpr ((h.readOptionalReceipt hs hk).mono ?_)
    rintro receipt v₁ ⟨hnext, hreceipt⟩
    have hleads := h.next hnext
    have hfits : ∀ artifact ∈ receipt, record.state.isFinal = true ∧
        ReceiptFits job record artifact := by
      intro artifact hartifact
      obtain ⟨hfinal, hfits⟩ := hreceipt.fits artifact hartifact
      have hrecord := hcond hfinal
      rw [← hsame hrecord]
      exact ⟨hfinal, hfits⟩
    refine returns_bind.mpr ((h.statusProjection (hleads.systemInv hs) hwindow hk.wellFormed hvalid
      hid hdigest hfits).mono ?_)
    rintro status v₂ ⟨hnext₂, -⟩
    exact hrest status v₂ (hleads.trans (h.next hnext₂))

/-- **A captured record is reported** exactly when the job was not finalized since. -/
lemma reportSubmitted_iff (h : Reader exec sees) (hs : SystemInv (sees v))
    (hwindow : cfg.lineageFailurePolicy.windowSeconds ≤ longestWindow)
    (hk : Known (sees v) jobId job r) (hvalid : record.Valid) (hid : record.jobId = job.jobId)
    (hdigest : record.jobDigest = job.jobDigest) (hsame : record.state.isFinal = true → r = record) :
    Reported exec (cfg.reportSubmitted job record) v ↔
      ((sees v).Final jobId → record.state.isFinal = true) := by
  refine h.projects_iff hs hwindow hk hvalid hid hdigest hsame fun status v' hleads => ?_
  obtain ⟨r', hk', -⟩ := hk.later hs hleads
  rw [hk.id]
  have hrepair := h.repairPublic (hleads.systemInv hs) hwindow hk' none
  refine returns_bind.mpr (returns_bind.mpr (hrepair.mono fun _ _ _ => ?_))
  exact returns_pure (returns_pure trivial)

end Reader

/-! ## Among other threads -/

section others

variable {env : Env} {p : Nat} {others : Nat → Sys → Sys}

/-- A process among threads of the service, whatever they do. -/
lemma reader_others (hothers : ∀ n (w : Sys), w.store.LeadsTo (others n w).store) :
    Reader (among (Sys.exec env p) others) (fun v => (others v.1 v.2).store) where
  read _ _ := rfl
  leads op v h := by
    have hsame := (exec_of_isSilent (isSilent_of_isNeutral h) env p (others v.1 v.2)).1
    have hleads := hothers (v.1 + 1) (Sys.exec env p op (others v.1 v.2)).2
    rw [hsame] at hleads
    exact hleads
  published _ _ := ⟨_, rfl⟩
  remember _ _ := rfl

/-- A thread of the service leads to later stores. -/
lemma Keeps.leads (env : Env) (p : Nat)
    (hothers : ∀ n (w : Sys), w.store.LeadsTo (others n w).store) {α : Type} {held : Held}
    {code : Prog α} (h : Keeps held code) (v : Nat × Sys) :
    v.2.store.LeadsTo (eval (among (Sys.exec env p) others) code v).2.2.store := by
  induction code generalizing held v with
  | ret a => exact .refl _
  | fail e => exact .refl _
  | call op k ih =>
      have hop : (others v.1 v.2).store.LeadsTo (Sys.exec env p op (others v.1 v.2)).2.store := by
        cases op with
        | write c => exact .after h.1.1 _
        | _ =>
            rw [exec_store_of_ne_write (by intro c hc; cases hc)]
            exact .refl _
      have hanswers : ∀ a, (Sys.exec env p op (others v.1 v.2)).1 = .ok a → Answers op a :=
        fun a ha => answers_exec ha
      have hrest := ih (among (Sys.exec env p) others op v).1 (h.2 _ _ ⟨hanswers, rfl⟩)
        (among (Sys.exec env p) others op v).2
      exact (hothers v.1 v.2).trans (hop.trans hrest)

lemma eval_write_among {c : StoreWrite} {a : c.Res} {v v' : Nat × Sys}
    (h : eval (among (Sys.exec env p) others) (Prog.write c) v = (.ok a, v')) :
    c.run (others v.1 v.2).store = (.ok a, v'.2.store) := by
  have hexec : among (Sys.exec env p) others (.write c) v = (.ok a, v') :=
    (eval_perform _ (Op.write c) v).symm.trans h
  obtain ⟨hfst, rfl⟩ := Prod.ext_iff.mp hexec
  exact Prod.ext hfst rfl

lemma eval_read_among {q : StoreRead} {a : q.Res} {v v' : Nat × Sys}
    (h : eval (among (Sys.exec env p) others) (Prog.read q) v = (.ok a, v')) :
    q.run (others v.1 v.2).store = .ok a ∧ v'.2.store = (others v.1 v.2).store := by
  have hexec : among (Sys.exec env p) others (.read q) v = (.ok a, v') :=
    (eval_perform _ (Op.read q) v).symm.trans h
  obtain ⟨hfst, rfl⟩ := Prod.ext_iff.mp hexec
  exact ⟨hfst, rfl⟩

/-- The record was one of the job in an earlier store. -/
def Captured (job : SealedJob) (record : JobRecord) (s' : Store) : Prop :=
  ∃ s, SystemInv s ∧ Known s job.jobId job record ∧ s.LeadsTo s'

lemma Captured.later {job : SealedJob} {record : JobRecord} {s s' : Store}
    (h : Captured job record s) (hleads : s.LeadsTo s') : Captured job record s' := by
  obtain ⟨s₀, hs₀, hk, hleads₀⟩ := h
  exact ⟨s₀, hs₀, hk, hleads₀.trans hleads⟩

lemma captured_of_find? {job : SealedJob} {r record : JobRecord} {s s' : Store} (hs : SystemInv s)
    (hk : Known s job.jobId job r) (hleads : s.LeadsTo s')
    (hfound : s'.records.find? job.jobId = some record) : Captured job record s' := by
  obtain ⟨r', hk', -⟩ := hk.later hs hleads
  obtain rfl : r' = record := Option.some.inj (hk'.found.symm.trans hfound)
  exact ⟨s', hleads.systemInv hs, hk', .refl _⟩

/-- The dispatch of a claimed record returns it, or a later one. -/
lemma captured_dispatch (hothers : ∀ n (w : Sys), w.store.LeadsTo (others n w).store)
    {job : SealedJob} {claimed record : JobRecord} {cfg : BrokerConfig} {v v' : Nat × Sys}
    (hcaptured : Captured job claimed v.2.store)
    (heval : eval (among (Sys.exec env p) others) (tryCatch
        (do
          cfg.enqueue claimed.jobId claimed.jobDigest
          return claimed)
        fun _ => tryCatch (Prog.read (.readRecord job.jobId)) fun _ => return claimed) v =
      (.ok record, v')) : Captured job record v'.2.store := by
  have hkeeps : Keeps (.claimed claimed.jobId) (do
      cfg.enqueue claimed.jobId claimed.jobDigest
      return claimed) := keeps_bind (keeps_enqueue cfg _ _) fun _ _ _ => trivial
  have hleads := hkeeps.leads env p hothers v
  rw [eval_tryCatch] at heval
  rcases hdispatch : eval (among (Sys.exec env p) others) (do
      cfg.enqueue claimed.jobId claimed.jobDigest
      return claimed) v with ⟨exc | a, v₁⟩
  · rw [hdispatch] at heval hleads
    have hcaptured₁ := hcaptured.later hleads
    have hread := (keeps_of_neutral (neutral_read (.readRecord job.jobId)) .none).leads env p
      hothers v₁
    have heval := (eval_tryCatch _ (Prog.read (.readRecord job.jobId)) (fun _ => pure claimed)
      v₁).symm.trans heval
    rcases hrecord : eval (among (Sys.exec env p) others) (Prog.read (.readRecord job.jobId)) v₁ with
      ⟨exc' | a, v₂⟩
    · rw [hrecord] at heval hread
      have hsame : ((Except.ok claimed : Except Exn JobRecord), v₂) = (.ok record, v') := heval
      cases hsame
      exact hcaptured₁.later hread
    · -- The record is read again after the dispatch failed.
      rw [hrecord] at heval hread
      have hsame : ((Except.ok a : Except Exn JobRecord), v₂) = (.ok record, v') := heval
      cases hsame
      obtain ⟨s₀, hs₀, hk₀, hleads₀⟩ := hcaptured₁.later hread
      obtain ⟨hrun, hstore⟩ := eval_read_among hrecord
      refine captured_of_find? hs₀ hk₀ hleads₀ ?_
      rw [hstore]
      exact (readRecord_ok.mp hrun).1
  · rw [hdispatch] at heval hleads
    obtain ⟨rfl, rfl⟩ : a = record ∧ v₁ = v' := by simpa using heval
    obtain ⟨_, v₂, -, hpure⟩ := returns_bind.mp
      (⟨a, v₁, hdispatch, rfl⟩ : Returns _ _ v fun x _ => x = a)
    obtain ⟨_, _, hpure, rfl⟩ := hpure
    cases hpure
    exact hcaptured.later hleads

/-- What `_auto_claim_and_dispatch` returns was a record of the job. -/
lemma captured_autoClaimAndDispatch (hothers : ∀ n (w : Sys), w.store.LeadsTo (others n w).store)
    {job : SealedJob} {r record claimed : JobRecord} {cfg : BrokerConfig} {v v' : Nat × Sys}
    (hs : SystemInv v.2.store) (hk : Known v.2.store job.jobId job r)
    (heval : eval (among (Sys.exec env p) others) (cfg.autoClaimAndDispatch job record) v =
      (.ok claimed, v')) : Captured job claimed v'.2.store := by
  have hreturns : Returns (among (Sys.exec env p) others) (cfg.autoClaimAndDispatch job record) v
    fun a w => a = claimed ∧ w = v' := ⟨claimed, v', heval, rfl, rfl⟩
  obtain ⟨event, v₁, hevent, hreturns⟩ := returns_bind.mp hreturns
  obtain ⟨claimed₀, v₂, hclaim, claimed', v'', hdispatch, rfl, rfl⟩ := returns_bind.mp hreturns
  have hleads₁ : v.2.store.LeadsTo v₁.2.store := by
    have hnext := (keeps_of_neutral neutral_nextEvent .none).leads env p hothers v
    rwa [hevent] at hnext
  have hleads := hleads₁.trans (hothers v₁.1 v₁.2)
  have hrun := eval_write_among hclaim
  have hclaimed := find?_of_compareAndAppend (Tx.transaction_ok.mp hrun) job.jobId
  have hafter : (others v₁.1 v₁.2).store.LeadsTo v₂.2.store := by
    rw [← StoreWrite.after_of_ok hrun]
    exact .after rfl _
  have hcaptured : Captured job claimed₀ v₂.2.store :=
    captured_of_find? hs hk (hleads.trans hafter) (hclaimed.trans (if_pos rfl))
  exact captured_dispatch hothers hcaptured hdispatch

lemma Captured.reportSubmitted_iff {V : Type} {exec : (op : Op) → V → Except Exn op.Res × V}
    {sees : V → Store} (h : Reader exec sees) {v : V} {job : SealedJob} {record : JobRecord}
    {cfg : BrokerConfig} (hcaptured : Captured job record (sees v))
    (hwindow : cfg.lineageFailurePolicy.windowSeconds ≤ longestWindow) :
    Reported exec (cfg.reportSubmitted job record) v ↔
      ((sees v).Final job.jobId → record.state.isFinal = true) := by
  obtain ⟨s, hs, hk, hleads⟩ := hcaptured
  obtain ⟨r, hk', -, hsame⟩ := hk.later hs hleads
  exact h.reportSubmitted_iff (hleads.systemInv hs) hwindow hk' hk.valid hk.recordId hk.digest.symm
    hsame

end others

/-- A sealed job has a record. -/
lemma Known.of_sealed {s : Store} {jobId : String} {job : SealedJob} (hs : SystemInv s)
    (hsealed : s.readSealed jobId = .ok job) : ∃ r, Known s jobId job r := by
  obtain ⟨row, hrow, -, rfl⟩ := readSealed_ok.mp hsealed
  obtain ⟨r, hr⟩ := hs.recorded jobId row hrow
  obtain ⟨job, hk⟩ := Known.of_record hs hr
  obtain ⟨submission, hrow'⟩ := hk.row
  rw [hrow] at hrow'
  cases hrow'
  exact ⟨r, hk⟩

section calls

variable {env : Env} {p : Nat} {cfg : BrokerConfig} {others : Nat → Sys → Sys} {seen : Nat → Store}
  {job : SealedJob}

/-- A submission is reported exactly when the job is not finalized after the claim was captured. -/
lemma afterSeal_reported_iff (hwindow : cfg.lineageFailurePolicy.windowSeconds ≤ longestWindow)
    (hothers : ∀ n (w : Sys), w.store.LeadsTo (others n w).store) {policy : ExecutionPolicy}
    {record claimed : JobRecord} {v v' : Nat × Sys}
    (hs : ReachableBy (fun c => c.isSystem = true) v.2.store)
    (hsealed : v.2.store.readSealed job.jobId = .ok job) (hauto : policy.autoDispatch = true)
    (heval : eval (among (Sys.exec env p) others) (cfg.autoClaimAndDispatch job record) v =
      (.ok claimed, v')) :
    Reported (among (Sys.exec env p) others) (cfg.afterSeal job policy record true) v ↔
      ((others v'.1 v'.2).store.Final job.jobId → claimed.state.isFinal = true) := by
  have hinv := SystemInv.of_reachable hs
  obtain ⟨r, hk⟩ := Known.of_sealed hinv hsealed
  have hcaptured := (captured_autoClaimAndDispatch hothers hinv hk heval).later (hothers v'.1 v'.2)
  unfold BrokerConfig.afterSeal
  rw [hauto, Bool.and_true, if_pos rfl]
  exact (returns_bind.trans (returns_of_eval heval)).trans
    (hcaptured.reportSubmitted_iff (reader_others hothers) hwindow)

lemma seen_leads (hleads : ∀ n, (seen n).LeadsTo (seen (n + 1))) (n : Nat) :
    (seen 0).LeadsTo (seen n) := by
  induction n with
  | zero => exact .refl _
  | succ n ih => exact ih.trans (hleads n)

/-- A read among others, by number. -/
lemma eval_read_seen (env : Env) (p : Nat) (hseen : ∀ n w, (others n w).store = seen n)
    (q : StoreRead) {a : q.Res} {n : Nat} (w : Sys) (hrun : q.run (seen n) = .ok a) :
    ∃ w', eval (among (Sys.exec env p) others) (Prog.read q) (n, w) = (.ok a, (n + 1, w')) := by
  refine ⟨_, (eval_perform _ (Op.read q) (n, w)).trans (Prod.ext ?_ rfl)⟩
  change q.run (others n w).store = .ok a
  rw [hseen]
  exact hrun

/-- A retry is reported exactly when the job is not finalized between its last two reads. -/
lemma recoverIdempotent_reported_iff
    (hwindow : cfg.lineageFailurePolicy.windowSeconds ≤ longestWindow)
    (hseen : ∀ n w, (others n w).store = seen n) (hleads : ∀ n, (seen n).LeadsTo (seen (n + 1)))
    (hs : ReachableBy (fun c => c.isSystem = true) (seen 0))
    (hsealed : (seen 0).readSealed job.jobId = .ok job) {peer : BrokerPeerIdentity}
    {submission : SubmissionMetadata}
    (hsubmission : (seen 0).submissionMetadata job.jobId = .ok submission)
    (hpeer : submission.peerUid = peer.uid ∧ submission.peerGid = peer.gid) (w : Sys) :
    Reported (among (Sys.exec env p) others) (cfg.recoverIdempotent job peer) (0, w) ↔
      ((seen 3).Final job.jobId → (seen 2).Final job.jobId) := by
  have hinv := SystemInv.of_reachable hs
  obtain ⟨r, hk⟩ := Known.of_sealed hinv hsealed
  obtain ⟨r₂, hk₂, -⟩ := hk.later hinv (seen_leads hleads 2)
  have hinv₂ := (seen_leads hleads 2).systemInv hinv
  have hsubmission₁ : (seen 1).submissionMetadata job.jobId = .ok submission := by
    obtain ⟨row, hrow, rfl⟩ : ∃ row, (seen 0).jobs.find? job.jobId = some row ∧
        row.submission = submission := by
      unfold Store.submissionMetadata at hsubmission
      simpa only [except_bind_ok, orRaise_ok, except_pure_ok] using hsubmission
    unfold Store.submissionMetadata
    simp only [except_bind_ok, orRaise_ok, except_pure_ok]
    exact ⟨row, (hleads 0).extended.jobs _ _ hrow, rfl⟩
  have hreader := reader_among env p hseen hleads
  obtain ⟨w₁, hread₁⟩ := eval_read_seen env p hseen (.readSealed job.jobId) w hsealed
  obtain ⟨w₂, hread₂⟩ := eval_read_seen env p hseen (.submissionMetadata job.jobId) w₁ hsubmission₁
  obtain ⟨w₃, hread₃⟩ := eval_read_seen env p hseen (.readRecord job.jobId) w₂ hk₂.readRecord
  have hcheck : ∀ exc, eval (among (Sys.exec env p) others) (Prog.require (job = job ∧
      submission.peerUid = peer.uid ∧ submission.peerGid = peer.gid) exc) (2, w₂) =
      (.ok (), (2, w₂)) := by
    intro exc
    unfold Prog.require
    rw [require_of ⟨rfl, hpeer⟩]
    rfl
  have hcaptured : Captured job r₂ (seen 3) := ⟨seen 2, hinv₂, hk₂, hleads 2⟩
  refine (returns_bind.trans (returns_of_eval hread₁)).trans ?_
  refine (returns_bind.trans (returns_of_eval hread₂)).trans ?_
  refine (returns_bind.trans (returns_of_eval (hcheck _))).trans ?_
  refine (returns_bind.trans (returns_of_eval hread₃)).trans ?_
  rw [hk₂.final_iff]
  exact Captured.reportSubmitted_iff hreader (v := (3, w₃)) hcaptured hwindow

/-- A status is reported exactly when the job is not finalized between the reads of its record and
its receipt. -/
lemma status_reported_iff (hwindow : cfg.lineageFailurePolicy.windowSeconds ≤ longestWindow)
    (hseen : ∀ n w, (others n w).store = seen n) (hleads : ∀ n, (seen n).LeadsTo (seen (n + 1)))
    (hs : ReachableBy (fun c => c.isSystem = true) (seen 0))
    (hsealed : (seen 0).readSealed job.jobId = .ok job) (w : Sys) :
    Reported (among (Sys.exec env p) others) (cfg.status job.jobId) (0, w) ↔
      ((seen 2).Final job.jobId → (seen 1).Final job.jobId) := by
  have hinv := SystemInv.of_reachable hs
  obtain ⟨r, hk⟩ := Known.of_sealed hinv hsealed
  obtain ⟨r₁, hk₁, -⟩ := hk.later hinv (seen_leads hleads 1)
  have hinv₁ := (seen_leads hleads 1).systemInv hinv
  obtain ⟨r₂, hk₂, -, hsame⟩ := hk₁.later hinv₁ (hleads 1)
  have hreader := reader_among env p hseen hleads
  obtain ⟨w₁, hread₁⟩ := eval_read_seen env p hseen (.readSealed job.jobId) w hsealed
  obtain ⟨w₂, hread₂⟩ := eval_read_seen env p hseen (.readRecord job.jobId) w₁ hk₁.readRecord
  refine (returns_bind.trans (returns_of_eval hread₁)).trans ?_
  refine (returns_bind.trans (returns_of_eval hread₂)).trans ?_
  rw [hk₁.final_iff]
  have hrest : ∀ (status : StatusProjection) (v' : Nat × Sys), (seen 2).LeadsTo (seen v'.1) →
      Reported (among (Sys.exec env p) others) (pure status) v' :=
    fun _ _ _ => returns_pure trivial
  have hprojects := hreader.projects_iff (v := (2, w₂)) ((hleads 1).systemInv hinv₁) hwindow hk₂
    hk₁.valid hk₁.recordId hk₁.digest.symm hsame hrest
  constructor
  · intro hreported
    refine hprojects.mp (returns_bind.mpr ((returns_bind.mp hreported).mono fun receipt v' h => ?_))
    exact returns_bind.mpr (h.mono fun _ _ _ => returns_pure trivial)
  · intro hcond
    have hreported := returns_bind.mp (hprojects.mpr hcond)
    refine returns_bind.mpr (hreported.mono fun receipt v' h => ?_)
    exact (returns_bind.mp h).mono fun _ _ _ => trivial

end calls
/-- **A submission, a retry and a status are reported exactly when the job is not finalized between
the capture of its record and the read of its receipt.**  The record is captured by the claim, by
the third operation of a retry and by the second of `status`; the receipt is read by the operation
after that. -/
theorem reports_iff {env : Env} {p : Nat} {cfg : BrokerConfig} (job : SealedJob)
    (hwindow : cfg.lineageFailurePolicy.windowSeconds ≤ longestWindow) :
    (∀ (others : Nat → Sys → Sys) (policy : ExecutionPolicy) (record claimed : JobRecord)
        (v v' : Nat × Sys), (∀ n (w : Sys), w.store.LeadsTo (others n w).store) →
      ReachableBy (fun c => c.isSystem = true) v.2.store →
      v.2.store.readSealed job.jobId = .ok job → policy.autoDispatch = true →
      eval (among (Sys.exec env p) others) (cfg.autoClaimAndDispatch job record) v =
        (.ok claimed, v') →
      (Reported (among (Sys.exec env p) others) (cfg.afterSeal job policy record true) v ↔
        ((others v'.1 v'.2).store.Final job.jobId → claimed.state.isFinal = true))) ∧
    ∀ (others : Nat → Sys → Sys) (seen : Nat → Store) (w : Sys),
      (∀ n w, (others n w).store = seen n) → (∀ n, (seen n).LeadsTo (seen (n + 1))) →
      ReachableBy (fun c => c.isSystem = true) (seen 0) → (seen 0).readSealed job.jobId = .ok job →
      (∀ (peer : BrokerPeerIdentity) (submission : SubmissionMetadata),
        (seen 0).submissionMetadata job.jobId = .ok submission →
        submission.peerUid = peer.uid ∧ submission.peerGid = peer.gid →
        (Reported (among (Sys.exec env p) others) (cfg.recoverIdempotent job peer) (0, w) ↔
          ((seen 3).Final job.jobId → (seen 2).Final job.jobId))) ∧
      (Reported (among (Sys.exec env p) others) (cfg.status job.jobId) (0, w) ↔
        ((seen 2).Final job.jobId → (seen 1).Final job.jobId)) := by
  constructor
  · intro others policy record claimed v v' hothers hs hsealed hauto heval
    exact afterSeal_reported_iff hwindow hothers hs hsealed hauto heval
  · intro others seen w hseen hleads hs hsealed
    constructor
    · intro peer submission hsubmission hpeer
      exact recoverIdempotent_reported_iff hwindow hseen hleads hs hsealed hsubmission hpeer w
    · exact status_reported_iff hwindow hseen hleads hs hsealed w

/-! ## A fast worker -/

/-- A process that serves the sample store. -/
def servingSample (s : Store) : Sys :=
  { Sys.initial with store := s }.setProc 0 { phase := .serving, worker := .idle }

omit [UnicodeData] in
/-- A status that is read before the commit. -/
theorem reports_sample :
    let _ := UnicodeData.asciiOnly
    let env := sampleEnv fun _ => ("event-2", "2026-01-01T00:00:01Z")
    ∃ s s', s'.Final "job" ∧
      Reported (among (Sys.exec env 0) (commitAfter 5 s s')) (sampleConfig.status "job")
        (0, Sys.initial) := by
  intro _ env
  obtain ⟨s, hs, hclaimed⟩ := running_sample
  obtain ⟨c, a, s', hsystem, hc, hrun⟩ := finalized_sample (SystemInv.of_reachable hs) hclaimed
  obtain ⟨-, r', -, -, hr', hfinal, -⟩ := finalizes_moves hc hrun
  have hleads : s.LeadsTo s' := by
    rw [← StoreWrite.after_of_ok hrun]
    exact .after hsystem s
  have hstatus := ((@reports_iff _ env 0 sampleConfig sampleJob (by decide)).2 (commitAfter 5 s s')
    (fun n => if n < 5 then s else s') Sys.initial (fun _ _ => rfl) (commit_leads hleads 5) hs
    hclaimed.known.readSealed).2
  exact ⟨s, s', ⟨r', hr', hfinal⟩, hstatus.mpr id⟩

/-- The worker marks the sample job by `c` before the sixth operation. -/
def markBeforeSixth (c : StoreWrite) (n : Nat) (w : Sys) : Sys :=
  if n = 5 then { w with store := c.after w.store } else w

omit [UnicodeData] in
/-- **A fast worker**: the outcome of the job is recorded before the call that claimed and queued it
reads the receipt, and the call raises. -/
theorem submit_not_reported :
    let _ := UnicodeData.asciiOnly
    let env := sampleEnv fun _ => ("event-2", "2026-01-01T00:00:01Z")
    ∃ (c : StoreWrite) (s : Store) (record claimed : JobRecord) (v' : Nat × Sys),
      c.isSystem = true ∧ ReachableBy (fun c => c.isSystem = true) s ∧
      s.readSealed "job" = .ok sampleJob ∧
      eval (among (Sys.exec env 0) (markBeforeSixth c))
        (sampleConfig.autoClaimAndDispatch sampleJob record) (0, servingSample s) =
          (.ok claimed, v') ∧ claimed.state = .running ∧
      ∀ policy, policy.autoDispatch = true →
        ¬ Reported (among (Sys.exec env 0) (markBeforeSixth c))
          (sampleConfig.afterSeal sampleJob policy record true) (0, servingSample s) := by
  intro _ env
  obtain ⟨s, hs, hholds⟩ := admitted_sample
  have hinv := SystemInv.of_reachable hs
  have hk := hholds.known hinv rfl
  obtain ⟨hclaim, hclaimed⟩ := claimed_sample hinv hholds
  have hleads : s.LeadsTo (sampleClaim.after s) := .after rfl s
  obtain ⟨c, a, s', hsystem, hc, hrun⟩ := finalized_sample (hleads.systemInv hinv) hclaimed
  have hothers : ∀ n (w : Sys), w.store.LeadsTo (markBeforeSixth c n w).store := by
    intro n w
    unfold markBeforeSixth
    split_ifs
    · exact .after hsystem w.store
    · exact .refl _
  have hquiet : ∀ n < 5, ∀ w, markBeforeSixth c n w = w := fun n hn w => if_neg (by omega)
  have hfresh : ∀ e ∈ s.ledger, e.jobId = sampleJob.jobId → e.eventId ≠ "event-2" := by
    rw [hholds.ledger]
    intro e he _
    rw [List.mem_singleton.mp he]
    decide
  have hroom : s.ledger.length < maxRowId := by
    rw [hholds.ledger]
    decide
  have hsafe : isSafeId "event-2" = true := by decide
  have htime : isRealTimestamp "2026-01-01T00:00:01Z" = true := by decide
  have hlater : "2026-01-01T00:00:00Z" ≤ "2026-01-01T00:00:01Z" := by decide
  have hqueue : 0 < queueCapacity := by decide
  have hdispatch := @runs_autoClaimAndDispatch _ env sampleConfig 0 (servingSample s) sampleJob
    samplePending hinv hk rfl hsafe htime hlater hfresh hroom rfl hqueue
  have hruns : Runs (among (Sys.exec env 0) (markBeforeSixth c)) 5 _ (0, servingSample s) _ _ :=
    hdispatch.among fun n hn => hquiet n (by omega)
  have heval : eval (among (Sys.exec env 0) (markBeforeSixth c))
      (sampleConfig.autoClaimAndDispatch sampleJob samplePending) (0, servingSample s) = (.ok _, _) :=
    hruns.eval_eq
  refine ⟨c, s, _, _, _, hsystem, hs, hk.readSealed, heval, rfl, fun policy hauto hreported => ?_⟩
  have hcond := (afterSeal_reported_iff (by decide) hothers hs hk.readSealed hauto heval).mp hreported
  obtain ⟨-, r', -, -, hr', hfinal, -⟩ := finalizes_moves hc hrun
  have hmarked : c.after (sampleClaim.after s) = s' := StoreWrite.after_of_ok hrun
  have hfinalIn : (c.after (sampleClaim.after s)).Final "job" := by
    rw [hmarked]
    exact ⟨r', hr', hfinal⟩
  exact Bool.false_ne_true (hcond hfinalIn)

end AgentRuntimeOps.RootActions
