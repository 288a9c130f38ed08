import AgentRuntimeOps.RootActions.Settling

/-!
# One thread of the system, run for a while

A scheduler may let one thread perform its operations while the others wait, so what a program does
alone it can do in the system (`Sys.reaches_of_runs`).  The module also says how far a submission
of an automatic job runs when nothing is in its way: it is sealed, claimed and queued.
-/

set_option linter.unusedSectionVars false

namespace AgentRuntimeOps.RootActions

open AgentRuntimeOps.Lib Program Connection

variable [UnicodeData] {env : Env} {cfg : BrokerConfig} {p : Nat} {w w' : Sys}

/-- An operation neither sees nor touches the threads. -/
lemma exec_threads (op : Op) (w : Sys) (ts : List Thread) :
    Sys.exec env p op { w with threads := ts } =
      ((Sys.exec env p op w).1, { (Sys.exec env p op w).2 with threads := ts }) := by
  cases op with
  | putNowait jobId jobDigest =>
      change (if (w.queueOf p).length < queueCapacity then _ else _) = _
      by_cases h : (w.queueOf p).length < queueCapacity
      · rw [if_pos h, exec_putNowait_of_lt h]
      · rw [if_neg h, exec_putNowait_of_not_lt h]
  | openListener =>
      simp only [Sys.exec]
      split_ifs
      · split <;> rfl
      · rfl
  | _ => rfl

/-- **A thread of the system runs as its program does alone.** -/
theorem Sys.reaches_of_runs {ts : List Thread} {i n : Nat} {role : Role} {held : Held}
    {code code' : Prog Value} (hi : ts[i]? = some ⟨p, role, held, code⟩)
    (h : Runs (Sys.exec env p) n code w code' w') :
    ∃ held', Reaches (Sys.step env cfg) AnyStep { w with threads := ts }
      { w' with threads := ts.set i ⟨p, role, held', code'⟩ } := by
  induction h generalizing held ts with
  | refl code w =>
      obtain ⟨hlt, heq⟩ := List.getElem?_eq_some_iff.mp hi
      refine ⟨held, ?_⟩
      rw [← heq, List.set_getElem_self]
      exact .refl
  | @next n code code₁ code' w w₁ w' hstep _ ih =>
      cases code with
      | ret => cases hstep
      | fail => cases hstep
      | call op k =>
          cases hstep
          let r := (Sys.exec env p op w).1
          let next : Thread := ⟨p, role, held.after op r, k r⟩
          have hset : (ts.set i next)[i]? = some next := by
            obtain ⟨hlt, -⟩ := List.getElem?_eq_some_iff.mp hi
            rw [List.getElem?_set_self hlt]
          obtain ⟨held', hreach⟩ := ih hset
          rw [List.set_set] at hreach
          have hone : Sys.step env cfg (.step i) { w with threads := ts } =
              some { (Sys.exec env p op w).2 with threads := ts.set i next } := by
            unfold Sys.step
            simp only [hi]
            rw [exec_threads]
          exact ⟨held', (Reaches.tail .refl trivial hone).trans hreach⟩

/-! ## A submission -/

section submission

variable {job : SealedJob} {r : JobRecord}

/-- A write that succeeds. -/
lemma exec_write_of_ok {c : StoreWrite} {a : c.Res} {s' : Store} (h : c.run w.store = (.ok a, s')) :
    Sys.exec env p (.write c) w =
      (.ok a, { w with tick := w.tick + 1, store := s', wrote := w.wrote ++ [p] }) := by
  have hfst : (c.run w.store).1 = .ok a := congrArg Prod.fst h
  have hok : (c.run w.store).1.isOk = true := by
    rw [hfst]
    rfl
  refine Prod.ext hfst ?_
  change ({ w with
    tick := w.tick + 1
    store := c.after w.store
    wrote := if (c.run w.store).1.isOk then w.wrote ++ [p] else w.wrote } : Sys) = _
  rw [if_pos hok, StoreWrite.after_of_ok h]

/-- A claimed job is queued when the worker is there and the queue has room. -/
lemma runs_enqueue {record : JobRecord} {jobId jobDigest : String}
    (hread : w.store.readRecord jobId = .ok record) (hdigest : record.jobDigest = jobDigest)
    (hstate : record.state = .running) (hcount : record.executionCount = 1)
    (hworker : (w.proc p).worker = .idle) (hqueue : (w.queueOf p).length < queueCapacity) :
    Runs (Sys.exec env p) 3 (cfg.enqueue jobId jobDigest) w (pure ())
      { w with tick := w.tick + 3, queue := w.queue ++ [⟨p, jobId, jobDigest⟩] } := by
  refine Runs.perform_bind Op.workerAlive (a := true) (v := { w with tick := w.tick + 1 }) ?_ ?_
  · refine Prod.ext ?_ rfl
    change Except.ok ((w.proc p).worker = .idle || (w.proc p).worker = .busy : Bool) = .ok true
    rw [hworker]
    rfl
  refine Runs.perform_bind (Op.read (.readRecord jobId)) (a := record) (Prod.ext hread rfl) ?_
  refine Runs.ofExcept_bind (require_of ⟨hdigest, hstate, hcount⟩) ?_
  exact Runs.perform_bind (Op.putNowait jobId jobDigest) (exec_putNowait_of_lt hqueue) (.refl _ _)

/-- **A pending job is claimed and queued** when the event fits, the worker is there and its queue
has room. -/
lemma runs_autoClaimAndDispatch (hs : SystemInv w.store) (hk : Known w.store job.jobId job r)
    (hpending : r.state = .pending) (hevent : isSafeId (env.event w.drawn).1 = true)
    (htime : isRealTimestamp (env.event w.drawn).2 = true)
    (hlater : r.lastChangedAt ≤ (env.event w.drawn).2)
    (hfresh : ∀ e ∈ w.store.ledger, e.jobId = job.jobId → e.eventId ≠ (env.event w.drawn).1)
    (hroom : w.store.ledger.length < maxRowId) (hworker : (w.proc p).worker = .idle)
    (hqueue : (w.queueOf p).length < queueCapacity) :
    Runs (Sys.exec env p) 5 (cfg.autoClaimAndDispatch job r) w
      (pure (claimedRecord job r (env.event w.drawn)))
      { w with
        store := (StoreWrite.compareAndAppend
          (claimEvent job r.revision (env.event w.drawn))).after w.store
        queue := w.queue ++ [⟨p, job.jobId, job.jobDigest⟩]
        drawn := w.drawn + 1
        tick := w.tick + 5
        wrote := w.wrote ++ [p] } := by
  have hclaim := claim_ok hs hk hpending hevent htime hlater hfresh hroom
  set event := env.event w.drawn with hdrawn
  let call : StoreWrite := .compareAndAppend (claimEvent job r.revision event)
  have hrun : call.run w.store = (.ok (claimedRecord job r event), call.after w.store) := by
    have h : call.run w.store = (.ok (claimedRecord job r event), _) := Tx.transaction_ok.mpr hclaim
    rw [StoreWrite.after_of_ok h]
    exact h
  have hread : (call.after w.store).readRecord job.jobId = .ok (claimedRecord job r event) := by
    have hfound := find?_of_compareAndAppend (Tx.transaction_ok.mp hrun) job.jobId
    obtain ⟨r', hk', -⟩ := hk.later hs (Store.LeadsTo.after (c := call) rfl w.store)
    obtain rfl : r' = claimedRecord job r event :=
      Option.some.inj (hk'.found.symm.trans (hfound.trans (if_pos rfl)))
    exact hk'.readRecord
  have hid : (claimedRecord job r event).jobId = job.jobId := hk.recordId
  have hdigest : (claimedRecord job r event).jobDigest = job.jobDigest := hk.digest.symm
  let w₂ : Sys := { w with
    store := call.after w.store, drawn := w.drawn + 1, tick := w.tick + 2, wrote := w.wrote ++ [p] }
  have henqueue := @runs_enqueue _ env cfg p w₂ _ _ _ hread hdigest rfl rfl hworker hqueue
  rw [← hid, ← hdigest] at henqueue
  refine Runs.perform_bind Op.nextEvent (a := event) rfl ?_
  refine Runs.perform_bind (Op.write call) (exec_write_of_ok hrun) ?_
  rw [← hid, ← hdigest]
  exact (henqueue.bind _).tryCatch _

/-- **A new manifest of an enabled operation is sealed** when the caller may submit it and the store
takes it. -/
lemma runs_submit {manifest : Document} {peer : BrokerPeerIdentity} {policy : ExecutionPolicy}
    {submission : SubmissionMetadata} {notice : ReceiptArtifact}
    {sealed : JobRecord × SubmissionAdmission} {s' : Store}
    (hseal : sealTypedManifest manifest = .ok job) (hnew : w.store.jobs.find? job.jobId = none)
    (hsubmission : cfg.submissionPolicy.authorize job peer (env.event w.drawn).2 = .ok submission)
    (hpolicy : cfg.policies.policy job.operationId = .ok policy)
    (hversion : policy.operationVersion = job.operationVersion)
    (henabled : policy.availability = .enabled)
    (hnotice : sealReceipt (receiptDocument (terminalNotice job "prestart_failed"
      cfg.lineageFailurePolicy.circuitReasonCode)) = .ok notice)
    (hwrite : Store.sealWithLineageAdmission job (env.event w.drawn).1 (env.event w.drawn).2
      (closeEvent job (env.event (w.drawn + 1)) .prestartFailed
        (some cfg.lineageFailurePolicy.circuitReasonCode)) notice submission
      cfg.submissionPolicy.limits cfg.lineageFailurePolicy w.store = (.ok sealed, s')) :
    Runs (Sys.exec env p) 4 (cfg.submit manifest peer) w
      (cfg.afterSeal job policy sealed.1 sealed.2.allowed)
      { w with
        store := s', drawn := w.drawn + 2, tick := w.tick + 4, wrote := w.wrote ++ [p] } := by
  have hmissing : w.store.readSealed job.jobId = .error (Exn.storageNotFound job.jobId) := by
    unfold Store.readSealed
    rw [hnew]
    rfl
  have hread : Sys.exec env p (.read (.readSealed job.jobId)) w =
      (.error (Exn.storageNotFound job.jobId), { w with tick := w.tick + 1 }) :=
    Prod.ext hmissing rfl
  -- The manifest is not sealed yet.
  have hisSealed : Runs (Sys.exec env p) 1 (BrokerConfig.isSealed job.jobId) w (pure false)
      { w with tick := w.tick + 1 } :=
    (((Runs.perform _ hread).bind _).bind _).tryCatch _
  let w₃ : Sys := { w with tick := w.tick + 3, drawn := w.drawn + 2 }
  let call : StoreWrite := .sealWithLineageAdmission job (env.event w.drawn).1 (env.event w.drawn).2
    (closeEvent job (env.event (w.drawn + 1)) .prestartFailed
      (some cfg.lineageFailurePolicy.circuitReasonCode)) notice submission
    cfg.submissionPolicy.limits cfg.lineageFailurePolicy
  have hexec := @exec_write_of_ok _ env p w₃ call _ _ hwrite
  have hsealed := ((Runs.perform (Op.write call) hexec).bind fun a =>
    (pure (Except.ok a : Except Exn _) : Prog _)).tryCatch fun exc => pure (.error exc)
  refine Runs.ofExcept_bind hseal ?_
  refine (hisSealed.bind _).trans ?_
  refine Runs.perform_bind Op.nextEvent (a := env.event w.drawn) rfl ?_
  refine Runs.ofExcept_bind hsubmission (Runs.ofExcept_bind hpolicy ?_)
  refine Runs.ofExcept_bind (require_of hversion) ?_
  rw [if_pos henabled]
  refine Runs.perform_bind Op.nextEvent (a := env.event (w.drawn + 1)) rfl ?_
  refine Runs.ofExcept_bind hnotice ?_
  exact hsealed.bind _

end submission

/-! ## A start -/

/-- The lock is free. -/
lemma exec_openListener (hlock : w.lock = none) (hlisten : env.listen w.tick = .ok ()) :
    Sys.exec env p .openListener w = (.ok (), { w with tick := w.tick + 1, lock := some p }) := by
  unfold Sys.exec
  simp only [hlock, hlisten, if_true]

/-- A process that finds nothing to recover or to publish starts and takes the lock. -/
lemma runs_main (hrunning : w.store.runningJobIds = [])
    (hjobs : w.store.listJobIds = []) (hsink : cfg.publicSink = false) (hlock : w.lock = none)
    (hlisten : ∀ n, env.listen n = .ok ()) :
    Runs (Sys.exec env p) 4 cfg.main w (pure .done)
      ({ w with tick := w.tick + 4, lock := some p }.setProc p { w.proc p with worker := .idle }) := by
  have hcatalog : cfg.publishCatalog = pure () := by
    unfold BrokerConfig.publishCatalog
    rw [hsink]
    rfl
  have hrecover : Runs (Sys.exec env p) 1 cfg.recoverOrphanedClaims w (pure [])
      { w with tick := w.tick + 1 } :=
    Runs.perform_bind (Op.read .runningJobIds) (Prod.ext (congrArg Except.ok hrunning) rfl)
      (.refl _ _)
  have hreconcile : Runs (Sys.exec env p) 1 cfg.reconcilePublic { w with tick := w.tick + 1 }
      (pure []) { w with tick := w.tick + 2 } := by
    refine Runs.perform_bind (Op.read .listJobIds) (Prod.ext (congrArg Except.ok hjobs) rfl) ?_
    change Runs _ 0 (cfg.publishCatalog >>= fun _ => pure []) _ _ _
    rw [hcatalog]
    exact .refl _ _
  refine ((hrecover.bind _).bind _).trans (((hreconcile.bind _).bind _).trans ?_)
  refine Runs.perform_bind Op.startWorker rfl ?_
  exact Runs.perform_bind Op.openListener (exec_openListener hlock (hlisten _)) (.refl _ _)

/-- A process that starts comes to the mark of the first job that it finds running. -/
lemma runs_recovery {jobId : String} {job : SealedJob} {r : JobRecord} {others : List String}
    {sealed : RawReceiptArtifact × ReceiptArtifact}
    (hrunning : w.store.runningJobIds = jobId :: others) (hk : Known w.store jobId job r)
    (hstate : r.state = .running)
    (hsealed : sealUnknown job (env.event w.drawn).1 (env.event w.drawn).2 restartReason
      "BrokerRestart" = .ok sealed) :
    ∃ k, Runs (Sys.exec env p) 5 cfg.main w
      (.call (.write (.markClaimedExecutionUnknown (markUnknownEvent job r (env.event w.drawn).1
        (env.event w.drawn).2 restartReason) sealed.1 sealed.2)) k)
      { w with tick := w.tick + 5, drawn := w.drawn + 1 } := by
  have hread : ∀ n, Sys.exec env p (.read (.readRecord jobId)) { w with tick := n } =
      (.ok r, { w with tick := n + 1 }) := fun n => Prod.ext hk.readRecord rfl
  have hmark : Runs (Sys.exec env p) 3
      (markUnknown jobId r.jobDigest restartReason "BrokerRestart") { w with tick := w.tick + 2 }
      (discard (Prog.write (.markClaimedExecutionUnknown (markUnknownEvent job r
        (env.event w.drawn).1 (env.event w.drawn).2 restartReason) sealed.1 sealed.2)))
      { w with tick := w.tick + 5, drawn := w.drawn + 1 } := by
    refine Runs.perform_bind (Op.read (.readSealed jobId)) (Prod.ext hk.readSealed rfl) ?_
    refine Runs.perform_bind (Op.read (.readRecord jobId)) (hread _) ?_
    refine Runs.ofExcept_bind (require_of ⟨hk.digest, rfl, hstate⟩) ?_
    exact Runs.perform_bind Op.nextEvent rfl (Runs.ofExcept_bind hsealed (.refl _ _))
  have horphan : Runs (Sys.exec env p) 4 (cfg.recoverOrphan jobId) { w with tick := w.tick + 1 } _ _ :=
    Runs.perform_bind (Op.read (.readRecord jobId)) (hread _) (hmark.bind _)
  have hloop : Runs (Sys.exec env p) 5 cfg.recoverOrphanedClaims w _ _ :=
    Runs.perform_bind (Op.read .runningJobIds) (Prod.ext (congrArg Except.ok hrunning) rfl)
      (horphan.bind _)
  exact ⟨_, (hloop.bind _).bind _⟩

/-! ## The sample submission -/

/-- The clock of the sample runs. -/
def sampleClock : Nat → String × String
  | 0 => ("event-1", "2026-01-01T00:00:00Z")
  | 1 => ("event-0", "2026-01-01T00:00:00Z")
  | 2 => ("event-2", "2026-01-01T00:00:01Z")
  | _ => sampleEnd

/-- The process has nothing to do. -/
structure Sys.Fresh (w : Sys) : Prop where
  store : w.store = Store.empty
  drawn : w.drawn = 0
  worker : (w.proc 0).worker = .idle
  queue : w.queue = []

omit [UnicodeData] in
/-- The sample job is sealed, claimed and queued. -/
lemma submitted_sample {w : Sys} (h : w.Fresh) :
    let _ := UnicodeData.asciiOnly
    ∃ s, ReachableBy (fun c => c.isSystem = true) s ∧ s.HoldsClaimed ∧
      Runs (Sys.exec (sampleEnv sampleClock) 0) 9
        (sampleConfig.submit (Document.canonical sampleManifest) ⟨0, 0, 0⟩) w
        (sampleConfig.reportSubmitted sampleJob sampleClaimed)
        { w with
          store := s
          queue := [⟨0, "job", sampleJob.jobDigest⟩]
          drawn := 3
          tick := w.tick + 9
          wrote := w.wrote ++ [0] ++ [0] } := by
  intro _
  obtain ⟨s, hrun, hholds⟩ := sealed_sample
  have hs : ReachableBy (fun c => c.isSystem = true) s :=
    Reaches.tail .refl rfl (congrArg some (StoreWrite.after_of_ok hrun))
  have hinv := SystemInv.of_reachable hs
  obtain ⟨hclaim, hclaimed⟩ := claimed_sample hinv hholds
  refine ⟨sampleClaim.after s, Reaches.tail hs rfl rfl, hclaimed, ?_⟩
  -- The seal.
  have hsubmit := @runs_submit _ (sampleEnv sampleClock) sampleConfig 0 w sampleJob
    (Document.canonical sampleManifest) ⟨0, 0, 0⟩
    ⟨"nas.observe_groupware_runtime", 1, .enabled, none, true⟩ ⟨0, 0, 0, "2026-01-01T00:00:00Z"⟩
    sampleNotice sampleAdmission s seal_sampleManifest (by rw [h.store]; rfl)
    (by rw [h.drawn]; decide) (by decide) rfl rfl seal_sampleNotice.1
    (by rw [h.drawn, h.store]; exact hrun)
  -- The claim and the dispatch.
  let w₄ : Sys := { w with
    store := s, drawn := w.drawn + 2, tick := w.tick + 4, wrote := w.wrote ++ [0] }
  have hdrawn : (sampleEnv sampleClock).event w₄.drawn = ("event-2", "2026-01-01T00:00:01Z") := by
    change sampleClock (w.drawn + 2) = _
    rw [h.drawn]
    rfl
  have hk := hholds.known hinv rfl
  have hfresh : ∀ e ∈ s.ledger, e.jobId = sampleJob.jobId → e.eventId ≠ "event-2" := by
    rw [hholds.ledger]
    intro e he _
    rw [List.mem_singleton.mp he]
    decide
  have hroom : s.ledger.length < maxRowId := by
    rw [hholds.ledger]
    decide
  have hdispatch := @runs_autoClaimAndDispatch _ (sampleEnv sampleClock) sampleConfig 0 w₄ sampleJob
    samplePending hinv hk rfl (by rw [hdrawn]; decide) (by rw [hdrawn]; decide)
    (by rw [hdrawn]; decide) (by rw [hdrawn]; exact hfresh) hroom h.worker
    (by change (w.queue.filter _).length < _; rw [h.queue]; decide)
  rw [hdrawn] at hdispatch
  have hreport := hsubmit.trans (hdispatch.bind _)
  have hworld : ({ w₄ with
      store := sampleClaim.after s
      queue := w₄.queue ++ [⟨0, "job", sampleJob.jobDigest⟩]
      drawn := w₄.drawn + 1
      tick := w₄.tick + 5
      wrote := w₄.wrote ++ [0] } : Sys) = { w with
      store := sampleClaim.after s
      queue := [⟨0, "job", sampleJob.jobDigest⟩]
      drawn := 3
      tick := w.tick + 9
      wrote := w.wrote ++ [0] ++ [0] } := by
    simp only [w₄, h.queue, h.drawn, List.nil_append]
  rw [← hworld]
  exact hreport

end AgentRuntimeOps.RootActions
