import AgentRuntimeOps.RootActions.LineageWindow
import AgentRuntimeOps.RootActions.SecondBroker

/-!
# What was reported stays

What readers are told about a job in a final state they are told for ever.  As long as a job is
open, its manifest stays and its ledger only grows (`answers_stand`).
-/

set_option linter.unusedSectionVars false

namespace AgentRuntimeOps.RootActions

open AgentRuntimeOps.Lib Connection

variable [UnicodeData]

/-! ## Final states -/

section final

variable {s s' : Store} {jobId : String} {row : JobRow} {r : JobRecord}

lemma Untouched.of_tables (hjobs : s'.jobs = s.jobs) (hrecords : s'.records = s.records)
    (hraws : s'.rawReceipts = s.rawReceipts) (hreceipts : s'.receipts = s.receipts)
    (hpointers : s'.receiptCurrent = s.receiptCurrent) (hledger : s'.ledger = s.ledger) :
    Untouched jobId s s' :=
  ⟨.of_tables hjobs hrecords hraws hreceipts hpointers jobId, by unfold entriesOf; rw [hledger]⟩

/-- A call of the service leaves a job in a final state alone. -/
lemma Untouched.run (c : StoreWrite) (a : c.Res) (hc : c.isSystem = true)
    (hrun : c.run s = (.ok a, s')) (hrow : s.jobs.find? jobId = some row)
    (hr : s.records.find? jobId = some r) (hfinal : r.state.isFinal = true) :
    Untouched jobId s s' := by
  by_cases hw : c.submission?.isSome = true ∨ c.event?.isSome = true
  · cases advances_run c a hw hrun with
    | admits _ _ hnone _ _ hrest =>
        apply hrest
        rintro rfl
        rw [hnone] at hrow
        cases hrow
    | moves _ _ _ hcurrent happly hrecord hrest =>
        apply hrest
        rintro rfl
        have hleads := Store.LeadsTo.after hc s
        rw [StoreWrite.after_of_ok hrun] at hleads
        have hsame := hleads.final hr hfinal
        rw [hrecord, Option.some.injEq] at hsame
        rw [hr, Option.some.injEq] at hcurrent
        obtain ⟨-, -, hrevision, -⟩ := identity_of_transition happly
        rw [hsame, hcurrent] at hrevision
        omega
  · cases c with
    | createAuthBootstrap session =>
        obtain ⟨-, -, _, bootstraps, -, -, rfl⟩ := Store.createAuthBootstrap_ok hrun
        exact of_tables rfl rfl rfl rfl rfl rfl
    | issueRegistrationCeremony tokenDigest ceremony =>
        obtain ⟨-, hins⟩ := Store.issueRegistrationCeremony_ok hrun
        obtain ⟨ceremonies, -, -, rfl⟩ := insertCeremony_ok.mp hins
        exact of_tables rfl rfl rfl rfl rfl rfl
    | completeRegistration tokenDigest ceremonyId credential consumedAt =>
        obtain ⟨-, ceremony, bootstrap, s₁, s₂, -, -, -, -, -, -, -, hins, rfl, rfl⟩ :=
          Store.completeRegistration_ok hrun
        obtain ⟨credentials, -, -, rfl⟩ := insertCredential_ok.mp hins
        exact of_tables rfl rfl rfl rfl rfl rfl
    | issueApprovalCeremony ceremony =>
        obtain ⟨-, -, -, -, hins⟩ := Store.issueApprovalCeremony_ok hrun
        obtain ⟨ceremonies, -, -, rfl⟩ := insertCeremony_ok.mp hins
        exact of_tables rfl rfl rfl rfl rfl rfl
    | _ => simp [StoreWrite.submission?, StoreWrite.event?, StoreWrite.isSystem] at hw hc

/-- **However the store goes on**, a job in a final state is left alone. -/
lemma Store.LeadsTo.untouched (h : s.LeadsTo s') (hrow : s.jobs.find? jobId = some row)
    (hr : s.records.find? jobId = some r) (hfinal : r.state.isFinal = true) :
    Untouched jobId s s' :=
  h.invariant (.refl s) fun c _ a _ hc hs hrun =>
    hs.trans (.run c a hc hrun (hs.agree.jobs _ hrow) (hs.agree.records.trans hr) hfinal)

end final

/-! ## Runs of the system -/

section runs

variable {env : Env} {cfg : BrokerConfig} {w w' : Sys} {c : Choice}

/-- Every step is a call of the service, or leaves the store as it is. -/
lemma leadsTo_step (hsound : w.Sound) (hstep : StepTo env cfg w c w') :
    w.store.LeadsTo w'.store := by
  cases hstep with
  | step i p role held op k ht =>
      by_cases hwrite : ∃ c, op = .write c
      · obtain ⟨c, rfl⟩ := hwrite
        exact .after (hsound.allows ht).1 w.store
      · change w.store.LeadsTo (Sys.exec env p op w).2.store
        rw [exec_store_of_ne_write fun c hc => hwrite ⟨c, hc⟩]
        exact .refl _
  | finish i t ht hended =>
      rw [store_afterEnd]
      exact .refl _
  | _ => exact .refl _

lemma leadsTo_of_reaches (hsound : w.Sound) (h : Reaches (Sys.step env cfg) AnyStep w w') :
    w.store.LeadsTo w'.store := by
  refine And.right (h.invariant (P := fun x => x.Sound ∧ w.store.LeadsTo x.store)
    ⟨hsound, .refl _⟩ fun x x' c hx _ hstep => ?_)
  have hto := stepTo_of_step hstep
  exact ⟨hx.1.step hto, hx.2.trans (leadsTo_step hx.1 hto)⟩

end runs

/-! ## What readers are told -/

/-- What readers of a store are told about a job, and readers of a later store. -/
structure Stands (s s' : Store) (job : SealedJob) (r r' : JobRecord)
    (entries entries' : List LedgerEntry) : Prop where
  sealed : s.readSealed job.jobId = .ok job ∧ s'.readSealed job.jobId = .ok job
  record : s.readRecord job.jobId = .ok r ∧ s'.readRecord job.jobId = .ok r'
  ledger : s.readLedger job.jobId = .ok entries ∧ s'.readLedger job.jobId = .ok entries'
  follows : r.Follows r'
  grows : entries <+: entries'
  final : r.state.isFinal = true → r' = r ∧ entries' = entries ∧ ∃ artifact,
    s.retrieve job.jobId job.jobDigest = .ok artifact ∧
      s'.retrieve job.jobId job.jobDigest = .ok artifact ∧ ReceiptFits job r artifact

/-- **What was reported stays.**  Take any state of the service and any later one.  A job that can
be read in the first can be read in the second, with the same manifest; its record follows the old
one, and its ledger has grown at its end.  If it was in a final state, nothing has changed, and it
has the same receipt. -/
theorem answers_stand {env : Env} {cfg : BrokerConfig} {w w' : Sys} {jobId : String} {r : JobRecord}
    (hw : Sys.ReachableBy env cfg AnyStep w) (h : Reaches (Sys.step env cfg) AnyStep w w')
    (hr : w.store.readRecord jobId = .ok r) :
    ∃ job r' entries entries', job.jobId = jobId ∧
      Stands w.store w'.store job r r' entries entries' := by
  have hsound := Sys.Sound.of_reachable hw
  have hinv := SystemInv.of_reachable hsound.store
  have hleads := leadsTo_of_reaches hsound h
  have hinv' := hleads.systemInv hinv
  obtain ⟨job, hk⟩ := Known.of_record hinv (readRecord_ok.mp hr).1
  obtain ⟨r', hk', hfollows, -⟩ := hk.later hinv hleads
  obtain rfl := hk.id
  have hledger := hinv.ledger.readLedger (Table.mem_of_find? hk.found)
  have hledger' := hinv'.ledger.readLedger (Table.mem_of_find? hk'.found)
  rw [hk.recordId] at hledger
  rw [hk'.recordId] at hledger'
  refine ⟨job, r', _, _, rfl, ⟨hk.readSealed, hk'.readSealed⟩, ⟨hk.readRecord, hk'.readRecord⟩,
    ⟨hledger, hledger'⟩, hfollows, hleads.extended.ledger.filter _, fun hfinal => ?_⟩
  obtain ⟨submission, hrow⟩ := hk.row
  have huntouched := hleads.untouched hrow hk.found hfinal
  have hpointed := Store.Pointed.of_reachable (hsound.store.mono fun _ _ _ => trivial)
  obtain ⟨-, -, -, hretrieve⟩ := huntouched.reads hpointed hrow
  obtain ⟨artifact, hartifact, hfits⟩ := hk.retrieve_final hinv hfinal
  have hsame := huntouched.agree.records
  rw [hk'.found, hk.found, Option.some.injEq] at hsame
  exact ⟨hsame, huntouched.entries, artifact, hartifact, (hretrieve _).trans hartifact, hfits⟩

omit [UnicodeData] in
/-- The job that a serving process has queued, when a second process starts. -/
theorem answers_stand_sample :
    let _ := UnicodeData.asciiOnly
    ∃ (w w' : Sys) (job : SealedJob) (r' : JobRecord) (entries entries' : List LedgerEntry),
      job.jobId = "job" ∧ (w'.proc 1).phase = .starting ∧
        Stands w.store w'.store job sampleClaimed r' entries entries' := by
  intro _
  obtain ⟨w, t, hw, hclaimed, -, -, -, hunborn⟩ := queued_sample
  have hstart : Sys.step (sampleEnv sampleClock) sampleConfig (.start 1) w =
      some ((w.spawn ⟨1, .main, .recovering, sampleConfig.main⟩).setProc 1
        { w.proc 1 with phase := .starting }) := by
    unfold Sys.step
    simp only [hunborn, if_true]
  obtain ⟨job, r', entries, entries', hid, hstands⟩ :=
    answers_stand hw (.tail .refl trivial hstart) hclaimed.known.readRecord
  refine ⟨w, _, job, r', entries, entries', hid, ?_, hstands⟩
  rw [proc_setProc, if_pos rfl]

end AgentRuntimeOps.RootActions
