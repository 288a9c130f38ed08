import AgentRuntimeOps.RootActions.Outcomes

/-!
# Recovering orphans

A process that starts declares the outcome of every job that it finds running to be unknown, one
after the other, and stops at the first one that cannot be marked (`recovery_settles`).
-/

set_option linter.unusedSectionVars false

namespace AgentRuntimeOps.RootActions

open AgentRuntimeOps.Lib Program Connection

variable [UnicodeData]

/-! ## The jobs that run -/

lemma mem_runningJobIds {s : Store} {jobId : String} :
    jobId ∈ s.runningJobIds ↔ ∃ r, s.records.find? jobId = some r ∧ r.state = .running := by
  unfold Store.runningJobIds
  rw [List.mem_map]
  constructor
  · rintro ⟨r, hr, rfl⟩
    rw [List.mem_mergeSort, List.mem_filter, decide_eq_true_eq] at hr
    exact ⟨r, Table.find?_of_mem hr.1, hr.2⟩
  · rintro ⟨r, hr, hrunning⟩
    refine ⟨r, ?_, Table.key_of_find? hr⟩
    rw [List.mem_mergeSort, List.mem_filter, decide_eq_true_eq]
    exact ⟨Table.mem_of_find? hr, hrunning⟩

lemma nodup_runningJobIds (s : Store) : s.runningJobIds.Nodup := by
  unfold Store.runningJobIds
  apply ((List.mergeSort_perm _ _).map _).nodup_iff.mpr
  exact s.records.nodup.sublist (List.filter_sublist.map _)

/-! ## One job -/

/-- The job was running, and its outcome was declared unknown. -/
structure Marked (s s' : Store) (jobId : String) : Prop where
  leads : s.LeadsTo s'
  marked : ∃ job r event, s.records.find? jobId = some r ∧ r.state = .running ∧
    Known s' jobId job (unknownRecord job r event restartReason)
  untouched : ∀ other, other ≠ jobId → Untouched other s s'

/-- The event that was drawn last cannot mark the job, which is running. -/
def Stuck (env : Env) (w : Sys) (jobId : String) : Prop :=
  ∃ job r n, w.drawn = n + 1 ∧ Known w.store jobId job r ∧ r.state = .running ∧
    ¬ Markable w.store job r (env.event n) restartReason "BrokerRestart"

section orphan

variable {env : Env} {cfg : BrokerConfig} {p : Nat} {w : Sys} {s s' : Store} {jobId : String}
    {job : SealedJob} {r : JobRecord}

lemma marked_of_run {event : String × String} {sealed : RawReceiptArtifact × ReceiptArtifact}
    {record : JobRecord} (hs : SystemInv s) (hk : Known s jobId job r)
    (hrunning : r.state = .running)
    (hsealed : sealUnknown job event.1 event.2 restartReason "BrokerRestart" = .ok sealed)
    (hrun : Store.markClaimedExecutionUnknown (markUnknownEvent job r event.1 event.2 restartReason)
      sealed.1 sealed.2 s = (.ok record, s')) : Marked s s' jobId := by
  let call : StoreWrite := .markClaimedExecutionUnknown
    (markUnknownEvent job r event.1 event.2 restartReason) sealed.1 sealed.2
  have hcall : call.run s = (.ok record, s') := hrun
  have hsystem : call.isSystem = true := by
    apply decide_eq_true
    rw [canonicalReceipt_of_sealUnknown hsealed]
    rfl
  have hleads := Store.LeadsTo.after hsystem s
  rw [StoreWrite.after_of_ok hcall] at hleads
  cases advances_run call record (.inr rfl) hcall with
  | admits hrow => cases hrow
  | moves _ hevent _ hcurrent happly hrecord hrest =>
      cases hevent
      obtain rfl := hk.id
      have hsame := hcurrent.symm.trans hk.found
      rw [Option.some.injEq] at hsame
      subst hsame
      obtain ⟨-, hmoves, -⟩ := applyTransition_ok.mp happly
      cases hmoves with
      | mark _ _ _ _ reason hreason hres =>
          cases hreason
          subst hres
          obtain ⟨r', hk', -⟩ := hk.later hs hleads
          have hrecord' := hk'.found.symm.trans hrecord
          rw [Option.some.injEq] at hrecord'
          subst hrecord'
          exact ⟨hleads, ⟨job, _, event, hk.found, hrunning, hk'⟩, hrest⟩
      | claim hk | close hk | complete hk | reconcile hk => cases hk

/-- A neutral operation leaves the store as it is. -/
lemma store_eval_neutral {α : Type} {code : Prog α} (h : Neutral code) (w : Sys) :
    (eval (Sys.exec env p) code w).2.store = w.store := by
  induction code generalizing w with
  | ret a => rfl
  | fail e => rfl
  | call op k ih =>
      have hop := (exec_of_isSilent (isSilent_of_isNeutral h.1) env p w).1
      exact (ih _ (h.2 _) _).trans hop

/-- A write whose answer is not used. -/
lemma eval_discard_write (c : StoreWrite) (w : Sys) :
    eval (Sys.exec env p) (discard (Prog.write c)) w =
      ((c.run w.store).1.map fun _ => (), (Sys.exec env p (.write c) w).2) := by
  have hwrite : eval (Sys.exec env p) (Prog.write c) w = Sys.exec env p (.write c) w :=
    eval_perform _ _ _
  change eval (Sys.exec env p) (Prog.write c >>= fun _ => pure ()) w = _
  have hanswer : (Sys.exec env p (.write c) w).1 = (c.run w.store).1 := rfl
  rw [eval_bind, hwrite, ← hanswer]
  rcases Sys.exec env p (.write c) w with ⟨exc | a, w'⟩
  · rfl
  · rfl

/-- Marking a job that is running succeeds, or leaves the store as it is. -/
lemma eval_markUnknown (hs : SystemInv w.store) (hk : Known w.store jobId job r)
    (hrunning : r.state = .running) :
    ∃ w', (eval (Sys.exec env p) (markUnknown jobId r.jobDigest restartReason "BrokerRestart") w =
          (.ok (), w') ∧ Marked w.store w'.store jobId) ∨
      ∃ exc, eval (Sys.exec env p) (markUnknown jobId r.jobDigest restartReason "BrokerRestart") w =
          (.error exc, w') ∧ w'.store = w.store ∧ Stuck env w' jobId := by
  let event := env.event w.drawn
  let w₁ : Sys := { w with tick := w.tick + 3, drawn := w.drawn + 1 }
  have hruns : Runs (Sys.exec env p) 3 (markUnknown jobId r.jobDigest restartReason "BrokerRestart")
      w (do
        let sealed ← Program.ofExcept
          (sealUnknown job event.1 event.2 restartReason "BrokerRestart")
        discard (Prog.write (.markClaimedExecutionUnknown
          (markUnknownEvent job r event.1 event.2 restartReason) sealed.1 sealed.2))) w₁ := by
    refine Runs.perform_bind (Op.read (.readSealed jobId)) (Prod.ext hk.readSealed rfl) ?_
    refine Runs.perform_bind (Op.read (.readRecord jobId)) (Prod.ext hk.readRecord rfl) ?_
    refine Runs.ofExcept_bind (require_of ⟨hk.digest, rfl, hrunning⟩) ?_
    exact Runs.perform_bind Op.nextEvent rfl (.refl _ _)
  have hstuck : ∀ w' : Sys, w'.store = w.store → w'.drawn = w.drawn + 1 →
      (¬ Markable w.store job r event restartReason "BrokerRestart") → Stuck env w' jobId := by
    intro w' hstore hdrawn h
    rw [← hstore] at hk h
    exact ⟨job, r, w.drawn, hdrawn, hk, hrunning, h⟩
  have hmark := @mark_ok _ w.store jobId job r event restartReason "BrokerRestart" hs hk hrunning
    (by decide)
  rw [hruns.eval_eq, eval_bind, eval_ofExcept]
  rcases hsealed : sealUnknown job event.1 event.2 restartReason "BrokerRestart" with exc | sealed
  · refine ⟨w₁, .inr ⟨exc, rfl, rfl, hstuck w₁ rfl rfl fun h => ?_⟩⟩
    obtain ⟨sealed, -, hok, -⟩ := hmark h
    rw [hsealed] at hok
    cases hok
  · let call : StoreWrite := .markClaimedExecutionUnknown
      (markUnknownEvent job r event.1 event.2 restartReason) sealed.1 sealed.2
    refine ⟨(Sys.exec env p (.write call) w₁).2, ?_⟩
    have hwrite := @eval_discard_write _ env p call w₁
    rcases hrun : call.run w.store with ⟨exc | record, s'⟩
    · rw [show call.run w₁.store = _ from hrun] at hwrite
      have hsame : call.after w.store = w.store := by
        rcases call.after_cases w.store with hsame | ⟨a, ha⟩
        · exact hsame
        · rw [hrun] at ha
          cases ha
      refine .inr ⟨exc, hwrite, hsame, hstuck _ hsame rfl fun h => ?_⟩
      · obtain ⟨sealed', s'', hok, -, hmarked⟩ := hmark h
        rw [hsealed] at hok
        cases hok
        have hcall : call.run w.store = _ := hmarked
        rw [hrun] at hcall
        cases hcall
    · rw [show call.run w₁.store = _ from hrun] at hwrite
      refine .inl ⟨hwrite, ?_⟩
      change Marked w.store (call.after w.store) jobId
      rw [StoreWrite.after_of_ok hrun]
      exact marked_of_run hs hk hrunning hsealed hrun

/-- One iteration of `recover_orphaned_claims`. -/
lemma eval_recoverOrphan (hs : SystemInv w.store) (hr : w.store.records.find? jobId = some r)
    (hrunning : r.state = .running) :
    ∃ w', (eval (Sys.exec env p) (cfg.recoverOrphan jobId) w = (.ok jobId, w') ∧
          Marked w.store w'.store jobId) ∨
      ∃ exc, eval (Sys.exec env p) (cfg.recoverOrphan jobId) w = (.error exc, w') ∧
        w'.store = w.store ∧ Stuck env w' jobId := by
  obtain ⟨job, hk⟩ := Known.of_record hs hr
  let w₁ : Sys := { w with tick := w.tick + 1 }
  have hread : eval (Sys.exec env p) (Prog.read (.readRecord jobId)) w = (.ok r, w₁) :=
    (eval_perform _ _ _).trans (Prod.ext hk.readRecord rfl)
  unfold BrokerConfig.recoverOrphan
  rw [eval_bind_of_ok _ hread]
  obtain ⟨w₂, ⟨hmark, hmarked⟩ | ⟨exc, hmark, hstuck⟩⟩ :=
    @eval_markUnknown _ env p w₁ jobId job r hs hk hrunning
  · -- The public copy is repaired, whether that succeeds or not.
    have hneutral : Neutral (discard (cfg.repairPublicBestEffort jobId)) :=
      allOps_bind (neutral_repairPublicBestEffort cfg jobId) fun _ => trivial
    obtain ⟨a, w₃, hrepair, hstore⟩ : Returns (Sys.exec env p) (cfg.repair jobId) w₂
        fun _ w₃ => w₃.store = w₂.store := by
      apply returns_tryCatch_pure
      exact fun _ => store_eval_neutral hneutral w₂
    refine ⟨w₃, .inl ⟨?_, ?_⟩⟩
    · exact (eval_bind_of_ok _ hmark).trans (eval_bind_of_ok _ hrepair)
    · rw [hstore]
      exact hmarked
  · exact ⟨w₂, .inr ⟨exc, eval_bind_of_error _ hmark, hstuck⟩⟩

end orphan

/-! ## All jobs -/

/-- The jobs were running, and their outcomes were declared unknown, each with a receipt; no other
job was touched. -/
structure Recovered (s s' : Store) (jobIds : List String) : Prop where
  leads : s.LeadsTo s'
  marked : ∀ jobId ∈ jobIds, ∃ job r event artifact, s.records.find? jobId = some r ∧
    r.state = .running ∧ Known s' jobId job (unknownRecord job r event restartReason) ∧
    s'.retrieve jobId job.jobDigest = .ok artifact ∧ artifact.kind = "unknown"
  untouched : ∀ jobId, jobId ∉ jobIds → Untouched jobId s s'

section recovered

variable {s s₁ s' : Store} {jobId : String} {jobIds : List String}

lemma Recovered.nil (s : Store) : Recovered s s [] :=
  ⟨.refl s, fun _ h => absurd h List.not_mem_nil, fun _ _ => .refl s⟩

lemma Recovered.cons (hs : SystemInv s) (hfirst : Marked s s₁ jobId)
    (hrest : Recovered s₁ s' jobIds) (hnot : jobId ∉ jobIds) :
    Recovered s s' (jobId :: jobIds) := by
  have hleads := hfirst.leads.trans hrest.leads
  refine ⟨hleads, fun other hother => ?_, fun other hother => ?_⟩
  · rcases List.mem_cons.mp hother with rfl | hlater
    · obtain ⟨job, r, event, hr, hrunning, hk⟩ := hfirst.marked
      obtain ⟨r', hk', -, hfinal⟩ := hk.later (hfirst.leads.systemInv hs) hrest.leads
      obtain rfl := hfinal rfl
      obtain ⟨artifact, hretrieve, hfits⟩ := hk'.retrieve_final (hleads.systemInv hs) rfl
      exact ⟨job, r, event, artifact, hr, hrunning, hk', hretrieve, hfits.unknown rfl⟩
    · obtain ⟨job, r, event, artifact, hr, hmarked⟩ := hrest.marked other hlater
      have hne : other ≠ jobId := by
        rintro rfl
        exact hnot hlater
      rw [(hfirst.untouched other hne).agree.records] at hr
      exact ⟨job, r, event, artifact, hr, hmarked⟩
  · rw [List.mem_cons, not_or] at hother
    exact (hfirst.untouched other hother.1).trans (hrest.untouched other hother.2)

/-- **The loop** marks a first part of the jobs, and is stuck at the next one if there is one. -/
lemma eval_forEach_recoverOrphan {env : Env} {cfg : BrokerConfig} {p : Nat} (jobIds : List String)
    (hnodup : jobIds.Nodup) (w : Sys) (hs : SystemInv w.store)
    (hrunning : ∀ jobId ∈ jobIds, ∃ r, w.store.records.find? jobId = some r ∧ r.state = .running) :
    ∃ w' done rest, jobIds = done ++ rest ∧ Recovered w.store w'.store done ∧
      (rest = [] ∧ eval (Sys.exec env p) (forEach cfg.recoverOrphan jobIds) w = (.ok jobIds, w') ∨
        ∃ jobId exc, rest.head? = some jobId ∧ Stuck env w' jobId ∧
          eval (Sys.exec env p) (forEach cfg.recoverOrphan jobIds) w = (.error exc, w')) := by
  induction jobIds generalizing w with
  | nil => exact ⟨w, [], [], rfl, .nil _, .inl ⟨rfl, rfl⟩⟩
  | cons jobId jobIds ih =>
      obtain ⟨r, hr, hstate⟩ := hrunning jobId List.mem_cons_self
      obtain ⟨hnot, hnodup'⟩ := List.nodup_cons.mp hnodup
      obtain ⟨w₁, ⟨hone, hmarked⟩ | ⟨exc, hone, hstore, hstuck⟩⟩ :=
        @eval_recoverOrphan _ env cfg p w jobId r hs hr hstate
      · have hrunning' : ∀ other ∈ jobIds, ∃ r, w₁.store.records.find? other = some r ∧
            r.state = .running := by
          intro other hother
          obtain ⟨r', hr', hstate'⟩ := hrunning other (List.mem_cons_of_mem _ hother)
          have hne : other ≠ jobId := by
            rintro rfl
            exact hnot hother
          exact ⟨r', (hmarked.untouched other hne).agree.records.trans hr', hstate'⟩
        obtain ⟨w', done, rest, hsplit, hrecovered, hend⟩ :=
          ih hnodup' w₁ (hmarked.leads.systemInv hs) hrunning'
        have heval : eval (Sys.exec env p) (forEach cfg.recoverOrphan (jobId :: jobIds)) w =
            eval (Sys.exec env p) ((forEach cfg.recoverOrphan jobIds) >>= fun ids =>
              pure (jobId :: ids)) w₁ := eval_bind_of_ok _ hone
        have hdone : jobId ∉ done := fun hmem => hnot (hsplit ▸ List.mem_append_left rest hmem)
        refine ⟨w', jobId :: done, rest, by rw [hsplit]; rfl, .cons hs hmarked hrecovered hdone, ?_⟩
        rcases hend with ⟨hnil, hok⟩ | ⟨other, exc, hhead, hstuck, herror⟩
        · exact .inl ⟨hnil, heval.trans (eval_bind_of_ok _ hok)⟩
        · exact .inr ⟨other, exc, hhead, hstuck, heval.trans (eval_bind_of_error _ herror)⟩
      · refine ⟨w₁, [], jobId :: jobIds, rfl, ?_,
          .inr ⟨jobId, exc, rfl, hstuck, eval_bind_of_error _ hone⟩⟩
        rw [hstore]
        exact .nil _

end recovered

/-- **What the recovery of orphans leaves**, from any state that the service reaches.  Of the jobs
that run, a first part has an unknown outcome afterwards and a receipt that says so; the rest still
run, and no other job is touched.  If there is a rest, the recovery raises, and the first job of the
rest cannot be marked with the event that was drawn. -/
theorem recovery_settles {env : Env} {cfg : BrokerConfig} {w : Sys} (p : Nat)
    (hw : Sys.ReachableBy env cfg AnyStep w) :
    ∃ w' done rest, w.store.runningJobIds = done ++ rest ∧ Recovered w.store w'.store done ∧
      (∀ jobId, jobId ∈ w'.store.runningJobIds ↔ jobId ∈ rest) ∧
      (rest = [] ∧ eval (Sys.exec env p) cfg.recoverOrphanedClaims w =
          (.ok w.store.runningJobIds, w') ∨
        ∃ jobId exc, rest.head? = some jobId ∧ Stuck env w' jobId ∧
          eval (Sys.exec env p) cfg.recoverOrphanedClaims w = (.error exc, w')) := by
  have hs := SystemInv.of_reachable (Sys.Sound.of_reachable hw).store
  let w₁ : Sys := { w with tick := w.tick + 1 }
  have hread : eval (Sys.exec env p) (Prog.read .runningJobIds) w =
      (.ok w.store.runningJobIds, w₁) := eval_perform _ _ _
  have hnodup := nodup_runningJobIds w.store
  obtain ⟨w', done, rest, hsplit, hrecovered, hend⟩ :=
    @eval_forEach_recoverOrphan _ env cfg p _ hnodup w₁ hs fun jobId hmem =>
      mem_runningJobIds.mp hmem
  rw [← eval_bind_of_ok (f := forEach cfg.recoverOrphan) _ hread] at hend
  refine ⟨w', done, rest, hsplit, hrecovered, fun jobId => ?_, hend⟩
  rw [hsplit, List.nodup_append] at hnodup
  rw [mem_runningJobIds]
  constructor
  · rintro ⟨r, hr, hrunning⟩
    by_cases hdone : jobId ∈ done
    · obtain ⟨job, r', event, -, -, -, hk, -⟩ := hrecovered.marked jobId hdone
      rw [hk.found, Option.some.injEq] at hr
      subst hr
      cases hrunning
    · rw [(hrecovered.untouched jobId hdone).agree.records] at hr
      have hmem := mem_runningJobIds.mpr ⟨r, hr, hrunning⟩
      have hmem' : jobId ∈ done ++ rest := hsplit ▸ hmem
      exact (List.mem_append.mp hmem').resolve_left hdone
  · intro hrest
    have hdone : jobId ∉ done := fun hmem => hnodup.2.2 jobId hmem jobId hrest rfl
    have hmem : jobId ∈ w.store.runningJobIds := hsplit ▸ List.mem_append_right done hrest
    obtain ⟨r, hr, hrunning⟩ := mem_runningJobIds.mp hmem
    exact ⟨r, (hrecovered.untouched jobId hdone).agree.records.trans hr, hrunning⟩

omit [UnicodeData] in
/-- The job that a process has claimed when a second one starts. -/
theorem recovery_settles_sample :
    let _ := UnicodeData.asciiOnly
    ∃ (w w' : Sys) (done rest : List String), done ++ rest = ["job"] ∧
      Recovered w.store w'.store done ∧ ∀ jobId, jobId ∈ w'.store.runningJobIds ↔ jobId ∈ rest := by
  intro _
  obtain ⟨w, t, hw, hclaimed, -⟩ := queued_sample
  have hrunning : w.store.runningJobIds = ["job"] := by
    unfold Store.runningJobIds
    rw [hclaimed.records]
    change (([sampleClaimed] : List JobRecord).mergeSort _).map _ = ["job"]
    rw [List.mergeSort_singleton]
    rfl
  obtain ⟨w', done, rest, hsplit, hrecovered, hrest, -⟩ := recovery_settles 1 hw
  exact ⟨w, w', done, rest, hsplit.symm.trans hrunning, hrecovered, hrest⟩

end AgentRuntimeOps.RootActions
