import AgentRuntimeOps.RootActions.LedgerReplay
import AgentRuntimeOps.RootActions.Threads

/-!
# A handler runs at most once for a job

A claim is a token.  The thread that claims a job holds it, hands it to the queue, the worker takes
it out of the queue and spends it when it calls the handler.  `Sys.due` counts the tokens of a job
that are not spent; together with the calls of the handler they never exceed the number of claims
that the store has recorded (`TokensCovered`), which is at most one.

Processes may die at any point: tokens are lost then, and none is made.
-/

set_option linter.unusedSectionVars false

namespace AgentRuntimeOps.RootActions

open AgentRuntimeOps.Lib Program

/-! ## Tokens -/

/-- How often a job was claimed. -/
def Store.claims (s : Store) (jobId : String) : Nat :=
  ((s.records.find? jobId).map (·.executionCount)).getD 0

/-- The thread will call the handler of the job, or hand it to one that will. -/
def Held.isDue (jobId : String) : Held → Bool
  | .claimed job | .executing job => job = jobId
  | _ => false

@[simp] lemma isDue_none (jobId : String) : Held.none.isDue jobId = false := rfl

@[simp] lemma isDue_claimed (job jobId : String) :
    (Held.claimed job).isDue jobId = decide (job = jobId) := rfl

@[simp] lemma isDue_executing (job jobId : String) :
    (Held.executing job).isDue jobId = decide (job = jobId) := rfl

@[simp] lemma isDue_ran (job jobId : String) : (Held.ran job).isDue jobId = false := rfl

/-- The calls of the handler that are still to come. -/
def Sys.due (w : Sys) (jobId : String) : Nat :=
  w.threads.countP (·.held.isDue jobId) + w.queue.countP (·.jobId = jobId)

/-- Past and future calls of the handler of a job are covered by its claims. -/
def TokensCovered (w : Sys) : Prop :=
  ∀ jobId, w.due jobId + w.runs.count jobId ≤ w.store.claims jobId

section store

variable [UnicodeData] {s s' : Store} {jobId : String}

lemma claims_of_find? {record : JobRecord} (h : s.records.find? jobId = some record) :
    s.claims jobId = record.executionCount := by
  unfold Store.claims
  rw [h]
  rfl

lemma claims_le_one (h : LedgerInv s) (jobId : String) : s.claims jobId ≤ 1 := by
  unfold Store.claims
  cases hfind : s.records.find? jobId with
  | none => exact Nat.zero_le 1
  | some record =>
      have hvalid := (h.chain record (Table.mem_of_find? hfind)).valid
      rcases hvalid.executionCount with hcount | hcount
      · exact (Nat.le_of_eq hcount).trans (Nat.zero_le 1)
      · exact Nat.le_of_eq hcount

/-- A claim is never taken back. -/
lemma claims_mono (hinv : LedgerInv s) (h : s.Extends s') (jobId : String) :
    s.claims jobId ≤ s'.claims jobId := by
  cases hfind : s.records.find? jobId with
  | none =>
      have hzero : s.claims jobId = 0 := by
        unfold Store.claims
        rw [hfind]
        rfl
      omega
  | some record =>
      obtain ⟨record', hfind', hfollows⟩ := h.records jobId record hfind
      rw [claims_of_find? hfind, claims_of_find? hfind']
      have hvalid := (hinv.chain record (Table.mem_of_find? hfind)).valid
      rcases hvalid.executionCount with hcount | hcount
      · omega
      · have hcount' := hfollows.count hcount
        omega

/-- A claim that succeeds is the first one of its job. -/
lemma claims_compareAndAppend {event : TransitionEvent} {updated : JobRecord}
    (hkind : event.kind = .claimExecution)
    (h : Connection.compareAndAppend event s = (.ok updated, s')) :
    s.claims event.jobId = 0 ∧ s'.claims event.jobId = 1 := by
  have hfind := Connection.find?_of_compareAndAppend h event.jobId
  rw [if_pos rfl] at hfind
  obtain ⟨current, hcurrent, happly, -⟩ := Connection.compareAndAppend_ok.mp h
  obtain ⟨hchecked, hmoves, -⟩ := applyTransition_ok.mp happly
  rw [claims_of_find? hcurrent, claims_of_find? hfind]
  cases hmoves with
  | claim _ hpending _ _ _ hres =>
      subst hres
      exact ⟨(hchecked.valid.pending hpending).1, rfl⟩
  | close hk | complete hk | mark hk | reconcile hk =>
      rw [hkind] at hk
      cases hk

/-- The job that a method claims when it succeeds. -/
def StoreWrite.claimed? : StoreWrite → Option String
  | .compareAndAppend event => if event.kind = .claimExecution then some event.jobId else none
  | .claimWithApproval _ _ _ _ event => some event.jobId
  | _ => none

lemma claims_of_claimed? {c : StoreWrite} {r : c.Res} (hc : c.claimed? = some jobId)
    (hrun : c.run s = (.ok r, s')) : s.claims jobId = 0 ∧ s'.claims jobId = 1 := by
  cases c with
  | compareAndAppend event =>
      obtain ⟨hkind, hjob⟩ := Option.ite_none_right_eq_some.mp hc
      cases hjob
      exact claims_compareAndAppend hkind (Tx.transaction_ok.mp hrun)
  | claimWithApproval ceremony credential verified approval claimEvent =>
      cases hc
      obtain ⟨hcontract, -, -, -, s₁, s₂, s₃, rfl, rfl, hins, happend⟩ :=
        Store.claimWithApproval_ok hrun
      obtain ⟨hzero, hone⟩ := claims_compareAndAppend hcontract.kind happend
      refine ⟨?_, hone⟩
      obtain ⟨approvals, -, -, rfl⟩ := (Connection.insertApproval_ok hcontract.userVerified).mp hins
      exact hzero
  | _ => cases hc

end store

/-- A thread gets a token from a claim that succeeds, and in no other way. -/
lemma isDue_after {held : Held} {op : Op} {r : Except Exn op.Res} {jobId : String}
    (h : (held.after op r).isDue jobId = true) :
    held.isDue jobId = true ∨ ∃ c, op = .write c ∧ c.claimed? = some jobId ∧ ∃ a, r = .ok a := by
  cases op with
  | write c =>
      cases r with
      | error exc =>
          left
          cases c <;> exact h
      | ok a =>
          cases c with
          | sealWithLineageAdmission job =>
              let sealed : JobRecord × SubmissionAdmission := a
              change (if sealed.2.allowed then Held.admitted job.jobId else held).isDue jobId = true
                at h
              split_ifs at h
              · cases h
              · exact .inl h
          | compareAndAppend event =>
              change (if event.kind = .claimExecution then Held.claimed event.jobId
                else held).isDue jobId = true at h
              split_ifs at h with hkind
              · obtain rfl : event.jobId = jobId := of_decide_eq_true h
                exact .inr ⟨_, rfl, if_pos hkind, a, rfl⟩
              · exact .inl h
          | claimWithApproval _ _ _ _ event =>
              exact .inr ⟨_, rfl, congrArg some (of_decide_eq_true h), a, rfl⟩
          | completeClaimedExecution => cases h
          | markClaimedExecutionUnknown event raw receipt =>
              change (if held = .recovering then Held.recovering else Held.none).isDue jobId = true
                at h
              split_ifs at h
              · cases h
              · cases h
          | _ => exact .inl h
  | putNowait job jobDigest =>
      cases r with
      | error exc => exact .inl h
      | ok queued =>
          let queued : Bool := queued
          change (if queued then Held.none else held).isDue jobId = true at h
          split_ifs at h
          · cases h
          · exact .inl h
  | runHandler job => cases h
  | _ => exact .inl h

/-! ## The invariant -/

section invariant

variable [UnicodeData] {env : Env} {cfg : BrokerConfig} {w w' : Sys} {c : Choice}

/-- The tokens after thread `i` has performed an operation, if the queue is what it was. -/
lemma due_set {i p : Nat} {role : Role} {held : Held} {code : Prog Value}
    (ht : w.threads[i]? = some ⟨p, role, held, code⟩) (held' : Held) (code' : Prog Value)
    (jobId : String) :
    (w.threads.set i ⟨p, role, held', code'⟩).countP (·.held.isDue jobId) +
        (held.isDue jobId).toNat =
      w.threads.countP (·.held.isDue jobId) + (held'.isDue jobId).toNat :=
  countP_set_add ht ⟨p, role, held', code'⟩ (·.held.isDue jobId)

namespace TokensCovered

lemma initial : TokensCovered Sys.initial := fun _ => Nat.zero_le _

/-- Losing tokens is safe. -/
lemma of_sublist (h : TokensCovered w) (hthreads : w'.threads.Sublist w.threads)
    (hqueue : w'.queue.Sublist w.queue) (hruns : w'.runs = w.runs) (hstore : w'.store = w.store) :
    TokensCovered w' := by
  intro jobId
  have hold := h jobId
  have hthreads' := hthreads.countP_le (p := (·.held.isDue jobId))
  have hqueue' := hqueue.countP_le (p := (·.jobId = jobId))
  unfold Sys.due at hold ⊢
  rw [hruns, hstore]
  omega

/-- A new thread that holds nothing changes nothing. -/
lemma spawn {t : Thread} (h : TokensCovered w) (ht : ∀ jobId, t.held.isDue jobId = false) :
    TokensCovered (w.spawn t) := by
  intro jobId
  have hold := h jobId
  unfold Sys.due at hold ⊢
  change (w.threads ++ [t]).countP _ + _ + _ ≤ _
  rw [List.countP_append, List.countP_singleton, ht jobId, if_neg Bool.false_ne_true]
  exact hold

/-- A claim makes a token, for a job that had none. -/
lemma write {i p : Nat} {role : Role} {held : Held} {c : StoreWrite}
    {k : Except Exn c.Res → Prog Value} (h : TokensCovered w) (hinv : LedgerInv w.store)
    (ht : w.threads[i]? = some ⟨p, role, held, .call (.write c) k⟩) (code : Prog Value) :
    TokensCovered { (Sys.exec env p (.write c) w).2 with
      threads := w.threads.set i
        ⟨p, role, held.after (.write c) (Sys.exec env p (.write c) w).1, code⟩ } := by
  intro jobId
  have hold := h jobId
  have hmono := claims_mono hinv (extends_after c w.store) jobId
  have hset := due_set ht (held.after (.write c) (Sys.exec env p (.write c) w).1) code jobId
  unfold Sys.due at hold ⊢
  change (w.threads.set i _).countP _ + w.queue.countP _ + w.runs.count jobId ≤
    (c.after w.store).claims jobId
  by_cases hdue : (held.after (.write c) (Sys.exec env p (.write c) w).1).isDue jobId = true
  · rcases isDue_after hdue with hheld | ⟨c', hop, hclaims, a, ha⟩
    · rw [hdue, hheld] at hset
      omega
    · cases hop
      have hrun : c.run w.store = (.ok a, c.after w.store) := Prod.ext ha rfl
      obtain ⟨hzero, hone⟩ := claims_of_claimed? hclaims hrun
      rw [hdue, Bool.toNat_true] at hset
      omega
  · rw [Bool.eq_false_iff.mpr hdue, Bool.toNat_false] at hset
    omega

lemma putNowait {i p : Nat} {role : Role} {jobId' jobDigest : String}
    {k : Except Exn Bool → Prog Value} (h : TokensCovered w)
    (ht : w.threads[i]? = some ⟨p, role, .claimed jobId', .call (.putNowait jobId' jobDigest) k⟩)
    (code : Prog Value) :
    TokensCovered { (Sys.exec env p (.putNowait jobId' jobDigest) w).2 with
      threads := w.threads.set i ⟨p, role, Held.after (.claimed jobId') (.putNowait jobId' jobDigest)
        (Sys.exec env p (.putNowait jobId' jobDigest) w).1, code⟩ } := by
  intro jobId
  have hold := h jobId
  unfold Sys.due at hold ⊢
  by_cases hroom : (w.queueOf p).length < queueCapacity
  · -- The token moves from the thread to the queue.
    have hset := due_set ht .none code jobId
    rw [exec_putNowait_of_lt hroom]
    change (w.threads.set i ⟨p, role, .none, code⟩).countP _ +
      (w.queue ++ [Queued.mk p jobId' jobDigest]).countP _ + w.runs.count jobId ≤ w.store.claims jobId
    rw [List.countP_append, List.countP_singleton]
    by_cases hjob : jobId' = jobId
    · simp only [isDue_claimed, isDue_none, hjob, decide_true, if_true, Bool.toNat_true,
        Bool.toNat_false] at hset ⊢
      omega
    · simp only [isDue_claimed, isDue_none, hjob, decide_false, Bool.toNat_false,
        Bool.false_eq_true, if_false] at hset ⊢
      omega
  · have hset := due_set ht (.claimed jobId') code jobId
    rw [exec_putNowait_of_not_lt hroom]
    change (w.threads.set i ⟨p, role, .claimed jobId', code⟩).countP _ + w.queue.countP _ +
      w.runs.count jobId ≤ w.store.claims jobId
    omega

/-- The token is spent. -/
lemma runHandler {i p : Nat} {role : Role} {job : SealedJob}
    {k : Except Exn HandlerResult → Prog Value} (h : TokensCovered w)
    (ht : w.threads[i]? = some ⟨p, role, .executing job.jobId, .call (.runHandler job) k⟩)
    (code : Prog Value) :
    TokensCovered { (Sys.exec env p (.runHandler job) w).2 with
      threads := w.threads.set i ⟨p, role, .ran job.jobId, code⟩ } := by
  intro jobId
  have hold := h jobId
  have hset := due_set ht (.ran job.jobId) code jobId
  unfold Sys.due at hold ⊢
  change (w.threads.set i ⟨p, role, .ran job.jobId, code⟩).countP _ + w.queue.countP _ +
    (w.runs ++ [job.jobId]).count jobId ≤ w.store.claims jobId
  rw [List.count_append, List.count_singleton]
  by_cases hjob : job.jobId = jobId
  · simp only [isDue_executing, isDue_ran, hjob, decide_true, Bool.toNat_true,
      Bool.toNat_false] at hset
    simp only [hjob, beq_self_eq_true, if_true]
    omega
  · simp only [isDue_executing, isDue_ran, hjob, decide_false, Bool.toNat_false] at hset
    simp only [beq_iff_eq, hjob, if_false]
    omega

lemma exec {i p : Nat} {role : Role} {held : Held} {op : Op} {k : Except Exn op.Res → Prog Value}
    (h : TokensCovered w) (hsound : w.Sound) (hinv : LedgerInv w.store)
    (ht : w.threads[i]? = some ⟨p, role, held, .call op k⟩) (code : Prog Value) :
    TokensCovered { (Sys.exec env p op w).2 with
      threads := w.threads.set i
        ⟨p, role, held.after op (Sys.exec env p op w).1, code⟩ } := by
  have hallows := hsound.allows ht
  by_cases hsilent : op.isSilent = true
  · intro jobId
    have hold := h jobId
    have hset := due_set ht held code jobId
    obtain ⟨hstore, hqueue, hruns⟩ := exec_of_isSilent hsilent env p w
    rw [after_of_isSilent hsilent]
    unfold Sys.due at hold ⊢
    change (w.threads.set i ⟨p, role, held, code⟩).countP _ +
      (Sys.exec env p op w).2.queue.countP _ + (Sys.exec env p op w).2.runs.count jobId ≤
      (Sys.exec env p op w).2.store.claims jobId
    rw [hstore, hqueue, hruns]
    omega
  cases op with
  | write c => exact h.write hinv ht code
  | putNowait jobId jobDigest =>
      cases hallows
      exact h.putNowait ht code
  | runHandler job =>
      cases hallows
      exact h.runHandler ht code
  | _ => exact absurd rfl hsilent

/-- A thread that takes an item from the queue takes its token. -/
lemma pop {p : Nat} {item : Queued} (h : TokensCovered w)
    (hitem : w.queue.find? (·.pid = p) = some item) (role : Role) (code : Prog Value) :
    TokensCovered ({ w with queue := w.queue.erase item }.spawn
      ⟨p, role, .executing item.jobId, code⟩) := by
  intro jobId
  have hold := h jobId
  have hmem := List.mem_of_find?_eq_some hitem
  have hperm := (List.perm_cons_erase hmem).countP_eq (·.jobId = jobId)
  rw [List.countP_cons] at hperm
  unfold Sys.due at hold ⊢
  change (w.threads ++ [_]).countP _ + (w.queue.erase item).countP _ + w.runs.count jobId ≤
    w.store.claims jobId
  rw [List.countP_append, List.countP_singleton]
  by_cases hjob : item.jobId = jobId
  · simp only [isDue_executing, hjob, decide_true, if_true] at hperm ⊢
    omega
  · simp only [isDue_executing, hjob, decide_false, Bool.false_eq_true, if_false] at hperm ⊢
    omega

lemma step (h : TokensCovered w) (hsound : w.Sound) (hstep : StepTo env cfg w c w') :
    TokensCovered w' := by
  have hinv := LedgerInv.of_reachable hsound.store.unrestricted
  cases hstep with
  | start p hphase =>
      have hspawn := h.spawn (t := ⟨p, .main, .recovering, cfg.main⟩) fun _ => rfl
      exact hspawn.of_sublist (.refl _) (.refl _) rfl rfl
  | call p request hphase => exact h.spawn fun _ => rfl
  | step i p role held op k ht => exact h.exec hsound hinv ht _
  | finish i t ht hended =>
      refine h.of_sublist ((threads_afterEnd _ t).trans (List.eraseIdx_sublist _ _))
        (queue_afterEnd _ t) ?_ ?_
      · rw [runs_afterEnd]
      · rw [store_afterEnd]
  | pop p item hworker hitem =>
      have hpop := h.pop hitem (.worker item.jobId item.jobDigest)
        (cfg.workerProgram item.jobId item.jobDigest)
      exact hpop.of_sublist (.refl _) (.refl _) rfl rfl
  | stopWorker p hworker => exact h.of_sublist (.refl _) (.refl _) rfl rfl
  | stop p hphase hcalls => exact h.of_sublist (.refl _) (.refl _) rfl rfl
  | crash p hlive => exact h.of_sublist List.filter_sublist List.filter_sublist rfl rfl

/-- **In every state reached, the calls of a handler are covered by claims.** -/
theorem of_reachable {ok : Sys → Choice → Prop} (h : Sys.ReachableBy env cfg ok w) :
    TokensCovered w := by
  suffices hboth : w.Sound ∧ TokensCovered w from hboth.2
  refine h.invariant (P := fun w => w.Sound ∧ TokensCovered w) ⟨.initial, initial⟩ fun a b c hab _ hstep => ?_
  exact ⟨hab.1.step (stepTo_of_step hstep), hab.2.step hab.1 (stepTo_of_step hstep)⟩

end TokensCovered

end invariant

/-! ## At most once -/

end AgentRuntimeOps.RootActions
