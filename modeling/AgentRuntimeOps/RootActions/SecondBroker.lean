import AgentRuntimeOps.RootActions.Running

/-!
# Several processes on one store

A process recovers and reconciles before it takes the lock of the listener, so a second process can
mark the jobs of a serving one as orphans and then fail to start.  What a second process must not
disturb is `Undisturbed`; `SoleRecovery` is the condition on the steps of a run that excludes the
defect: a starting process changes a job only while no other process is alive, and no process is
started while one that has changed a job is still starting.
-/

set_option linter.unusedSectionVars false

namespace AgentRuntimeOps.RootActions

open AgentRuntimeOps.Lib Program

/-! ## Where the threads of a process are -/

/-- The process has finished its start and is alive. -/
def Phase.isUp : Phase → Bool
  | .serving | .stopping => true
  | _ => false

/-- The thread runs the main program. -/
def Role.isMain : Role → Bool
  | .main => true
  | _ => false

/-- The main program of a process. -/
def Thread.isMainOf (p : Nat) (t : Thread) : Bool := t.role.isMain && t.pid == p

/-- A process that is starting has its main program and nothing else; one that is up has calls,
workers and a queue; the lock is held by a process that is alive. -/
structure Sys.Tidy (w : Sys) : Prop where
  queue : ∀ item ∈ w.queue, (w.proc item.pid).phase.isUp = true
  others : ∀ t ∈ w.threads, t.role.isMain = false → (w.proc t.pid).phase.isUp = true
  sides : ∀ t ∈ w.threads, t.held.isMain = t.role.isMain
  mains : ∀ p, w.threads.countP (Thread.isMainOf p) ≤ (decide ((w.proc p).phase = .starting)).toNat
  lock : ∀ p, w.lock = some p → (w.proc p).live = true
  wrote : ∀ p ∈ w.wrote, (w.proc p).phase ≠ .unborn

lemma Proc.live_of_isUp {proc : Proc} (h : proc.phase.isUp = true) : proc.live = true := by
  unfold Proc.live
  cases hphase : proc.phase with
  | serving => rfl
  | stopping => rfl
  | unborn => rw [hphase] at h; cases h
  | starting => rw [hphase] at h; cases h
  | dead => rw [hphase] at h; cases h

lemma Proc.live_of_starting {proc : Proc} (h : proc.phase = .starting) : proc.live = true := by
  unfold Proc.live
  rw [h]
  rfl

section frames

variable [UnicodeData] (env : Env) (p q : Nat) (op : Op) (w : Sys)

/-- No operation moves a process to another phase. -/
lemma phase_exec : ((Sys.exec env p op w).2.proc q).phase = (w.proc q).phase := by
  cases op with
  | remember bundle =>
      change (Function.update w.proc p _ q).phase = _
      by_cases hq : q = p
      · rw [hq, Function.update_self]
      · rw [Function.update_of_ne hq]
  | startWorker =>
      change (Function.update w.proc p _ q).phase = _
      by_cases hq : q = p
      · rw [hq, Function.update_self]
      · rw [Function.update_of_ne hq]
  | putNowait jobId jobDigest => rw [Sys.exec]; split <;> rfl
  | openListener => rw [Sys.exec]; split <;> [split; skip] <;> rfl
  | _ => rfl

/-- The lock is taken by the process that opens its listener. -/
lemma lock_exec : (Sys.exec env p op w).2.lock = w.lock ∨ (Sys.exec env p op w).2.lock = some p := by
  cases op with
  | putNowait jobId jobDigest => left; rw [Sys.exec]; split <;> rfl
  | openListener =>
      rw [Sys.exec]
      split
      · split
        · exact .inr rfl
        · exact .inl rfl
      · exact .inl rfl
  | _ => exact .inl rfl

/-- A process adds to its own queue only. -/
lemma mem_queue_exec {item : Queued} (h : item ∈ (Sys.exec env p op w).2.queue) :
    item ∈ w.queue ∨ (item.pid = p ∧ ∃ jobId jobDigest, op = .putNowait jobId jobDigest) := by
  cases op with
  | putNowait jobId jobDigest =>
      rw [Sys.exec] at h
      split at h
      · rcases List.mem_append.mp h with hold | hnew
        · exact .inl hold
        · obtain rfl := List.mem_singleton.mp hnew
          exact .inr ⟨rfl, jobId, jobDigest, rfl⟩
      · exact .inl h
  | openListener =>
      rw [Sys.exec] at h
      split at h
      · split at h <;> exact .inl h
      · exact .inl h
  | _ => exact .inl h

/-- A process that writes is remembered. -/
lemma mem_wrote_exec (h : q ∈ (Sys.exec env p op w).2.wrote) :
    q ∈ w.wrote ∨ (q = p ∧ ∃ c, op = .write c) := by
  cases op with
  | write c =>
      change q ∈ (if _ then w.wrote ++ [p] else w.wrote) at h
      split_ifs at h
      · rcases List.mem_append.mp h with hold | hnew
        · exact .inl hold
        · exact .inr ⟨List.mem_singleton.mp hnew, c, rfl⟩
      · exact .inl h
  | putNowait jobId jobDigest =>
      rw [Sys.exec] at h
      split at h <;> exact .inl h
  | openListener =>
      rw [Sys.exec] at h
      split at h
      · split at h <;> exact .inl h
      · exact .inl h
  | _ => exact .inl h

end frames

/-! ## The invariant of every run -/

lemma proc_setProc (w : Sys) (p q : Nat) (proc : Proc) :
    (w.setProc p proc).proc q = if q = p then proc else w.proc q :=
  Function.update_apply w.proc p proc q

section tidy

variable [UnicodeData] {env : Env} {cfg : BrokerConfig} {w w' : Sys} {c : Choice}

namespace Sys.Tidy

lemma initial : Sys.initial.Tidy := by
  refine ⟨?_, ?_, ?_, fun p => ?_, ?_, ?_⟩
  · intro item hitem
    cases hitem
  · intro t ht
    cases ht
  · intro t ht
    cases ht
  · change 0 ≤ _
    exact Nat.zero_le _
  · intro p hp
    cases hp
  · intro p hp
    cases hp

/-- A thread belongs to a process that is alive. -/
lemma live_of_mem (h : w.Tidy) {t : Thread} (ht : t ∈ w.threads) : (w.proc t.pid).live = true := by
  cases hrole : t.role.isMain with
  | false => exact Proc.live_of_isUp (h.others t ht hrole)
  | true =>
      have hcount := h.mains t.pid
      have hpos : 0 < w.threads.countP (Thread.isMainOf t.pid) := by
        refine List.countP_pos_iff.mpr ⟨t, ht, ?_⟩
        unfold Thread.isMainOf
        rw [hrole, beq_self_eq_true, Bool.and_self]
      by_cases hphase : (w.proc t.pid).phase = .starting
      · exact Proc.live_of_starting hphase
      · rw [decide_eq_false hphase, Bool.toNat_false] at hcount
        omega

/-- The process of a main program is starting. -/
lemma starting_of_mem (h : w.Tidy) {t : Thread} (ht : t ∈ w.threads) (hrole : t.role.isMain = true) :
    (w.proc t.pid).phase = .starting := by
  by_contra hphase
  have hcount := h.mains t.pid
  rw [decide_eq_false hphase, Bool.toNat_false] at hcount
  have hpos : 0 < w.threads.countP (Thread.isMainOf t.pid) := by
    refine List.countP_pos_iff.mpr ⟨t, ht, ?_⟩
    unfold Thread.isMainOf
    rw [hrole, beq_self_eq_true, Bool.and_self]
  omega

/-- Threads and items may go as long as no process changes its phase. -/
lemma of_sublist (h : w.Tidy) (hphase : ∀ q, (w'.proc q).phase = (w.proc q).phase)
    (hthreads : w'.threads.Sublist w.threads) (hqueue : w'.queue.Sublist w.queue)
    (hlock : ∀ p, w'.lock = some p → w.lock = some p) (hwrote : w'.wrote = w.wrote) : w'.Tidy := by
  refine ⟨fun item hitem => ?_, fun t ht hrole => ?_, fun t ht => h.sides t (hthreads.subset ht),
    fun p => ?_, fun p hp => ?_, fun p hp => ?_⟩
  · rw [hphase]
    exact h.queue item (hqueue.subset hitem)
  · rw [hphase]
    exact h.others t (hthreads.subset ht) hrole
  · rw [hphase]
    exact (hthreads.countP_le).trans (h.mains p)
  · have hlive := h.lock p (hlock p hp)
    unfold Proc.live at hlive ⊢
    rwa [hphase]
  · rw [hwrote] at hp
    rw [hphase]
    exact h.wrote p hp

/-- A process that comes up has no main program any more. -/
lemma setProc (h : w.Tidy) {p : Nat} {proc : Proc} (hup : proc.phase.isUp = true)
    (hmains : w.threads.countP (Thread.isMainOf p) = 0) : (w.setProc p proc).Tidy := by
  have hcases : ∀ q, (w.setProc p proc).proc q = proc ∧ q = p ∨
      (w.setProc p proc).proc q = w.proc q := by
    intro q
    rw [proc_setProc]
    split_ifs with hq
    · exact .inl ⟨rfl, hq⟩
    · exact .inr rfl
  refine ⟨fun item hitem => ?_, fun t ht hrole => ?_, h.sides, fun q => ?_, fun q hq => ?_,
    fun q hq => ?_⟩
  · rcases hcases item.pid with ⟨hproc, -⟩ | hproc
    · rwa [hproc]
    · rw [hproc]
      exact h.queue item hitem
  · rcases hcases t.pid with ⟨hproc, -⟩ | hproc
    · rwa [hproc]
    · rw [hproc]
      exact h.others t ht hrole
  · rcases hcases q with ⟨-, rfl⟩ | hproc
    · exact (Nat.le_of_eq hmains).trans (Nat.zero_le _)
    · rw [hproc]
      exact h.mains q
  · rcases hcases q with ⟨hproc, -⟩ | hproc
    · rw [hproc]
      exact Proc.live_of_isUp hup
    · rw [hproc]
      exact h.lock q hq
  · rcases hcases q with ⟨hproc, -⟩ | hproc
    · rw [hproc]
      intro hphase
      rw [hphase] at hup
      cases hup
    · rw [hproc]
      exact h.wrote q hq

/-- A new thread. -/
lemma spawn {t : Thread} (h : w.Tidy) (hrole : t.role.isMain = false) (hside : t.held.isMain = false)
    (hup : (w.proc t.pid).phase.isUp = true) : (w.spawn t).Tidy := by
  refine ⟨h.queue, fun t' ht' hrole' => ?_, fun t' ht' => ?_, fun p => ?_, h.lock, h.wrote⟩
  · rcases List.mem_append.mp ht' with hold | hnew
    · exact h.others t' hold hrole'
    · obtain rfl := List.mem_singleton.mp hnew
      exact hup
  · rcases List.mem_append.mp ht' with hold | hnew
    · exact h.sides t' hold
    · obtain rfl := List.mem_singleton.mp hnew
      rw [hrole, hside]
  · change (w.threads ++ [t]).countP _ ≤ _
    have hnot : Thread.isMainOf p t = false := by
      unfold Thread.isMainOf
      rw [hrole, Bool.false_and]
    rw [List.countP_append, List.countP_singleton, hnot, if_neg Bool.false_ne_true]
    exact h.mains p

lemma kill (h : w.Tidy) (p : Nat) : (w.kill p).Tidy := by
  have hne : ∀ q, q ≠ p → (w.kill p).proc q = w.proc q := by
    intro q hq
    change (Sys.setProc _ p _).proc q = _
    rw [proc_setProc, if_neg hq]
  have hmem : ∀ {t : Thread}, t ∈ (w.kill p).threads → t ∈ w.threads ∧ t.pid ≠ p := by
    intro t ht
    obtain ⟨hold, hpid⟩ := List.mem_filter.mp ht
    exact ⟨hold, of_decide_eq_true hpid⟩
  refine ⟨fun item hitem => ?_, fun t ht hrole => ?_, fun t ht => h.sides t (hmem ht).1,
    fun q => ?_, fun q hq => ?_, fun q hq => ?_⟩
  · obtain ⟨hold, hpid⟩ := List.mem_filter.mp hitem
    rw [hne _ (of_decide_eq_true hpid)]
    exact h.queue item hold
  · rw [hne _ (hmem ht).2]
    exact h.others t (hmem ht).1 hrole
  · by_cases hq : q = p
    · have hzero : (w.kill p).threads.countP (Thread.isMainOf q) = 0 := by
        refine List.countP_eq_zero.mpr fun t ht hmain => ?_
        have hpid := (Bool.and_eq_true_iff.mp hmain).2
        exact (hmem ht).2 ((beq_iff_eq.mp hpid).trans hq)
      exact (Nat.le_of_eq hzero).trans (Nat.zero_le _)
    · rw [hne q hq]
      exact List.filter_sublist.countP_le.trans (h.mains q)
  · change (if w.lock = some p then none else w.lock) = some q at hq
    split_ifs at hq with hlock
    have hqp : q ≠ p := by
      rintro rfl
      exact hlock hq
    rw [hne q hqp]
    exact h.lock q hq
  · by_cases hqp : q = p
    · have hself : (w.kill p).proc q = { phase := .dead } := by
        change (Sys.setProc _ p _).proc q = _
        rw [proc_setProc, if_pos hqp]
      rw [hself]
      exact nofun
    · rw [hne q hqp]
      exact h.wrote q hq

lemma exec {i p : Nat} {role : Role} {held : Held} {op : Op} {k : Except Exn op.Res → Prog Value}
    (h : w.Tidy) (hsound : w.Sound) (ht : w.threads[i]? = some ⟨p, role, held, .call op k⟩)
    (code : Prog Value) :
    Sys.Tidy { (Sys.exec env p op w).2 with
      threads := w.threads.set i ⟨p, role, held.after op (Sys.exec env p op w).1, code⟩ } := by
  have hmem := List.mem_of_getElem? ht
  have hallows := hsound.allows ht
  have hside : held.isMain = role.isMain := h.sides _ hmem
  refine ⟨fun item hitem => ?_, fun t hset hrole => ?_, fun t hset => ?_, fun q => ?_,
    fun q hq => ?_, fun q hq => ?_⟩
  · rw [phase_exec]
    rcases mem_queue_exec env p op w hitem with hold | ⟨hpid, jobId, jobDigest, rfl⟩
    · exact h.queue item hold
    · cases hallows
      rw [hpid]
      exact h.others _ hmem hside.symm
  · rw [phase_exec]
    rcases List.mem_or_eq_of_mem_set hset with hold | rfl
    · exact h.others t hold hrole
    · exact h.others ⟨p, role, held, .call op k⟩ hmem hrole
  · rcases List.mem_or_eq_of_mem_set hset with hold | rfl
    · exact h.sides t hold
    · exact (isMain_after hallows _).trans hside
  · rw [phase_exec]
    have hset := countP_set_add ht
      ⟨p, role, held.after op (Sys.exec env p op w).1, code⟩ (Thread.isMainOf q)
    have hmains := h.mains q
    -- The thread keeps its process and its role.
    have hsame : (Thread.isMainOf q ⟨p, role, held, .call op k⟩).toNat =
        (Thread.isMainOf q ⟨p, role, held.after op (Sys.exec env p op w).1, code⟩).toNat := rfl
    change (w.threads.set i _).countP _ ≤ _
    omega
  · have hlive : (w.proc q).live = true := by
      rcases lock_exec env p op w with hsame | hnew
      · exact h.lock q (hsame.symm.trans hq)
      · cases hnew.symm.trans hq
        exact h.live_of_mem hmem
    unfold Proc.live at hlive ⊢
    rwa [phase_exec]
  · rw [phase_exec]
    rcases mem_wrote_exec env p q op w hq with hold | ⟨rfl, -⟩
    · exact h.wrote q hold
    · have hlive := h.live_of_mem hmem
      intro hphase
      unfold Proc.live at hlive
      rw [hphase] at hlive
      cases hlive

lemma start (h : w.Tidy) {p : Nat} (hphase : (w.proc p).phase = .unborn) (code : Prog Value) :
    ((w.spawn ⟨p, .main, .recovering, code⟩).setProc p { w.proc p with phase := .starting }).Tidy := by
  have hne : ∀ q, q ≠ p → ((w.spawn ⟨p, .main, .recovering, code⟩).setProc p
      { w.proc p with phase := .starting }).proc q = w.proc q := by
    intro q hq
    rw [proc_setProc, if_neg hq]
    rfl
  have hup : ∀ q, (w.proc q).phase.isUp = true → q ≠ p := by
    rintro q hq rfl
    rw [hphase] at hq
    cases hq
  refine ⟨fun item hitem => ?_, fun t ht hrole => ?_, fun t ht => ?_, fun q => ?_, fun q hq => ?_,
    fun q hq => ?_⟩
  · have hold := h.queue item hitem
    rwa [hne _ (hup _ hold)]
  · rcases List.mem_append.mp ht with hold | hnew
    · have hold' := h.others t hold hrole
      rwa [hne _ (hup _ hold')]
    · obtain rfl := List.mem_singleton.mp hnew
      cases hrole
  · rcases List.mem_append.mp ht with hold | hnew
    · exact h.sides t hold
    · obtain rfl := List.mem_singleton.mp hnew
      rfl
  · have hmains := h.mains q
    change (w.threads ++ [_]).countP _ ≤ _
    rw [List.countP_append, List.countP_singleton]
    by_cases hq : q = p
    · subst hq
      rw [hphase] at hmains
      rw [proc_setProc, if_pos rfl]
      simp only [Thread.isMainOf, Role.isMain, Bool.true_and, beq_self_eq_true, if_true,
        reduceCtorEq, decide_false, decide_true, Bool.toNat_false, Bool.toNat_true] at hmains ⊢
      omega
    · have hnot : Thread.isMainOf q ⟨p, .main, .recovering, code⟩ = false := by
        change (true && p == q) = false
        rw [Bool.true_and, beq_eq_false_iff_ne]
        exact Ne.symm hq
      rw [hne q hq, hnot, if_neg Bool.false_ne_true]
      exact hmains
  · have hlive := h.lock q hq
    have hqp : q ≠ p := by
      rintro rfl
      unfold Proc.live at hlive
      rw [hphase] at hlive
      cases hlive
    rwa [hne q hqp]
  · have hwrote := h.wrote q hq
    have hqp : q ≠ p := by
      rintro rfl
      exact hwrote hphase
    rwa [hne q hqp]

/-- A thread that has ended. -/
lemma finish {i : Nat} {t : Thread} (h : w.Tidy) (ht : w.threads[i]? = some t) :
    ({ w with threads := w.threads.eraseIdx i }.afterEnd t).Tidy := by
  have hrest : Sys.Tidy { w with threads := w.threads.eraseIdx i } :=
    h.of_sublist (fun _ => rfl) (List.eraseIdx_sublist _ _) (.refl _) (fun _ hp => hp) rfl
  unfold Sys.afterEnd
  split
  · -- The main program returned: the process serves, and it had one main program only.
    rename_i hrole _
    refine hrest.setProc rfl ?_
    have herase := countP_eraseIdx_add ht (Thread.isMainOf t.pid)
    have hmain : Thread.isMainOf t.pid t = true := by
      unfold Thread.isMainOf
      rw [hrole, beq_self_eq_true]
      rfl
    have hmains := h.mains t.pid
    have hle := Bool.toNat_le (decide ((w.proc t.pid).phase = .starting))
    rw [hmain, Bool.toNat_true] at herase
    change (w.threads.eraseIdx i).countP _ = 0
    omega
  · exact hrest.kill t.pid
  · refine hrest.of_sublist (fun q => ?_) (.refl _) (.refl _) (fun _ hp => hp) rfl
    rw [proc_setProc]
    split_ifs with hq
    · rw [hq]
    · rfl
  · exact hrest

lemma step (h : w.Tidy) (hsound : w.Sound) (hstep : StepTo env cfg w c w') : w'.Tidy := by
  cases hstep with
  | start p hphase => exact h.start hphase cfg.main
  | call p request hphase =>
      refine h.spawn rfl rfl ?_
      rw [hphase]
      rfl
  | step i p role held op k ht => exact h.exec hsound ht _
  | finish i t ht hended => exact h.finish ht
  | pop p item hworker hitem =>
      have hfound := List.find?_some hitem
      have hpid : item.pid = p := of_decide_eq_true hfound
      have hup := h.queue item (List.mem_of_find?_eq_some hitem)
      rw [hpid] at hup
      have hrest : Sys.Tidy { w with queue := w.queue.erase item } :=
        h.of_sublist (fun _ => rfl) (.refl _) List.erase_sublist (fun _ hp => hp) rfl
      have hspawn := hrest.spawn (t := ⟨p, .worker item.jobId item.jobDigest,
        .executing item.jobId, cfg.workerProgram item.jobId item.jobDigest⟩) rfl rfl hup
      refine hspawn.of_sublist (fun q => ?_) (.refl _) (.refl _) (fun _ hp => hp) rfl
      rw [proc_setProc]
      split_ifs with hq
      · rw [hq]
        rfl
      · rfl
  | stopWorker p hworker =>
      refine h.of_sublist (fun q => ?_) (.refl _) (.refl _) (fun _ hp => hp) rfl
      rw [proc_setProc]
      split_ifs with hq
      · rw [hq]
      · rfl
  | stop p hphase hcalls =>
      have hreleased : Sys.Tidy { w with lock := if w.lock = some p then none else w.lock } := by
        refine h.of_sublist (fun _ => rfl) (.refl _) (.refl _) (fun q hq => ?_) rfl
        change (if w.lock = some p then none else w.lock) = some q at hq
        split_ifs at hq
        exact hq
      refine hreleased.setProc rfl ?_
      have hmains := h.mains p
      rw [hphase] at hmains
      exact Nat.le_zero.mp hmains
  | crash p hlive => exact h.kill p

end Sys.Tidy

end tidy

/-! ## What a second process must not do -/

/-- What the steps that `ok` allows must not do in `w`: declare a job orphaned that a process has
queued or is executing, or fail to take the lock after the store was changed. -/
structure Undisturbed [UnicodeData] (env : Env) (cfg : BrokerConfig) (ok : Sys → Choice → Prop)
    (w : Sys) : Prop where
  orphan : ∀ c w' jobId r r', ok w c → Sys.step env cfg c w = some w' →
    w.store.records.find? jobId = some r → r.state ≠ .unknown →
    w'.store.records.find? jobId = some r' → r'.state = .unknown →
    r'.reasonCode = some restartReason →
    (∀ item ∈ w.queue, item.jobId ≠ jobId) ∧
      ∀ t ∈ w.threads, t.held ≠ .executing jobId ∧ t.held ≠ .ran jobId
  lock : ∀ t ∈ w.threads, ∀ k p, t.code = .call .openListener k → w.lock = some p → p ≠ t.pid →
    t.pid ∉ w.wrote

/-- A starting process changes the store only while no other process is alive, and no process is
started while one that has changed the store is still starting. -/
def SoleRecovery (w : Sys) : Choice → Prop
  | .step i => ∀ t c k, w.threads[i]? = some t → t.role = .main → t.code = .call (.write c) k →
      ∀ p, p ≠ t.pid → (w.proc p).live = false
  | .start _ => ∀ q ∈ w.wrote, (w.proc q).phase ≠ .starting
  | _ => True

section sole

variable [UnicodeData] {env : Env} {cfg : BrokerConfig} {w w' : Sys} {c : Choice}

/-- A starting process that has changed the store is the only one alive. -/
def Alone (w : Sys) : Prop :=
  ∀ q ∈ w.wrote, (w.proc q).phase = .starting → ∀ p, p ≠ q → (w.proc p).live = false

/-- Only the marking of an orphan gives the restart as its reason. -/
lemma isRecovery_of_reason {s s' : Store} {c : StoreWrite} {a : c.Res} {jobId : String}
    {r r' : JobRecord} (hc : c.isSystem = true) (hrun : c.run s = (.ok a, s'))
    (hr : s.records.find? jobId = some r) (hstate : r.state ≠ .unknown)
    (hr' : s'.records.find? jobId = some r') (hstate' : r'.state = .unknown)
    (hreason : r'.reasonCode = some restartReason) : c.isRecovery = true := by
  rcases RecordMoves.run c a hrun jobId r hr with hsame | ⟨event, updated, hevent, -, happly, hfind⟩
  · cases hsame.symm.trans hr'
    exact absurd hstate' hstate
  cases hfind.symm.trans hr'
  obtain ⟨-, hmoves, -⟩ := applyTransition_ok.mp happly
  cases hmoves with
  | mark hkind _ _ _ reason heventReason hres =>
      subst hres
      cases hreason
      cases c with
      | markClaimedExecutionUnknown event' raw receipt =>
          cases hevent
          exact decide_eq_true heventReason
      | compareAndAppend event' =>
          cases hevent
          have hclaim : event.kind = .claimExecution := of_decide_eq_true hc
          rw [hclaim] at hkind
          cases hkind
      | completeClaimedExecution event' raw receipt =>
          cases hevent
          have hcomplete := (Store.completeClaimedExecution_ok.mp hrun).2.1
          rw [hcomplete] at hkind
          cases hkind
      | claimWithApproval ceremony credential verified approval event' =>
          cases hevent
          have hclaim := (Store.claimWithApproval_ok hrun).1.kind
          rw [hclaim] at hkind
          cases hkind
      | _ => cases hevent
  | claim _ _ _ _ _ hres => subst hres; cases hstate'
  | close _ _ _ _ _ _ _ hres => subst hres; cases hstate'
  | complete _ _ _ _ _ _ _ _ hres => subst hres; cases hstate'
  | reconcile _ _ _ _ _ _ _ _ hres => subst hres; cases hstate'

namespace Alone

lemma initial : Alone Sys.initial := nofun

/-- Losing processes is safe. -/
lemma of_phases (h : Alone w) (hwrote : w'.wrote = w.wrote)
    (hphase : ∀ q, (w'.proc q).phase = .starting → (w.proc q).phase = .starting)
    (hlive : ∀ q, (w'.proc q).live = true → (w.proc q).live = true) : Alone w' := by
  intro q hq hstarting p hp
  rw [hwrote] at hq
  have hdead := h q hq (hphase q hstarting) p hp
  by_contra hnot
  rw [hlive p (Bool.eq_true_of_not_eq_false hnot)] at hdead
  cases hdead

lemma exec {i p : Nat} {role : Role} {held : Held} {op : Op} {k : Except Exn op.Res → Prog Value}
    (h : Alone w) (htidy : w.Tidy) (hok : SoleRecovery w (.step i))
    (ht : w.threads[i]? = some ⟨p, role, held, .call op k⟩) (ts : List Thread) :
    Alone { (Sys.exec env p op w).2 with threads := ts } := by
  have hmem := List.mem_of_getElem? ht
  have hphase := fun q => phase_exec env p q op w
  have hlive : ∀ q, ((Sys.exec env p op w).2.proc q).live = (w.proc q).live := by
    intro q
    unfold Proc.live
    rw [hphase]
  intro q hq hstarting p' hp'
  change ((Sys.exec env p op w).2.proc q).phase = .starting at hstarting
  change ((Sys.exec env p op w).2.proc p').live = false
  rw [hphase] at hstarting
  rw [hlive]
  rcases mem_wrote_exec env p q op w hq with hold | ⟨rfl, c, rfl⟩
  · exact h q hold hstarting p' hp'
  · -- A write of a starting process is one of its main program.
    cases hrole : role with
    | main =>
        subst hrole
        exact hok _ c k ht rfl rfl p' hp'
    | worker jobId jobDigest =>
        have hup := htidy.others _ hmem (by rw [hrole]; rfl)
        rw [hstarting] at hup
        cases hup
    | call request =>
        have hup := htidy.others _ hmem (by rw [hrole]; rfl)
        rw [hstarting] at hup
        cases hup

/-- One process moves on, and was alive before. -/
lemma setProc (h : Alone w) {p : Nat} {proc : Proc}
    (hphase : proc.phase = .starting → (w.proc p).phase = .starting)
    (hlive : proc.live = true → (w.proc p).live = true) : Alone (w.setProc p proc) := by
  refine h.of_phases rfl (fun q => ?_) fun q => ?_
  · rw [proc_setProc]
    split_ifs with hq
    · rw [hq]
      exact hphase
    · exact id
  · rw [proc_setProc]
    split_ifs with hq
    · rw [hq]
      exact hlive
    · exact id

lemma kill (h : Alone w) (p : Nat) : Alone (w.kill p) :=
  setProc (w := { w with
    threads := w.threads.filter (·.pid ≠ p)
    queue := w.queue.filter (·.pid ≠ p)
    lock := if w.lock = some p then none else w.lock }) h nofun nofun

lemma step (h : Alone w) (htidy : w.Tidy) (hok : SoleRecovery w c)
    (hstep : StepTo env cfg w c w') : Alone w' := by
  cases hstep with
  | start p hphase =>
      intro q hq hstarting
      have hwrote : q ∈ w.wrote := hq
      rw [proc_setProc] at hstarting
      split_ifs at hstarting with hqp
      · rw [hqp] at hwrote
        exact absurd hphase (htidy.wrote p hwrote)
      · exact absurd hstarting (hok q hwrote)
  | call p request hphase => exact h
  | step i p role held op k ht => exact h.exec htidy hok ht _
  | finish i t ht hended =>
      have hrest : Alone { w with threads := w.threads.eraseIdx i } := h
      have hlive := htidy.live_of_mem (List.mem_of_getElem? ht)
      unfold Sys.afterEnd
      split
      · exact hrest.setProc nofun fun _ => hlive
      · exact hrest.kill t.pid
      · exact hrest.setProc id fun _ => hlive
      · exact hrest
  | pop p item hworker hitem =>
      have hrest : Alone ({ w with queue := w.queue.erase item }.spawn ⟨p,
        .worker item.jobId item.jobDigest, .executing item.jobId,
        cfg.workerProgram item.jobId item.jobDigest⟩) := h
      exact hrest.setProc id id
  | stopWorker p hworker => exact h.setProc id id
  | stop p hphase hcalls =>
      have hrest : Alone { w with lock := if w.lock = some p then none else w.lock } := h
      refine hrest.setProc nofun fun _ => ?_
      exact Proc.live_of_isUp (by rw [hphase]; rfl)
  | crash p hlive => exact h.kill p

end Alone

/-- What holds in every state that the condition allows. -/
lemma alone_of_reachable (h : Sys.ReachableBy env cfg SoleRecovery w) :
    w.Sound ∧ w.Tidy ∧ Alone w := by
  refine h.invariant (P := fun w => w.Sound ∧ w.Tidy ∧ Alone w)
    ⟨.initial, .initial, .initial⟩ fun a b c hab hok hstep => ?_
  obtain ⟨hsound, htidy, halone⟩ := hab
  have hto := stepTo_of_step hstep
  exact ⟨hsound.step hto, htidy.step hsound hto, halone.step htidy hok hto⟩

/-- Where a main program writes, no process has a job queued or executing. -/
lemma idle_of_sole (htidy : w.Tidy) {t : Thread} (ht : t ∈ w.threads) (hrole : t.role = .main)
    (hsole : ∀ p, p ≠ t.pid → (w.proc p).live = false) :
    w.queue = [] ∧ ∀ t' ∈ w.threads, t'.held.isMain = true := by
  have hstarting := htidy.starting_of_mem ht (by rw [hrole]; rfl)
  have hdown : ∀ p, (w.proc p).phase.isUp = false := by
    intro p
    by_contra hup
    have hup' := Bool.eq_true_of_not_eq_false hup
    by_cases hp : p = t.pid
    · rw [hp, hstarting] at hup'
      cases hup'
    · have hdead := hsole p hp
      rw [Proc.live_of_isUp hup'] at hdead
      cases hdead
  constructor
  · refine List.eq_nil_iff_forall_not_mem.mpr fun item hitem => ?_
    have hup := htidy.queue item hitem
    rw [hdown] at hup
    cases hup
  · intro t' ht'
    rw [htidy.sides t' ht']
    by_contra hnot
    have hup := htidy.others t' ht' (Bool.eq_false_iff.mpr hnot)
    rw [hdown] at hup
    cases hup

end sole

/-- The sample process serves. -/
lemma served_sample :
    let _ := UnicodeData.asciiOnly
    ∃ w, Sys.ReachableBy (sampleEnv sampleClock) sampleConfig AnyStep w ∧ w.Fresh ∧
      w.threads = [] ∧ (w.proc 0).phase = .serving ∧ (w.proc 1).phase = .unborn := by
  intro _
  let env := sampleEnv sampleClock
  let t : Thread := ⟨0, .main, .recovering, sampleConfig.main⟩
  let w := Sys.initial.setProc 0 { phase := .starting }
  have hstart : Sys.ReachableBy env sampleConfig AnyStep { w with threads := [t] } :=
    Reaches.tail .refl (c := Choice.start 0) trivial rfl
  have hrunning : Store.empty.runningJobIds = [] := by
    unfold Store.runningJobIds
    change (([] : List JobRecord).mergeSort _).map _ = []
    rw [List.mergeSort_nil]
    rfl
  have hjobs : Store.empty.listJobIds = [] := by
    unfold Store.listJobIds
    change ([] : List String).mergeSort _ = []
    rw [List.mergeSort_nil]
  have hmain := @runs_main _ env sampleConfig 0 w hrunning hjobs rfl rfl fun _ => rfl
  have hi : [t][0]? = some t := rfl
  obtain ⟨held, hruns⟩ := @Sys.reaches_of_runs _ env sampleConfig 0 _ _ _ _ _ _ _ _ _ hi hmain
  exact ⟨_, (hstart.trans hruns).tail (c := Choice.finish 0) trivial rfl, ⟨rfl, rfl, rfl, rfl⟩, rfl,
    rfl, rfl⟩

/-- The sample job is queued in the process that serves. -/
lemma queued_sample :
    let _ := UnicodeData.asciiOnly
    ∃ w t, Sys.ReachableBy (sampleEnv sampleClock) sampleConfig AnyStep w ∧ w.store.HoldsClaimed ∧
      w.queue = [⟨0, "job", sampleJob.jobDigest⟩] ∧ w.threads = [t] ∧ w.drawn = 3 ∧
      (w.proc 1).phase = .unborn := by
  intro _
  let env := sampleEnv sampleClock
  let request : Request := .submit (Document.canonical sampleManifest) ⟨0, 0, 0⟩
  let t : Thread := ⟨0, .call request, .none, request.program sampleConfig⟩
  obtain ⟨w, hw, hfresh, hthreads, hphase, hunborn⟩ := served_sample
  obtain ⟨s, -, hclaimed, hsubmit⟩ := submitted_sample hfresh
  have hcall : Sys.ReachableBy env sampleConfig AnyStep { w with threads := [t] } := by
    refine hw.tail (c := Choice.call 0 request) trivial ?_
    unfold Sys.step
    simp only [hphase, if_true]
    unfold Sys.spawn
    rw [hthreads]
    rfl
  have hi : [t][0]? = some t := rfl
  obtain ⟨held, hruns⟩ := @Sys.reaches_of_runs _ env sampleConfig 0 _ _ _ _ _ _ _ _ _ hi
    (hsubmit.bind _)
  exact ⟨_, _, hcall.trans hruns, hclaimed, rfl, rfl, rfl, hunborn⟩

end AgentRuntimeOps.RootActions
