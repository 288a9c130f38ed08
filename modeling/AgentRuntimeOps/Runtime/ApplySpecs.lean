import AgentRuntimeOps.Runtime.Apply
import AgentRuntimeOps.Runtime.Restore

/-!
# What an apply does to the two transactions

One pass over `apply_desired_slot` with every fault that `fault` admits: what holds wherever the
run is cut off, and what it leaves when it ends.  Two of the facts are conditional on the faults:
`Careful fault` (no step that finishes a canary transaction fails) and `Truthful start fault` (once
the run has written a candidate receipt nothing fails).
-/

namespace AgentRuntimeOps.Runtime

open AgentRuntimeOps.Lib Program

variable [Host]

/-! ## Faults -/

/-- The steps on the canary transaction and its receipt. -/
def Op.OnCanary : Op → Prop
  | .readCanary => True
  | .readContract _ => True
  | .effect (.writeReceipt _) => True
  | .effect .unlinkCanary => True
  | _ => False

/-- A step that finishes the canary transaction: the rollback marker has been removed already. -/
def Finishing (w : SlotState) (op : Op) : Prop := w.marker = none ∧ op.OnCanary

/-- A fault between the removal of the rollback marker and that of the canary transaction; the
first of them is an `fsync` that fails after the marker was unlinked. -/
def FinishingFault (w : SlotState) (op : Op) (done : Bool) : Prop :=
  Finishing w op ∨ match op with
    | .effect .unlinkMarker => done = true
    | _ => False

/-- From the removal of the rollback marker to that of the canary transaction nothing fails. -/
def Careful (fault : Faults) : Prop := ∀ w op done, FinishingFault w op done → ¬ fault w op done

/-- A candidate receipt has been written by the run that began when `start` tokens were drawn. -/
def CandidateWritten (start : Nat) (w : SlotState) : Prop :=
  ∃ r ∈ w.receipts, start ≤ r.transactionId ∧ r.outcome = .candidateSucceeded

/-- A fault after the run has written a candidate receipt. -/
def LateFault (start : Nat) (w : SlotState) (op : Op) (done : Bool) : Prop :=
  match op with
  | .effect (.writeReceipt r) => r.outcome = .candidateSucceeded ∧ done = true
  | .effect .unlinkCanary => CandidateWritten start w
  | .check .appendActionLog => CandidateWritten start w
  | _ => False

/-- Once the run has written a candidate receipt nothing fails. -/
def Truthful (start : Nat) (fault : Faults) : Prop :=
  ∀ w op done, LateFault start w op done → ¬ fault w op done

/-- Whenever no rollback is pending, no canary transaction is open. -/
def InStep (w : SlotState) : Prop := w.marker = none → w.canary = none

/-- The receipts that a run has added to those there were: at most one, of a transaction that the
run itself has opened. -/
def AddsOneReceipt (w₀ w : SlotState) : Prop :=
  w₀.tokens ≤ w.tokens ∧ ∃ own : List CanaryReceipt, w.receipts = own ++ w₀.receipts ∧
    own.length ≤ 1 ∧ ∀ r ∈ own, w₀.tokens ≤ r.transactionId ∧ r.transactionId < w.tokens

/-- The slot has one of its two manifests. -/
def SlotState.hasManifest (w : SlotState) : Bool :=
  (w.files .manifest).isSome || (w.files .stateManifest).isSome

variable {fault : Faults} {w₀ : SlotState} {request : ApplyRequest} {name : BackupName}
  {b : Backup}

/-- The transaction is the run's own: it binds the candidate that is deployed and the images of the
backup. -/
structure Own (w₀ : SlotState) (request : ApplyRequest) (name : BackupName) (b : Backup)
    (tx : CanaryTransaction) : Prop where
  fresh : w₀.tokens ≤ tx.transactionId
  wellFormed : tx.wellFormed = true
  slot : tx.slot = request.desired.slot
  backupName : tx.backupName = name
  candidate : request.desired.candidate? = some tx.candidate
  prestate : ∃ c, Host.contract b = .ok c ∧
    ImagePair.ofImages? c.productImage c.wrapperImage = some tx.prestate

/-- A run after its backup: the backup is there, no other rollback is pending, the canary
transaction is the run's own if there is one, and no receipt was written as long as `kept`. -/
structure Under (w₀ : SlotState) (request : ApplyRequest) (name : BackupName) (b : Backup)
    (kept : Prop) (w : SlotState) : Prop where
  has : w.Has name b
  free : w.Free name b
  tokens : w₀.tokens ≤ w.tokens
  receipts : kept → w.receipts = w₀.receipts
  canary : w.canary = none ∨
    ∃ tx, w.canary = some tx ∧ Own w₀ request name b tx ∧ tx.transactionId < w.tokens

namespace Under

variable {kept : Prop} {w w' : SlotState}

lemma near (h : Under w₀ request name b kept w) (hnear : w.Near w' name) :
    Under w₀ request name b kept w' where
  has := by
    refine ⟨?_, h.has.intact, h.has.restorable⟩
    unfold SlotState.backup?
    rw [hnear.backups]
    exact h.has.lookup
  free := by
    rcases hnear.marker with hsame | ⟨m, b', hm, hb', hfor⟩
    · unfold SlotState.Free
      rw [hsame]
      exact h.free
    · rw [h.has.loadBackup] at hb'
      cases hb'
      exact .inr ⟨m, hm, hfor⟩
  tokens := h.tokens.trans hnear.tokens
  receipts hkept := hnear.receipts.trans (h.receipts hkept)
  canary := by
    rw [hnear.canary]
    rcases h.canary with hnone | ⟨tx, htx, hown, hlt⟩
    · exact .inl hnone
    · exact .inr ⟨tx, htx, hown, hlt.trans_le hnear.tokens⟩

lemma weaken {kept' : Prop} (h : Under w₀ request name b kept w) (hkept : kept' → kept) :
    Under w₀ request name b kept' w :=
  ⟨h.has, h.free, h.tokens, fun h' => h.receipts (hkept h'), h.canary⟩

end Under

/-! ## Where a run may be cut off -/

/-- What holds when the run is cut off in `w` before `op`. -/
structure Crash (fault : Faults) (w₀ : SlotState) (request : ApplyRequest) (w : SlotState)
    (op : Op) : Prop where
  receipts : Truthful w₀.tokens fault → AddsOneReceipt w₀ w
  inStep : Careful fault → ¬ Finishing w op → InStep w
  covered : op.WritesFile → w₀.canary = none ∧ ∃ name b, b.Of w₀.files ∧
    Under w₀ request name b True w ∧ (isImageRollout request.actionName = true →
      w₀.hasManifest = true → w.canary.isSome = true)

/-- What a run leaves in any case. -/
structure Left (fault : Faults) (w₀ w : SlotState) : Prop where
  receipts : Truthful w₀.tokens fault → AddsOneReceipt w₀ w
  inStep : Careful fault → InStep w

/-- The middle of a run: after its backup, before a receipt is written. -/
structure Mid (fault : Faults) (w₀ : SlotState) (request : ApplyRequest) (name : BackupName)
    (b : Backup) (w : SlotState) : Prop where
  under : Under w₀ request name b (Truthful w₀.tokens fault) w
  inStep : Careful fault → InStep w

omit [Host] in
lemma AddsOneReceipt.of_eq {w : SlotState} (htokens : w₀.tokens ≤ w.tokens)
    (h : w.receipts = w₀.receipts) : AddsOneReceipt w₀ w :=
  ⟨htokens, [], h, Nat.zero_le 1, nofun⟩

omit [Host] in
lemma AddsOneReceipt.of_cons {w : SlotState} {r : CanaryReceipt}
    (h : w.receipts = r :: w₀.receipts) (hfresh : w₀.tokens ≤ r.transactionId)
    (hdrawn : r.transactionId < w.tokens) : AddsOneReceipt w₀ w := by
  refine ⟨hfresh.trans hdrawn.le, [r], h, le_rfl, ?_⟩
  intro r' hr'
  obtain rfl := List.mem_singleton.mp hr'
  exact ⟨hfresh, hdrawn⟩

lemma InStep.near {w w' : SlotState} (h : InStep w) (hnear : w.Near w' name) : InStep w' := by
  intro hnone
  rw [hnear.canary]
  rcases hnear.marker with hsame | ⟨m, _, hm, -⟩
  · exact h (hsame ▸ hnone)
  · rw [hnone] at hm
    cases hm

namespace Mid

variable {w w' : SlotState}

lemma near (h : Mid fault w₀ request name b w) (hnear : w.Near w' name) :
    Mid fault w₀ request name b w' :=
  ⟨h.under.near hnear, fun hcareful => (h.inStep hcareful).near hnear⟩

lemma left (h : Mid fault w₀ request name b w) : Left fault w₀ w :=
  ⟨fun ht => .of_eq h.under.tokens (h.under.receipts ht), h.inStep⟩

lemma crash (h : Mid fault w₀ request name b w) {op : Op} (hop : ¬ op.WritesFile) :
    Crash fault w₀ request w op :=
  ⟨h.left.receipts, fun hcareful _ => h.inStep hcareful, fun hwrites => absurd hwrites hop⟩

/-- Quiet operations keep the middle. -/
lemma quiet {α : Type} {p : Run α} (h : Mid fault w₀ request name b w) (hp : AllOps Op.Quiet p) :
    Safe ⟨Crash fault w₀ request, Outcome fault⟩ (fun w' _ => Mid fault w₀ request name b w')
      (fun w' _ => Mid fault w₀ request name b w') w p := by
  refine Safe.mono (safe_mono_pre (near_of_quiet hp (.refl w name)) ?_) ?_ ?_
  · exact fun _ _ hnear => (h.near hnear.1).crash hnear.2
  · exact fun _ _ hnear => h.near hnear
  · exact fun _ _ hnear => h.near hnear

end Mid

/-! ## Finishing the transactions -/

variable {w : SlotState} {slot : List Char} {tx : CanaryTransaction}

omit [Host] in
lemma isSafeSlot_of_wellFormed (h : tx.wellFormed = true) : isSafeSlot tx.slot = true := by
  unfold CanaryTransaction.wellFormed at h
  simp only [Bool.and_eq_true] at h
  exact h.1.1.1.1

omit [Host] in
lemma canonical_of_wellFormed (h : tx.wellFormed = true) :
    tx.candidate.canonical = true ∧ tx.prestate.canonical = true := by
  unfold CanaryTransaction.wellFormed at h
  simp only [Bool.and_eq_true] at h
  exact ⟨h.1.1.2, h.1.2⟩

section load

variable {pre : SlotState → Op → Prop} {Q : SlotState → CanaryTransaction → Prop}
  {E : SlotState → Raised → Prop}

/-- Loading an open transaction. -/
lemma safe_load_some (hcanary : w.canary = some tx) (hwell : tx.wellFormed = true)
    (hslot : tx.slot = slot) (hpre : pre w .readCanary) (hQ : Q w tx)
    (hE : fault w .readCanary false → E w .canaryUnreadable) :
    Safe ⟨pre, Outcome fault⟩ Q E w (Canary.load slot) := by
  have hsafe := isSafeSlot_of_wellFormed hwell
  rw [hslot] at hsafe
  simp only [Canary.load, hsafe, Bool.not_true, Bool.false_eq_true, if_false, safe_bind,
    safe_tryCatch, safe_readCanary, safe_throw, hcanary]
  refine ⟨hpre, ?_, fun hf _ => hE hf⟩
  rw [if_pos hwell]
  exact hQ

/-- Loading when no transaction is open. -/
lemma safe_load_none (hcanary : w.canary = none) (hpre : pre w .readCanary)
    (hE : ∀ e, E w e) : Safe ⟨pre, Outcome fault⟩ Q E w (Canary.load slot) := by
  unfold Canary.load
  split
  · exact hE _
  · simp only [safe_bind, safe_tryCatch, safe_readCanary, safe_throw, hcanary]
    exact ⟨hpre, hE _, fun _ _ => hE _⟩

end load

/-- The images that an outcome leaves deployed. -/
def CanaryTransaction.result (tx : CanaryTransaction) : CanaryOutcome → ImagePair
  | .candidateSucceeded => tx.candidate
  | .rollbackSucceeded => tx.prestate

/-- The state after the receipt of the open transaction was written. -/
def SlotState.withReceipt (w : SlotState) (slot : List Char) (tx : CanaryTransaction)
    (outcome : CanaryOutcome) : SlotState :=
  { w with receipts := Canary.receiptOf slot tx outcome :: w.receipts }

/-- The rule for `finish` on an open transaction and the images it binds: the receipt is written,
then the transaction is unlinked, and each of these steps may fail. -/
lemma safe_finish {pre : SlotState → Op → Prop} {Q : SlotState → Unit → Prop}
    {E : SlotState → Raised → Prop} {outcome : CanaryOutcome} (hcanary : w.canary = some tx)
    (hwell : tx.wellFormed = true) (hslot : tx.slot = slot)
    (hread : pre w .readCanary)
    (hwrite : pre w (.effect (.writeReceipt (Canary.receiptOf slot tx outcome))))
    (hunlink : pre (w.withReceipt slot tx outcome) (.effect .unlinkCanary))
    (hQ : Q { w.withReceipt slot tx outcome with canary := none } ())
    (hreadE : fault w .readCanary false → ∀ e, E w e)
    (hwriteE : fault w (.effect (.writeReceipt (Canary.receiptOf slot tx outcome))) false →
      ∀ e, E w e)
    (hwrittenE : fault w (.effect (.writeReceipt (Canary.receiptOf slot tx outcome))) true →
      ∀ e, E (w.withReceipt slot tx outcome) e)
    (hunlinkE : fault (w.withReceipt slot tx outcome) (.effect .unlinkCanary) false →
      ∀ e, E (w.withReceipt slot tx outcome) e)
    (hunlinkedE : fault (w.withReceipt slot tx outcome) (.effect .unlinkCanary) true →
      ∀ e, E { w.withReceipt slot tx outcome with canary := none } e) :
    Safe ⟨pre, Outcome fault⟩ Q E w (Canary.finish slot outcome (tx.result outcome)) := by
  obtain ⟨hcandidate, hprestate⟩ := canonical_of_wellFormed hwell
  have hcanonical : (tx.result outcome).canonical = true := by
    cases outcome
    · exact hcandidate
    · exact hprestate
  have hrest : Safe ⟨pre, Outcome fault⟩ Q E w
      (do
        (Effect.writeReceipt (Canary.receiptOf slot tx outcome)).run
        Effect.unlinkCanary.run) := by
    refine safe_bind.mpr (safe_effect.mpr ⟨hwrite, ?_, fun hf _ => hwriteE hf _,
      fun hf _ => hwrittenE hf _⟩)
    exact safe_effect.mpr ⟨hunlink, hQ, fun hf _ => hunlinkE hf _, fun hf _ => hunlinkedE hf _⟩
  refine safe_bind.mpr (safe_load_some hcanary hwell hslot hread ?_ fun hf => hreadE hf _)
  rw [hcanonical]
  simp only [Bool.not_true, Bool.false_eq_true, if_false]
  cases outcome with
  | candidateSucceeded =>
      refine safe_bind.mpr (safe_bind.mpr
        (safe_load_some hcanary hwell hslot hread ?_ fun hf => hreadE hf _))
      simpa [CanaryTransaction.result, hcandidate] using hrest
  | rollbackSucceeded =>
      refine safe_bind.mpr (safe_bind.mpr
        (safe_load_some hcanary hwell hslot hread ?_ fun hf => hreadE hf _))
      simpa [CanaryTransaction.result, hprestate] using hrest

/-- The state after a rollback that has finished both transactions. -/
structure RolledBack (fault : Faults) (w₀ w w' : SlotState) : Prop where
  marker : w'.marker = none
  canary : w'.canary = none
  files : w'.files = w.files
  containers : w'.containers = w.containers
  tokens : w₀.tokens ≤ w'.tokens
  receipts : Truthful w₀.tokens fault → ∃ own : List CanaryReceipt,
    w'.receipts = own ++ w₀.receipts ∧ own.length ≤ 1 ∧
      ∀ r ∈ own, (w₀.tokens ≤ r.transactionId ∧ r.transactionId < w'.tokens) ∧
        r.outcome = .rollbackSucceeded

omit [Host] in
lemma RolledBack.left {w' : SlotState} (h : RolledBack fault w₀ w w') : Left fault w₀ w' where
  receipts ht := by
    obtain ⟨own, hown, hlen, hall⟩ := h.receipts ht
    exact ⟨h.tokens, own, hown, hlen, fun r hr => (hall r hr).1⟩
  inStep _ _ := h.canary

omit [Host] in
/-- A fault of a finishing step is not a careful one. -/
lemma not_careful {op : Op} {done : Bool} (hf : fault w op done) (hfin : Finishing w op) :
    ¬ Careful fault := fun hcareful => hcareful w op done (.inl hfin) hf

omit [Host] in
/-- A late fault is not a truthful one. -/
lemma not_truthful {start : Nat} {op : Op} {done : Bool} (hf : fault w op done)
    (hlate : LateFault start w op done) : ¬ Truthful start fault := fun ht => ht w op done hlate hf

lemma SlotState.Has.loadContract (h : w.Has name b) : w.loadContract name = Host.contract b := by
  unfold SlotState.loadContract
  rw [h.lookup]

/-- `_finish_canary_rollback` after the marker was removed. -/
lemma safe_finishCanaryRollback
    (h : Under w₀ request name b (Truthful w₀.tokens fault) w) (hmarker : w.marker = none) :
    Safe ⟨Crash fault w₀ request, Outcome fault⟩ (fun w' _ => RolledBack fault w₀ w w')
      (fun w' _ => Left fault w₀ w') w (finishCanaryRollback request.desired.slot name) := by
  have hsame : Truthful w₀.tokens fault → AddsOneReceipt w₀ w := fun ht =>
    .of_eq h.tokens (h.receipts ht)
  rcases h.canary with hnone | ⟨tx, htx, hown, hlt⟩
  · have hclosed : RolledBack fault w₀ w w := by
      refine ⟨hmarker, hnone, rfl, rfl, h.tokens, fun ht => ⟨[], h.receipts ht, Nat.zero_le 1, ?_⟩⟩
      exact nofun
    have hcrash : Crash fault w₀ request w .readCanary :=
      ⟨hsame, fun _ _ _ => hnone, False.elim⟩
    unfold finishCanaryRollback
    refine safe_bind.mpr (safe_tryCatch.mpr (safe_bind.mpr (safe_load_none hnone hcrash ?_)))
    intro e
    dsimp only
    split
    · exact hclosed
    · exact hclosed.left
  · -- the run's own transaction: every failure from here on is one that `Careful` excludes
    have hfin : ∀ {op : Op}, op.OnCanary → Finishing w op := fun hop => ⟨hmarker, hop⟩
    have hcrash : ∀ {op : Op}, op.OnCanary → ¬ op.WritesFile → Crash fault w₀ request w op :=
      fun hop hwrites => ⟨hsame, fun _ hnot => absurd (hfin hop) hnot, fun h => absurd h hwrites⟩
    have hfault : ∀ {op : Op} {done : Bool}, fault w op done → op.OnCanary → Left fault w₀ w :=
      fun hf hop => ⟨hsame, fun hc => absurd hc (not_careful hf (hfin hop))⟩
    obtain ⟨c, hc, hpair⟩ := hown.prestate
    set w₁ := w.withReceipt request.desired.slot tx .rollbackSucceeded with hw₁
    have hreceipts : Truthful w₀.tokens fault → w₁.receipts =
        Canary.receiptOf request.desired.slot tx .rollbackSucceeded :: w₀.receipts := by
      intro ht
      rw [← h.receipts ht]
      rfl
    have hadds : Truthful w₀.tokens fault → AddsOneReceipt w₀ w₁ := fun ht =>
      .of_cons (hreceipts ht) hown.fresh hlt
    have hfin₁ : Finishing w₁ (.effect .unlinkCanary) := ⟨hmarker, trivial⟩
    unfold finishCanaryRollback
    refine safe_bind.mpr (safe_tryCatch.mpr (safe_bind.mpr
      (safe_load_some htx hown.wellFormed hown.slot (hcrash trivial id) ?_ ?_)))
    swap
    · intro hf
      exact hfault hf trivial
    refine safe_bind.mpr (safe_readContract.mpr ⟨hcrash trivial id, ?_, ?_, ?_⟩)
    · intro c' hc'
      rw [h.has.loadContract, hc] at hc'
      cases hc'
      rw [hpair]
      simp only [ne_eq, not_true_eq_false, if_false]
      refine safe_finish htx hown.wellFormed hown.slot (hcrash trivial id) (hcrash trivial id)
        ⟨hadds, fun _ hnot => absurd hfin₁ hnot, False.elim⟩ ?_ (fun hf _ => hfault hf trivial)
        (fun hf _ => hfault hf trivial) ?_ ?_ ?_
      · refine ⟨hmarker, rfl, rfl, rfl, h.tokens, fun ht => ⟨[_], hreceipts ht, le_rfl, ?_⟩⟩
        intro r hr
        obtain rfl := List.mem_singleton.mp hr
        exact ⟨⟨hown.fresh, hlt⟩, rfl⟩
      · exact fun hf _ => ⟨hadds, fun hc => absurd hc (not_careful hf (hfin trivial))⟩
      · exact fun hf _ => ⟨hadds, fun hc => absurd hc (not_careful hf hfin₁)⟩
      · exact fun _ _ => ⟨hadds, fun _ _ => rfl⟩
    · intro e he
      rw [h.has.loadContract, hc] at he
      cases he
    · exact fun hf _ => hfault hf trivial

/-- Removing the marker of the run's own backup. -/
lemma safe_finishRollbackTransaction {m : Marker} (h : Mid fault w₀ request name b w)
    (hm : w.marker = some m) (hfor : m.For name b) :
    Safe ⟨Crash fault w₀ request, Outcome fault⟩ (fun w' _ => w' = { w with marker := none })
      (fun w' _ => Mid fault w₀ request name b w') w (finishRollbackTransaction name) := by
  have hload := h.under.has.loadMarker hm hfor
  have hremoved : Under w₀ request name b (Truthful w₀.tokens fault) { w with marker := none } :=
    ⟨⟨h.under.has.lookup, h.under.has.intact, h.under.has.restorable⟩, .inl rfl, h.under.tokens,
      h.under.receipts, h.under.canary⟩
  refine safe_bind.mpr (safe_bind.mpr (safe_readMarker.mpr ⟨h.crash id, ?_, ?_, fun _ _ => h⟩))
  · intro found hfound
    rw [hload] at hfound
    cases hfound
    simp only [safe_pure, Option.map_some, hfor.name, ne_eq, not_true_eq_false, if_false]
    refine safe_effect.mpr ⟨h.crash id, rfl, fun _ _ => h, fun hf _ => ⟨hremoved, ?_⟩⟩
    exact fun hcareful => absurd hf (hcareful w _ true (.inr rfl))
  · intro e he
    rw [hload] at he
    cases he

/-- Finishing both transactions of a verified rollback. -/
lemma safe_finishBoth {m : Marker} (h : Mid fault w₀ request name b w) (hm : w.marker = some m)
    (hfor : m.For name b) :
    Safe ⟨Crash fault w₀ request, Outcome fault⟩
      (fun w' r => r = true ∧ RolledBack fault w₀ w w') (fun w' _ => Left fault w₀ w') w
      (do
        finishRollbackTransaction name
        finishCanaryRollback request.desired.slot name
        return true) := by
  refine safe_bind.mpr ((safe_finishRollbackTransaction h hm hfor).mono ?_ fun _ _ h => h.left)
  rintro w' - rfl
  have hremoved : Under w₀ request name b (Truthful w₀.tokens fault) { w with marker := none } :=
    ⟨⟨h.under.has.lookup, h.under.has.intact, h.under.has.restorable⟩, .inl rfl, h.under.tokens,
      h.under.receipts, h.under.canary⟩
  refine (safe_finishCanaryRollback hremoved rfl).bind ?_
  intro w' _ hrolled
  exact ⟨rfl, hrolled.marker, hrolled.canary, hrolled.files, hrolled.containers, hrolled.tokens,
    hrolled.receipts⟩

/-! ## Rolling back -/

/-- The deployment there was before the run: its compose file, its manifests and its containers. -/
structure PrestateDeployed (w₀ w : SlotState) : Prop where
  bytes : ∀ file, (w.files file).map FileState.bytes = (w₀.files file).map FileState.bytes
  containers : w.containers = (w₀.files .compose).map FileState.bytes

lemma Mid.restore (h : Mid fault w₀ request name b w) (hof : b.Of w₀.files) :
    Safe ⟨Crash fault w₀ request, Outcome fault⟩
      (fun w' r => Mid fault w₀ request name b w' ∧ (r.1 = true → PrestateDeployed w₀ w' ∧
        ∃ m, w'.marker = some m ∧ m.For name b))
      (fun w' _ => Mid fault w₀ request name b w') w (restoreBackup name none) := by
  have hboth := safe_and (@near_restoreBackup _ fault _ _ none _ (.refl w name))
    (spec_restoreBackup h.under.has (.plain h.under.free))
  refine Safe.mono (safe_mono_pre hboth ?_) ?_ ?_
  · exact fun _ _ hnear => (h.near hnear.1.1).crash hnear.1.2
  · rintro w' ⟨ok, reason⟩ ⟨hnear, m, t, temp, files, c, hfor, -, hw', hfiles, hdeployed⟩
    refine ⟨h.near hnear, fun hok => ⟨?_, m, by rw [hw'], hfor⟩⟩
    have hrestored : w'.files = b.restored w.files := by
      rcases hfiles with hfiles | ⟨hfail, -⟩
      · rw [hw']
        exact hfiles
      · rw [hok] at hfail
        cases hfail
    have hbytes := hof.restored_bytes w.files
    rw [← hrestored] at hbytes
    exact ⟨hbytes, (hdeployed hok).trans (hbytes .compose)⟩
  · exact fun _ _ hnear => h.near hnear.1

/-- What a rollback in the middle of a run leaves. -/
structure RollbackLeft (fault : Faults) (w₀ w : SlotState) (ok : Bool) : Prop where
  left : Left fault w₀ w
  prestate : ok = true → PrestateDeployed w₀ w
  receipts : ok = true → Truthful w₀.tokens fault → ∃ own : List CanaryReceipt,
    w.receipts = own ++ w₀.receipts ∧ ∀ r ∈ own, r.outcome = .rollbackSucceeded

omit [Host] in
lemma RollbackLeft.failed (h : Left fault w₀ w) : RollbackLeft fault w₀ w false :=
  ⟨h, nofun, nofun⟩

omit [Host] in
lemma RolledBack.rollbackLeft {w' : SlotState} (h : RolledBack fault w₀ w w')
    (hpre : PrestateDeployed w₀ w) : RollbackLeft fault w₀ w' true where
  left := h.left
  prestate _ := by
    refine ⟨?_, h.containers.trans hpre.containers⟩
    rw [h.files]
    exact hpre.bytes
  receipts _ ht := by
    obtain ⟨own, hown, -, hall⟩ := h.receipts ht
    exact ⟨own, hown, fun r hr => (hall r hr).2⟩

/-- `_restore_and_verify_backup` in the middle of a run. -/
lemma safe_restoreAndVerifyBackup (h : Mid fault w₀ request name b w) (hof : b.Of w₀.files) :
    Safe ⟨Crash fault w₀ request, Outcome fault⟩ (fun w' ok => RollbackLeft fault w₀ w' ok)
      (fun w' _ => Left fault w₀ w') w (restoreAndVerifyBackup request.desired.slot name) := by
  refine safe_bind.mpr ((h.restore hof).mono ?_ fun _ _ h => h.left)
  rintro w₁ ⟨restored, reason⟩ ⟨hmid, hrestored⟩
  cases restored with
  | false => exact .failed hmid.left
  | true =>
      obtain ⟨hpre, m, hm, hfor⟩ := hrestored rfl
      simp only [Bool.not_true, Bool.false_eq_true, if_false]
      by_cases hreason : reason = .rollbackEmptyBaselineRestored
      · rw [if_pos hreason, safe_tryCatch]
        refine (safe_finishBoth hmid hm hfor).mono ?_ fun _ _ h => .failed h
        rintro w' r ⟨rfl, hrolled⟩
        exact hrolled.rollbackLeft hpre
      · rw [if_neg hreason, safe_tryCatch]
        unfold verifyRestored
        refine safe_bind.mpr (safe_readContract.mpr ⟨hmid.crash id, fun c _ => ?_,
          fun _ _ => .failed hmid.left, fun _ _ => .failed hmid.left⟩)
        refine safe_bind.mpr (safe_liveChecks.mpr ⟨hmid.crash id, ?_, fun _ =>
          ⟨.failed hmid.left, fun _ => .failed hmid.left⟩⟩)
        simp only [Bool.not_true, Bool.false_eq_true, if_false]
        refine (safe_finishBoth hmid hm hfor).mono ?_ fun _ _ h => .failed h
        rintro w' r ⟨rfl, hrolled⟩
        exact hrolled.rollbackLeft hpre

/-! ## Committing -/

/-- The run opens a canary transaction: it is an image rollout over a slot that has a manifest. -/
def OpensCanary (w₀ : SlotState) (request : ApplyRequest) : Prop :=
  isImageRollout request.actionName = true ∧ w₀.hasManifest = true

/-- The run between its transactions' opening and their end: the backup is that of the state before,
the marker binds it, and a canary transaction is open exactly if the run opens one. -/
structure Deploying (w₀ : SlotState) (request : ApplyRequest) (name : BackupName) (b : Backup)
    (w : SlotState) : Prop where
  taken : b.Of w₀.files
  under : Under w₀ request name b True w
  marker : ∃ m, w.marker = some m ∧ m.For name b
  closed : w₀.canary = none
  canary : w.canary.isSome = true ↔ OpensCanary w₀ request

namespace Deploying

lemma inStep (h : Deploying w₀ request name b w) : InStep w := by
  obtain ⟨m, hm, -⟩ := h.marker
  intro hnone
  rw [hm] at hnone
  cases hnone

lemma mid (h : Deploying w₀ request name b w) : Mid fault w₀ request name b w :=
  ⟨h.under.weaken fun _ => trivial, fun _ => h.inStep⟩

lemma crash (h : Deploying w₀ request name b w) (op : Op) : Crash fault w₀ request w op :=
  ⟨h.mid.left.receipts, fun _ _ => h.inStep, fun _ => ⟨h.closed, name, b, h.taken, h.under,
    fun hroll hman => h.canary.mpr ⟨hroll, hman⟩⟩⟩

/-- Files and containers do not matter. -/
lemma congr {w' : SlotState} (h : Deploying w₀ request name b w) (hsame : w.SameTransactions w') :
    Deploying w₀ request name b w' := by
  refine ⟨h.taken, h.under.near (hsame.near name), ?_, h.closed, ?_⟩
  · rw [hsame.marker]
    exact h.marker
  · rw [hsame.canary]
    exact h.canary

end Deploying

omit [Host] in
lemma SlotState.sameTransactions_setFile (w : SlotState) (file : Managed)
    (content : Option FileState) : w.SameTransactions (w.setFile file content) :=
  ⟨rfl, rfl, rfl, rfl, le_rfl, rfl⟩

/-- The candidate's compose file is written and its containers are up. -/
structure CandidateUp (request : ApplyRequest) (w : SlotState) : Prop where
  compose : (w.files .compose).map FileState.bytes = some request.desired.composeText
  containers : w.containers = some request.desired.composeText

/-- The candidate is deployed: its compose file, its manifests and its containers. -/
structure CandidateDeployed (request : ApplyRequest) (w : SlotState) : Prop where
  up : CandidateUp request w
  manifests : ∃ appliedAt,
    (w.files .manifest).map FileState.bytes = some (request.desired.manifestText appliedAt) ∧
      (w.files .stateManifest).map FileState.bytes =
        some (request.desired.stateManifestText appliedAt)

omit [Host] in
lemma CandidateDeployed.congr {w' : SlotState} (h : CandidateDeployed request w)
    (hfiles : w'.files = w.files) (hcontainers : w'.containers = w.containers) :
    CandidateDeployed request w' := by
  refine ⟨⟨?_, hcontainers.trans h.up.containers⟩, ?_⟩
  · rw [hfiles]
    exact h.up.compose
  · rw [hfiles]
    exact h.manifests

lemma safe_writeSlotManifests (h : Deploying w₀ request name b w) (hup : CandidateUp request w) :
    Safe ⟨Crash fault w₀ request, Outcome fault⟩
      (fun w' _ => Deploying w₀ request name b w' ∧ CandidateDeployed request w')
      (fun w' _ => Mid fault w₀ request name b w') w (writeSlotManifests request.desired) := by
  refine safe_bind.mpr (safe_clock.mpr ⟨h.crash _, fun appliedAt => ?_⟩)
  refine safe_bind.mpr (safe_check.mpr ⟨h.crash _, ?_, fun _ _ => h.mid⟩)
  have h₁ := h.congr (w.sameTransactions_setFile .manifest
    (some { bytes := request.desired.manifestText appliedAt, mode := 0o644, uid := 0, gid := 0 }))
  refine safe_bind.mpr (safe_effect.mpr ⟨h.crash _, ?_, fun _ _ => h.mid, fun _ _ => h₁.mid⟩)
  have h₂ := h₁.congr (SlotState.sameTransactions_setFile _ .stateManifest
    (some { bytes := request.desired.stateManifestText appliedAt, mode := 0o644, uid := 0, gid := 0 }))
  refine safe_effect.mpr ⟨h₁.crash _, ⟨h₂, ⟨hup.compose, hup.containers⟩, appliedAt, rfl, rfl⟩,
    fun _ _ => h₁.mid, fun _ _ => h₂.mid⟩

/-- The receipts after a commit: one for the candidate when the run opened a canary transaction. -/
def CommittedReceipts (w₀ : SlotState) (request : ApplyRequest) (name : BackupName) (b : Backup)
    (w : SlotState) : Prop :=
  (OpensCanary w₀ request ∧ ∃ tx, Own w₀ request name b tx ∧ tx.transactionId < w.tokens ∧
      w.receipts = Canary.receiptOf request.desired.slot tx .candidateSucceeded :: w₀.receipts) ∨
    (isImageRollout request.actionName = false ∧ w.receipts = w₀.receipts)

/-- What a commit leaves. -/
structure Committed (fault : Faults) (w₀ : SlotState) (request : ApplyRequest)
    (w : SlotState) : Prop where
  left : Left fault w₀ w
  candidate : CandidateDeployed request w
  receipts : ∃ name b, b.Of w₀.files ∧ CommittedReceipts w₀ request name b w

/-- The end of a commit, after the marker was removed. -/
lemma safe_finishCandidate (h : Deploying w₀ request name b w)
    (hdeployed : CandidateDeployed request w) {candidate : ImagePair}
    (hcandidate : request.desired.candidate? = some candidate) :
    Safe ⟨Crash fault w₀ request, Outcome fault⟩ (fun w' _ => Committed fault w₀ request w')
      (fun w' _ => Mid fault w₀ request name b w') { w with marker := none }
      (do
        Canary.finish request.desired.slot .candidateSucceeded candidate
        appendActionLog) := by
  set v : SlotState := { w with marker := none } with hv
  have hunder : Under w₀ request name b True v :=
    ⟨⟨h.under.has.lookup, h.under.has.intact, h.under.has.restorable⟩, .inl rfl, h.under.tokens,
      h.under.receipts, h.under.canary⟩
  have hsame : AddsOneReceipt w₀ v := .of_eq h.under.tokens (h.under.receipts trivial)
  rcases h.under.canary with hnone | ⟨tx, htx, hown, hlt⟩
  · -- a rollout without a manifest has no transaction to finish
    have hmid : Mid fault w₀ request name b v := ⟨hunder.weaken fun _ => trivial, fun _ _ => hnone⟩
    exact safe_bind.mpr (safe_bind.mpr (safe_load_none hnone (hmid.crash id) fun _ => hmid))
  · obtain rfl : tx.candidate = candidate := Option.some.inj (hown.candidate.symm.trans hcandidate)
    set w₁ := v.withReceipt request.desired.slot tx .candidateSucceeded with hw₁
    have hreceipts : w₁.receipts =
        Canary.receiptOf request.desired.slot tx .candidateSucceeded :: w₀.receipts := by
      rw [← h.under.receipts trivial]
      rfl
    have hadds : AddsOneReceipt w₀ w₁ := .of_cons hreceipts hown.fresh hlt
    have hfin : ∀ {op : Op}, op.OnCanary → Finishing v op := fun hop => ⟨rfl, hop⟩
    have hfin₁ : Finishing w₁ (.effect .unlinkCanary) := ⟨rfl, trivial⟩
    have hcrash : ∀ {op : Op}, op.OnCanary → ¬ op.WritesFile → Crash fault w₀ request v op :=
      fun hop hwrites => ⟨fun _ => hsame, fun _ hnot => absurd (hfin hop) hnot,
        fun h => absurd h hwrites⟩
    have hmid : ∀ {op : Op} {done : Bool}, fault v op done → op.OnCanary →
        Mid fault w₀ request name b v := fun hf hop =>
      ⟨hunder.weaken fun _ => trivial, fun hc => absurd hc (not_careful hf (hfin hop))⟩
    have hwritten : CandidateWritten w₀.tokens w₁ :=
      ⟨_, by rw [hreceipts]; exact List.mem_cons_self, hown.fresh, rfl⟩
    -- a late fault: the receipt is there, and the run does not keep to `Truthful`
    have hlate : ¬ Truthful w₀.tokens fault → ∀ canary, (canary = none ∨ canary = some tx) →
        Under w₀ request name b (Truthful w₀.tokens fault) { w₁ with canary := canary } := by
      rintro hnot canary hcanary
      refine ⟨⟨h.under.has.lookup, h.under.has.intact, h.under.has.restorable⟩, .inl rfl,
        h.under.tokens, fun ht => absurd ht hnot, ?_⟩
      exact hcanary.imp id fun hc => ⟨tx, hc, hown, hlt⟩
    have hopen : ({ w₁ with canary := some tx } : SlotState) = w₁ := by rw [← htx]; rfl
    have hlateOpen : ¬ Truthful w₀.tokens fault → ¬ Careful fault →
        Mid fault w₀ request name b w₁ := fun hnot hcareless =>
      ⟨hopen ▸ hlate hnot (some tx) (.inr rfl), fun hc => absurd hc hcareless⟩
    have hlateShut : ¬ Truthful w₀.tokens fault →
        Mid fault w₀ request name b { w₁ with canary := none } := fun hnot =>
      ⟨hlate hnot none (.inl rfl), fun _ _ => rfl⟩
    refine safe_bind.mpr (safe_finish htx hown.wellFormed hown.slot (hcrash trivial id)
      (hcrash trivial id) ⟨fun _ => hadds, fun _ hnot => absurd hfin₁ hnot, False.elim⟩ ?_
      (fun hf _ => hmid hf trivial) (fun hf _ => hmid hf trivial) ?_ ?_ ?_)
    · refine safe_check.mpr ⟨⟨fun _ => hadds, fun _ _ _ => rfl, False.elim⟩, ?_, fun hf _ => ?_⟩
      · refine ⟨⟨fun _ => hadds, fun _ _ => rfl⟩, hdeployed.congr rfl rfl, name, b, h.taken,
          .inl ⟨?_, tx, hown, hlt, hreceipts⟩⟩
        exact h.canary.mp (by rw [htx]; rfl)
      · exact hlateShut (not_truthful hf hwritten)
    · exact fun hf _ => hlateOpen (not_truthful hf ⟨rfl, rfl⟩) (not_careful hf (hfin trivial))
    · exact fun hf _ => hlateOpen (not_truthful hf hwritten) (not_careful hf hfin₁)
    · exact fun hf _ => hlateShut (not_truthful hf hwritten)

lemma safe_commitApply (h : Deploying w₀ request name b w) (hup : CandidateUp request w) :
    Safe ⟨Crash fault w₀ request, Outcome fault⟩ (fun w' _ => Committed fault w₀ request w')
      (fun w' _ => Mid fault w₀ request name b w') w (commitApply request name) := by
  refine (safe_writeSlotManifests h hup).bind ?_
  rintro w₁ - ⟨h₁, hdeployed⟩
  obtain ⟨m, hm, hfor⟩ := h₁.marker
  refine (safe_finishRollbackTransaction h₁.mid hm hfor).bind ?_
  rintro w₂ - rfl
  set v : SlotState := { w₁ with marker := none } with hv
  have hunder : Under w₀ request name b True v :=
    ⟨⟨h₁.under.has.lookup, h₁.under.has.intact, h₁.under.has.restorable⟩, .inl rfl,
      h₁.under.tokens, h₁.under.receipts, h₁.under.canary⟩
  have hmid : v.canary = none → Mid fault w₀ request name b v := fun hnone =>
    ⟨hunder.weaken fun _ => trivial, fun _ _ => hnone⟩
  unfold finishCandidate
  by_cases hroll : isImageRollout request.actionName = true
  · rw [if_pos hroll]
    cases hcandidate : request.desired.candidate? with
    | none =>
        -- an open transaction would have bound the candidate's digests
        refine hmid ?_
        rcases h₁.under.canary with hnone | ⟨tx, -, hown, -⟩
        · exact hnone
        · rw [hown.candidate] at hcandidate
          cases hcandidate
    | some candidate => exact safe_finishCandidate h₁ hdeployed hcandidate
  · rw [if_neg hroll]
    have hnone : v.canary = none := by
      have hclosed : ¬ w₁.canary.isSome = true := fun hsome => hroll (h₁.canary.mp hsome).1
      exact Option.not_isSome_iff_eq_none.mp hclosed
    have hsame : AddsOneReceipt w₀ v := .of_eq h₁.under.tokens (h₁.under.receipts trivial)
    refine safe_check.mpr ⟨(hmid hnone).crash id, ?_, fun _ _ => hmid hnone⟩
    refine ⟨⟨fun _ => hsame, fun _ _ => hnone⟩, hdeployed.congr rfl rfl, name, b, h₁.taken, .inr ?_⟩
    exact ⟨by simpa using hroll, h₁.under.receipts trivial⟩

/-! ## Deploying -/

/-- What an apply leaves when it reports. -/
structure Reported (fault : Faults) (w₀ : SlotState) (request : ApplyRequest) (w : SlotState)
    (report : ApplyReport) : Prop where
  left : Left fault w₀ w
  committed : report.code = 0 → report.rollback = none ∧ Committed fault w₀ request w
  rolledBack : ∀ ok, report.rollback = some ok → RollbackLeft fault w₀ w ok

lemma Reported.failed (h : Left fault w₀ w) :
    Reported fault w₀ request w { code := 1, rollback := none } :=
  ⟨h, nofun, nofun⟩

lemma RollbackLeft.reported {ok : Bool} (h : RollbackLeft fault w₀ w ok) :
    Reported fault w₀ request w { code := 1, rollback := some ok } := by
  refine ⟨h.left, nofun, ?_⟩
  rintro ok' ⟨⟩
  exact h

lemma safe_rollBackApply (h : Mid fault w₀ request name b w) (hof : b.Of w₀.files) :
    Safe ⟨Crash fault w₀ request, Outcome fault⟩ (fun w' r => Reported fault w₀ request w' r)
      (fun w' _ => Left fault w₀ w') w (rollBackApply request name) := by
  refine (safe_restoreAndVerifyBackup h hof).bind fun w₁ ok hleft => ?_
  refine safe_bind.mpr (safe_check.mpr ⟨?_, hleft.reported, fun _ _ => hleft.left⟩)
  exact ⟨hleft.left.receipts, fun hc _ => hleft.left.inStep hc, False.elim⟩

lemma safe_attempt {α : Type} {p : Run α} {pre : SlotState → Op → Prop}
    {Q : SlotState → Except Raised α → Prop} {E : SlotState → Raised → Prop} :
    Safe ⟨pre, Outcome fault⟩ Q E w (attempt p) ↔
      Safe ⟨pre, Outcome fault⟩ (fun w' a => Q w' (.ok a)) (fun w' e => Q w' (.error e)) w p := by
  unfold attempt
  rw [safe_tryCatch, safe_bind]
  rfl

lemma safe_quietly {p : Run Unit} {pre : SlotState → Op → Prop} {Q : SlotState → Unit → Prop}
    {E : SlotState → Raised → Prop} :
    Safe ⟨pre, Outcome fault⟩ Q E w (quietly p) ↔
      Safe ⟨pre, Outcome fault⟩ Q (fun w' _ => Q w' ()) w p := by
  unfold quietly
  rw [safe_tryCatch]
  rfl

/-- Writing guidance changes nothing here. -/
lemma safe_settleGuidance {pre : SlotState → Op → Prop} {E : SlotState → Raised → Prop}
    (hpre : pre w (.check .workspaceGuidance)) (n : Nat) :
    Safe ⟨pre, Outcome fault⟩ (fun w' _ => w' = w) E w (settleGuidance n) := by
  induction n with
  | zero => exact rfl
  | succ n ih =>
      refine safe_bind.mpr (safe_attempt.mpr (safe_check.mpr ⟨hpre, ih, fun _ _ => ?_⟩))
      exact rfl

lemma safe_failEarly (h : Left fault w₀ w) {E : SlotState → Raised → Prop} :
    Safe ⟨Crash fault w₀ request, Outcome fault⟩ (fun w' r => Reported fault w₀ request w' r) E w
      failEarly := by
  refine safe_bind.mpr (safe_quietly.mpr (safe_check.mpr ⟨?_, .failed h, fun _ _ => .failed h⟩))
  exact ⟨h.receipts, fun hc _ => h.inStep hc, False.elim⟩

/-- Deploying a compose file that was just written. -/
lemma safe_deploy (h : Deploying w₀ request name b w)
    (hcompose : (w.files .compose).map FileState.bytes = some request.desired.composeText) :
    Safe ⟨Crash fault w₀ request, Outcome fault⟩ (fun w' r => Reported fault w₀ request w' r)
      (fun w' _ => Left fault w₀ w') w (deploy request name) := by
  have hrollback : ∀ w', Deploying w₀ request name b w' →
      Safe ⟨Crash fault w₀ request, Outcome fault⟩ (fun w' r => Reported fault w₀ request w' r)
        (fun w' _ => Left fault w₀ w') w' (rollBackApply request name) := fun w' h' =>
    safe_rollBackApply h'.mid h'.taken
  have hfailed : ∀ command w', w.AfterFailedDocker command w' → Deploying w₀ request name b w' := by
    intro command w' hw'
    obtain ⟨c, rfl⟩ := hw'.upToContainers
    exact h.congr ⟨rfl, rfl, rfl, rfl, le_rfl, rfl⟩
  unfold deploy
  refine safe_bind.mpr (safe_docker.mpr ⟨h.crash _, ?_, fun _ w' hw' =>
    ⟨hrollback w' (hfailed _ _ hw'), fun _ => (hfailed _ _ hw').mid.left⟩⟩)
  simp only [SlotState.dockerAnswer, SlotState.afterDocker, Bool.not_true, Bool.false_eq_true,
    if_false]
  refine safe_bind.mpr (safe_docker.mpr ⟨h.crash _, ?_, fun _ w' hw' =>
    ⟨hrollback w' (hfailed _ _ hw'), fun _ => (hfailed _ _ hw').mid.left⟩⟩)
  simp only [SlotState.dockerAnswer, Bool.not_true, Bool.false_eq_true, if_false]
  have hw₁ : Deploying w₀ request name b (w.afterDocker .up) :=
    h.congr ⟨rfl, rfl, rfl, rfl, le_rfl, rfl⟩
  have hup : CandidateUp request (w.afterDocker .up) := ⟨hcompose, hcompose⟩
  generalize w.afterDocker .up = w₁ at hw₁ hup ⊢
  refine (safe_settleGuidance (hw₁.crash _) 1).bind ?_
  rintro _ (_ | _) rfl
  · exact hrollback _ hw₁
  refine safe_bind.mpr (safe_liveChecks.mpr ⟨hw₁.crash _, ?_, fun _ =>
    ⟨hrollback _ hw₁, fun _ => hw₁.mid.left⟩⟩)
  refine (safe_settleGuidance (hw₁.crash _) 4).bind ?_
  rintro _ (_ | _) rfl
  · exact hrollback _ hw₁
  refine safe_bind.mpr (safe_attempt.mpr ((safe_commitApply hw₁ hup).mono ?_ ?_))
  · intro w₂ _ hcommitted
    exact ⟨hcommitted.left, fun _ => ⟨rfl, hcommitted⟩, nofun⟩
  · intro w₂ e hmid
    refine (safe_restoreAndVerifyBackup hmid hw₁.taken).bind fun w₃ ok hleft => ?_
    refine safe_bind.mpr (safe_quietly.mpr (safe_check.mpr ⟨?_, hleft.reported, fun _ _ =>
      hleft.reported⟩))
    exact ⟨hleft.left.receipts, fun hc _ => hleft.left.inStep hc, False.elim⟩

/-! ## Before the compose file is replaced -/

/-- The states an apply is followed from. -/
structure Starts (fault : Faults) (w₀ : SlotState) (request : ApplyRequest) : Prop where
  canary : w₀.marker = none → w₀.canary = none ∨ OpensCanary w₀ request
  inStep : Careful fault → InStep w₀

lemma Left.near {w' : SlotState} (h : Left fault w₀ w) (hnear : w.Near w' name) :
    Left fault w₀ w' where
  receipts ht := by
    obtain ⟨htokens, own, hown, hlen, hall⟩ := h.receipts ht
    refine ⟨htokens.trans hnear.tokens, own, hnear.receipts.trans hown, hlen, fun r hr => ?_⟩
    exact ⟨(hall r hr).1, (hall r hr).2.trans_le hnear.tokens⟩
  inStep hc := (h.inStep hc).near hnear

omit [Host] in
lemma Left.afterFailedBackup {w' : SlotState} (h : Left fault w₀ w)
    (hafter : w.AfterFailedBackup w') : Left fault w₀ w' := by
  obtain ⟨n, taken, rfl⟩ := hafter
  exact ⟨h.receipts, h.inStep⟩

lemma Left.crash (h : Left fault w₀ w) {op : Op} (hop : ¬ op.WritesFile) :
    Crash fault w₀ request w op :=
  ⟨h.receipts, fun hc _ => h.inStep hc, fun hwrites => absurd hwrites hop⟩

omit [Host] in
lemma Starts.left (h : Starts fault w₀ request) : Left fault w₀ w₀ :=
  ⟨fun _ => .of_eq le_rfl rfl, h.inStep⟩

/-- The checks only look. -/
lemma safe_preflight {pre : SlotState → Op → Prop} (hpre : ∀ op, ¬ op.WritesFile → pre w op) :
    Safe ⟨pre, Outcome fault⟩ (fun w' r => w' = w ∧ r = w.hasManifest) (fun w' _ => w' = w) w
      (preflight request) := by
  have hcheck : ∀ c : Check, Safe ⟨pre, Outcome fault⟩ (fun w' _ => w' = w) (fun w' _ => w' = w) w
      c.run := fun c => safe_check.mpr ⟨hpre _ id, rfl, fun _ _ => rfl⟩
  have hfile : ∀ file, Safe ⟨pre, Outcome fault⟩ (fun w' r => w' = w ∧ r = w.files file)
      (fun w' _ => w' = w) w (Op.readFile file).run := fun file =>
    safe_readFile.mpr ⟨hpre _ id, ⟨rfl, rfl⟩, fun _ _ => rfl⟩
  unfold preflight
  refine (hcheck _).bind ?_
  rintro _ - rfl
  refine (hcheck _).bind ?_
  rintro _ - rfl
  refine (hcheck _).bind ?_
  rintro _ - rfl
  refine (hcheck _).bind ?_
  rintro _ - rfl
  refine (hfile .manifest).bind ?_
  rintro _ _ ⟨rfl, rfl⟩
  refine (hfile .stateManifest).bind ?_
  rintro w _ ⟨rfl, rfl⟩
  dsimp only
  split
  · exact rfl
  refine (hcheck _).bind ?_
  rintro _ - rfl
  refine (hcheck _).bind ?_
  rintro _ - rfl
  refine (hcheck _).bind ?_
  rintro _ - rfl
  exact ⟨rfl, rfl⟩

/-- The operations of a backup. -/
def Op.Archives : Op → Prop
  | .clock | .readFile _ | .readMarker | .listBackups | .copyToStaging _ => True
  | .effect .makeStaging | .effect (.publishBackup _ _) | .effect .removeStaging => True
  | _ => False

omit [Host] in
lemma Op.Archives.not_writesFile {op : Op} (h : op.Archives) : ¬ op.WritesFile := by
  cases op with
  | effect e =>
      cases e with
      | writeFile => exact h.elim
      | _ => exact id
  | _ => exact id

lemma Op.Archives.afterFailedBackup {op : Op} (hop : op.Archives) {r : Except Raised op.Res}
    {v w' : SlotState} (hv : w.AfterFailedBackup v) (h : Outcome fault v op r w') :
    w.AfterFailedBackup w' := by
  have heffect : ∀ e : Effect, (Op.effect e).Archives → w.AfterFailedBackup (e.apply v) := by
    obtain ⟨n, taken, rfl⟩ := hv
    intro e he
    cases e with
    | makeStaging => exact ⟨_, taken, rfl⟩
    | publishBackup name b => exact ⟨_, (name, b) :: taken, rfl⟩
    | removeStaging => exact ⟨_, taken, rfl⟩
    | _ => exact he.elim
  cases op with
  | effect e =>
      rcases h with ⟨-, rfl⟩ | ⟨-, ⟨-, rfl⟩ | ⟨-, rfl⟩⟩
      · exact heffect e hop
      · exact hv
      · exact heffect e hop
  | clock => obtain ⟨-, rfl⟩ := h; exact hv
  | readFile => obtain ⟨-, rfl⟩ := h; exact hv
  | readMarker => obtain ⟨-, rfl⟩ := h; exact hv
  | listBackups => obtain ⟨-, rfl⟩ := h; exact hv
  | copyToStaging => obtain ⟨-, rfl⟩ := h; exact hv
  | _ => exact hop.elim

lemma archives_backupAgentRuntimeState : AllOps Op.Archives backupAgentRuntimeState := by
  have hrun : ∀ {op : Op}, op.Archives → AllOps Op.Archives op.run := allOps_perform.mpr
  have hstage : ∀ had file, AllOps Op.Archives (stageFile had file) := by
    intro had file
    unfold stageFile
    split
    · exact allOps_bind (hrun trivial) fun _ => trivial
    · exact trivial
  have hsha : ∀ file, AllOps Op.Archives (sha256File file) := by
    rintro (_ | f)
    · exact trivial
    · simp only [sha256File]
      split
      · exact trivial
      · exact trivial
  have hbackup : ∀ createdAt compose manifest stateManifest env,
      AllOps Op.Archives (stageBackup createdAt compose manifest stateManifest env) := by
    intro createdAt compose manifest stateManifest env
    refine allOps_bind (hstage _ _) fun _ => allOps_bind (hstage _ _) fun _ => ?_
    refine allOps_bind (hstage _ _) fun _ => allOps_bind (hstage _ _) fun _ => ?_
    refine allOps_bind (hsha _) fun _ => allOps_bind (hsha _) fun _ => ?_
    refine allOps_bind (hsha _) fun _ => allOps_bind (hsha _) fun _ => trivial
  refine allOps_bind (allOps_bind (hrun trivial) fun _ => trivial) fun pending => ?_
  cases pending with
  | some => exact trivial
  | none =>
      refine allOps_bind (hrun trivial) fun _ => allOps_bind (hrun trivial) fun _ => ?_
      refine allOps_bind (hrun trivial) fun _ => allOps_bind (hrun trivial) fun _ => ?_
      refine allOps_bind (hrun trivial) fun _ => allOps_bind (hrun trivial) fun _ => ?_
      refine allOps_bind (hrun trivial) fun _ => allOps_bind (hrun trivial) fun _ => ?_
      refine allOps_bind (hrun trivial) fun _ => allOps_tryCatch ?_ fun _ => ?_
      · exact allOps_bind (hbackup _ _ _ _ _) fun _ => allOps_bind (hrun trivial) fun _ => trivial
      · exact allOps_bind (allOps_tryCatch (hrun trivial) fun _ => trivial) fun _ => trivial

/-- The backup at the start of a run. -/
lemma safe_backupAgentRuntimeState (h : Left fault w₀ w) :
    Safe ⟨Crash fault w₀ request, Outcome fault⟩
      (fun w' name => ∃ b, b.Of w.files ∧ w.marker = none ∧
        w' = { w with backups := (name, b) :: w.backups })
      (fun w' _ => Left fault w₀ w') w backupAgentRuntimeState := by
  have hkeeps : Safe ⟨fun v op => w.AfterFailedBackup v ∧ op.Archives, Outcome fault⟩
      (fun v _ => w.AfterFailedBackup v) (fun v _ => w.AfterFailedBackup v) w
      backupAgentRuntimeState :=
    safe_invariant archives_backupAgentRuntimeState
      (fun _ _ _ _ hop hv hr => hop.afterFailedBackup hv hr) (.refl w)
  refine Safe.mono (safe_mono_pre (safe_and hkeeps (spec_backupAgentRuntimeState w)) ?_) ?_ ?_
  · exact fun _ _ hv => (h.afterFailedBackup hv.1.1).crash hv.1.2.not_writesFile
  · exact fun _ _ hv => hv.2
  · exact fun _ _ hv => h.afterFailedBackup hv.2

/-- After the rollback transaction was begun, before a canary transaction is. -/
structure Marked (w₀ : SlotState) (name : BackupName) (b : Backup) (w : SlotState) : Prop where
  taken : b.Of w₀.files
  has : w.Has name b
  marker : ∃ m, w.marker = some m ∧ m.For name b
  tokens : w₀.tokens ≤ w.tokens
  receipts : w.receipts = w₀.receipts
  canary : w.canary = w₀.canary

lemma Marked.left (h : Marked w₀ name b w) : Left fault w₀ w := by
  refine ⟨fun _ => .of_eq h.tokens h.receipts, fun _ hnone => ?_⟩
  obtain ⟨m, hm, -⟩ := h.marker
  rw [hm] at hnone
  cases hnone

lemma safe_beginRollbackTransaction (hof : b.Of w₀.files)
    (hleft : Left fault w₀ { w₀ with backups := (name, b) :: w₀.backups })
    (hmarker : w₀.marker = none) :
    Safe ⟨Crash fault w₀ request, Outcome fault⟩ (fun w' _ => Marked w₀ name b w')
      (fun w' _ => Left fault w₀ w') { w₀ with backups := (name, b) :: w₀.backups }
      (beginRollbackTransaction name) := by
  set w₁ : SlotState := { w₀ with backups := (name, b) :: w₀.backups } with hw₁
  have hhas : w₁.Has name b := SlotState.has_of_cons hof.intact hof.restorable rfl
  have hboth := safe_and (@near_beginRollbackTransaction _ fault _ _ _ (.refl w₁ name))
    (spec_beginRollbackTransaction hhas (.inl hmarker))
  refine Safe.mono (safe_mono_pre hboth ?_) ?_ ?_
  · exact fun _ _ hv => (hleft.near hv.1.1).crash hv.1.2
  · rintro w' - ⟨hnear, m, t, hfor, ht, rfl⟩
    exact ⟨hof, ⟨hhas.lookup, hhas.intact, hhas.restorable⟩, ⟨m, rfl, hfor⟩, ht, rfl, rfl⟩
  · exact fun _ _ hv => hleft.near hv.1

/-- The rule for `begin`: three checks of its arguments, then the transaction file. -/
lemma safe_checked_begin {pre : SlotState → Op → Prop} {Q : SlotState → Unit → Prop}
    {E : SlotState → Raised → Prop} {slot family : List Char} {candidate prestate : ImagePair}
    {digest : Digest} (hfamilyE : E w .canaryFamily) (hdigestE : E w .digestForm)
    (hslotE : E w .canarySlot)
    (hnext : isCanaryFamily family = true →
      (candidate.canonical && prestate.canonical && isDigest digest) = true →
      isSafeSlot slot = true →
      Safe ⟨pre, Outcome fault⟩ Q E w
        (do
          match ← Op.readCanary.run with
          | some _ => throw .canaryExists
          | none =>
            let createdAt ← Op.clock.run
            let transactionId ← Op.token.run
            (Effect.writeCanary
              { backupMetadataDigest := digest, backupName := name, candidate := candidate,
                createdAt := createdAt, family := family, prestate := prestate, slot := slot,
                transactionId := transactionId }).run)) :
    Safe ⟨pre, Outcome fault⟩ Q E w (Canary.begin slot family candidate prestate name digest) := by
  unfold Canary.begin
  by_cases hfamily : isCanaryFamily family = true
  swap
  · simp only [hfamily]
    exact hfamilyE
  by_cases hdigests : (candidate.canonical && prestate.canonical && isDigest digest) = true
  swap
  · simp only [hfamily, hdigests]
    exact hdigestE
  by_cases hslot : isSafeSlot slot = true
  swap
  · simp only [hfamily, hdigests, hslot]
    exact hslotE
  simp only [hfamily, hdigests, hslot, Bool.not_true, Bool.false_eq_true, if_false]
  exact hnext hfamily hdigests hslot

/-- `begin` with the run's candidate and the images of its backup. -/
lemma safe_begin (h : Marked w₀ name b w) (hopens : OpensCanary w₀ request) {c : Contract}
    {candidate prestate : ImagePair} {digest : Digest}
    (hcandidate : request.desired.candidate? = some candidate) (hc : Host.contract b = .ok c)
    (hprestate : ImagePair.ofImages? c.productImage c.wrapperImage = some prestate) :
    Safe ⟨Crash fault w₀ request, Outcome fault⟩ (fun w' _ => Deploying w₀ request name b w')
      (fun w' _ => Left fault w₀ w') w
      (Canary.begin request.desired.slot request.desired.family candidate prestate name digest) := by
  have hleft : Left fault w₀ w := h.left
  refine safe_checked_begin hleft hleft hleft fun hfamily hdigests hslot => ?_
  refine safe_bind.mpr (safe_readCanary.mpr ⟨hleft.crash id, ?_, fun _ _ => hleft⟩)
  cases hopen : w.canary with
  | some => exact hleft
  | none =>
      refine safe_bind.mpr (safe_clock.mpr ⟨hleft.crash id, fun createdAt => ?_⟩)
      refine safe_bind.mpr (safe_token.mpr ⟨hleft.crash id, ?_⟩)
      have hdrawn : Left fault w₀ { w with tokens := w.tokens + 1 } :=
        @Left.near _ fault w₀ name w _ hleft ⟨rfl, rfl, rfl, rfl, Nat.le_succ _, .inl rfl⟩
      set tx : CanaryTransaction :=
        { backupMetadataDigest := digest, backupName := name, candidate := candidate,
          createdAt := createdAt, family := request.desired.family, prestate := prestate,
          slot := request.desired.slot, transactionId := w.tokens } with htx
      have hwell : tx.wellFormed = true := by
        simp only [Bool.and_eq_true] at hdigests
        simp only [htx, CanaryTransaction.wellFormed, hslot, hfamily, hdigests, Bool.and_true]
      have hown : Own w₀ request name b tx :=
        ⟨h.tokens, hwell, rfl, rfl, hcandidate, c, hc, hprestate⟩
      have hdeploying : Deploying w₀ request name b
          { w with tokens := w.tokens + 1, canary := some tx } := by
        refine ⟨h.taken, ⟨⟨h.has.lookup, h.has.intact, h.has.restorable⟩, .inr h.marker, ?_,
          fun _ => h.receipts, .inr ⟨tx, rfl, hown, Nat.lt_succ_self _⟩⟩, h.marker, ?_, ?_⟩
        · exact h.tokens.trans (Nat.le_succ _)
        · exact h.canary.symm.trans hopen
        · exact ⟨fun _ => hopens, fun _ => rfl⟩
      refine safe_effect.mpr ⟨hdrawn.crash id, hdeploying, fun _ _ => hdrawn, fun _ _ => ?_⟩
      exact hdeploying.mid.left

/-- Opening the canary transaction of the run. -/
lemma safe_beginCanary (h : Marked w₀ name b w) (hopens : OpensCanary w₀ request) :
    Safe ⟨Crash fault w₀ request, Outcome fault⟩ (fun w' _ => Deploying w₀ request name b w')
      (fun w' _ => Left fault w₀ w') w (beginCanary request.desired name) := by
  obtain ⟨m, hm, hfor⟩ := h.marker
  have hleft : Left fault w₀ w := h.left
  have hload := h.has.loadMarker hm hfor
  unfold beginCanary
  refine safe_bind.mpr (safe_readContract.mpr ⟨hleft.crash id, fun c hc => ?_, fun _ _ => hleft,
    fun _ _ => hleft⟩)
  rw [h.has.loadContract] at hc
  refine safe_bind.mpr (safe_bind.mpr (safe_readMarker.mpr ⟨hleft.crash id, ?_, fun _ _ => hleft,
    fun _ _ => hleft⟩))
  intro found hfound
  rw [hload] at hfound
  cases hfound
  simp only [Option.map_some, safe_pure]
  cases hcandidate : request.desired.candidate? with
  | none => exact hleft
  | some candidate =>
      cases hprestate : ImagePair.ofImages? c.productImage c.wrapperImage with
      | none => exact hleft
      | some prestate =>
          have hbegin := @safe_begin _ fault _ _ _ _ _ h hopens _ _ _
            (Host.metadataDigest b.metadata) hcandidate hc hprestate
          simpa only [Marker.identity, hfor.name, hfor.digest] using hbegin

/-- Opening the transactions of the run. -/
lemma safe_openTransactions (hstart : Starts fault w₀ request) (hof : b.Of w₀.files)
    (hmarker : w₀.marker = none) :
    Safe ⟨Crash fault w₀ request, Outcome fault⟩ (fun w' _ => Deploying w₀ request name b w')
      (fun w' _ => Left fault w₀ w') { w₀ with backups := (name, b) :: w₀.backups }
      (openTransactions request w₀.hasManifest name) := by
  have hleft : Left fault w₀ { w₀ with backups := (name, b) :: w₀.backups } :=
    hstart.left.afterFailedBackup ⟨w₀.stagings, [(name, b)], rfl⟩
  refine (safe_beginRollbackTransaction hof hleft hmarker).bind fun w₁ _ h => ?_
  by_cases hopens : OpensCanary w₀ request
  · have hboth : (isImageRollout request.actionName && w₀.hasManifest) = true := by
      rw [hopens.1, hopens.2]
      rfl
    rw [if_pos hboth]
    exact safe_beginCanary h hopens
  · have hnot : ¬ (isImageRollout request.actionName && w₀.hasManifest) = true := by
      rw [Bool.and_eq_true]
      exact hopens
    have hclosed : w₀.canary = none := (hstart.canary hmarker).resolve_right hopens
    have hnone : w₁.canary = none := h.canary.trans hclosed
    rw [if_neg hnot]
    refine ⟨h.taken, ⟨h.has, .inr h.marker, h.tokens, fun _ => h.receipts, .inl hnone⟩, h.marker,
      hclosed, ?_⟩
    rw [hnone]
    exact ⟨nofun, fun hyes => absurd hyes hopens⟩

/-- Writing the compose file. -/
lemma safe_writeCompose (h : Deploying w₀ request name b w) :
    Safe ⟨Crash fault w₀ request, Outcome fault⟩
      (fun w' _ => Deploying w₀ request name b w' ∧
        (w'.files .compose).map FileState.bytes = some request.desired.composeText)
      (fun w' _ => Deploying w₀ request name b w') w (writeCompose request) := by
  have hrest : ∀ w', Deploying w₀ request name b w' →
      Safe ⟨Crash fault w₀ request, Outcome fault⟩
        (fun w' _ => Deploying w₀ request name b w' ∧
          (w'.files .compose).map FileState.bytes = some request.desired.composeText)
        (fun w' _ => Deploying w₀ request name b w') w'
        (do
          Check.requiredEnvKeys.run
          (Effect.writeFile .compose request.desired.composeText 0o644).run) := by
    intro w' h'
    have hwritten := h'.congr (w'.sameTransactions_setFile .compose
      (some { bytes := request.desired.composeText, mode := 0o644, uid := 0, gid := 0 }))
    refine safe_bind.mpr (safe_check.mpr ⟨h'.crash _, ?_, fun _ _ => h'⟩)
    exact safe_effect.mpr ⟨h'.crash _, ⟨hwritten, rfl⟩, fun _ _ => h', fun _ _ => hwritten⟩
  have henv : ∀ content, Deploying w₀ request name b (w.setFile .env content) := fun content =>
    h.congr (w.sameTransactions_setFile .env content)
  unfold writeCompose
  split
  · refine safe_bind.mpr (safe_prepareRuntimeEnv.mpr ⟨h.crash _, fun content => ?_⟩)
    exact ⟨hrest _ (henv content), fun _ _ => henv content⟩
  · exact hrest w h

lemma safe_undoEnv (h : Mid fault w₀ request name b w) :
    Safe ⟨Crash fault w₀ request, Outcome fault⟩ (fun w' _ => Mid fault w₀ request name b w')
      (fun w' _ => Mid fault w₀ request name b w') w (undoEnv request name) := by
  unfold undoEnv
  split
  · rw [safe_quietly]
    exact h.quiet (allOps_bind (quiet_run trivial) quiet_restoreBackupEnv)
  · exact h

/-! ## The whole run -/

lemma safe_applyDesiredSlotLocked (hstart : Starts fault w₀ request) :
    Safe ⟨Crash fault w₀ request, Outcome fault⟩ (fun w' r => Reported fault w₀ request w' r)
      (fun w' _ => Left fault w₀ w') w₀ (applyDesiredSlotLocked request) := by
  have hleft := hstart.left
  unfold applyDesiredSlotLocked
  refine safe_bind.mpr (safe_attempt.mpr ((safe_preflight fun _ hop => hleft.crash hop).mono ?_ ?_))
  swap
  · rintro _ e rfl
    exact safe_failEarly hleft
  rintro _ hasManifest ⟨rfl, rfl⟩
  refine safe_bind.mpr (safe_attempt.mpr ((safe_backupAgentRuntimeState hleft).mono ?_ ?_))
  swap
  · exact fun _ _ h => safe_failEarly h
  rintro _ name ⟨b, hof, hmarker, rfl⟩
  refine safe_bind.mpr (safe_attempt.mpr ((safe_openTransactions hstart hof hmarker).mono ?_ ?_))
  swap
  · exact fun _ _ h => safe_failEarly h
  intro w₁ _ h₁
  refine safe_bind.mpr (safe_attempt.mpr ((safe_writeCompose h₁).mono ?_ ?_))
  · rintro w₂ - ⟨h₂, hcompose⟩
    exact safe_deploy h₂ hcompose
  · intro w₂ e h₂
    refine safe_bind.mpr ((safe_undoEnv h₂.mid).mono ?_ ?_)
    · exact fun _ _ h => safe_failEarly h.left
    · exact fun _ _ h => h.left

/-- The operations that change nothing. -/
def Op.Looks : Op → Prop
  | .check _ | .clock | .readFile _ | .readMarker | .readBackup _ | .listBackups | .readContract _
  | .readCanary => True
  | _ => False

lemma Op.Looks.unchanged {op : Op} (hop : op.Looks) {r : Except Raised op.Res} {w' : SlotState}
    (h : Outcome fault w op r w') : w' = w := by
  cases op with
  | check => exact h.1
  | clock => exact h.2
  | readFile => exact h.2
  | readMarker => exact h.2
  | readBackup => exact h.2
  | listBackups => exact h.2
  | readContract => exact h.2
  | readCanary => exact h.2
  | _ => exact hop.elim

omit [Host] in
lemma Op.Looks.not_writesFile {op : Op} (h : op.Looks) : ¬ op.WritesFile := by
  cases op with
  | effect => exact h.elim
  | _ => exact id

/-- A program that only looks leaves the slot as it is. -/
lemma safe_of_looks {α : Type} {p : Run α} {pre : SlotState → Op → Prop} (hp : AllOps Op.Looks p)
    (hpre : ∀ op, ¬ op.WritesFile → pre w op) :
    Safe ⟨pre, Outcome fault⟩ (fun w' _ => w' = w) (fun w' _ => w' = w) w p := by
  refine safe_mono_pre (safe_invariant hp (fun v op r w' hop hv hr => ?_) rfl) ?_
  · exact (hop.unchanged hr).trans hv
  · rintro _ op ⟨rfl, hop⟩
    exact hpre op hop.not_writesFile

omit [Host] in
lemma looks_admit (admission : Admission) : AllOps Op.Looks admission.admit := by
  have hrun : ∀ {op : Op}, op.Looks → AllOps Op.Looks op.run := allOps_perform.mpr
  cases admission with
  | none => exact trivial
  | promotion =>
      refine allOps_bind (hrun trivial) fun _ => allOps_bind (hrun trivial) fun manifest => ?_
      refine allOps_bind (hrun trivial) fun stateManifest => ?_
      have hpending : AllOps Op.Looks pendingRollbackBackup :=
        allOps_bind (hrun trivial) fun _ => trivial
      dsimp only
      split
      · exact trivial
      · refine allOps_bind hpending fun pending => ?_
        cases pending with
        | some => exact trivial
        | none => exact hrun trivial

/-- What an apply keeps wherever it is cut off, and what it leaves; it never raises. -/
theorem safe_applyDesiredSlot (hstart : Starts fault w₀ request) :
    Safe ⟨Crash fault w₀ request, Outcome fault⟩ (fun w' r => Reported fault w₀ request w' r)
      (fun _ _ => False) w₀ (applyDesiredSlot request) := by
  have hleft := hstart.left
  unfold applyDesiredSlot
  rw [safe_tryCatch]
  refine safe_bind.mpr (safe_check.mpr ⟨hleft.crash id, ?_, fun _ _ => safe_failEarly hleft⟩)
  refine safe_bind.mpr ((safe_of_looks ( looks_admit request.preApplyAdmission)
    fun _ hop => hleft.crash hop).mono ?_ ?_)
  · rintro _ - rfl
    exact (safe_applyDesiredSlotLocked hstart).mono (fun _ _ h => h) fun _ _ h => safe_failEarly h
  · rintro _ e rfl
    exact safe_failEarly hleft

end AgentRuntimeOps.Runtime
