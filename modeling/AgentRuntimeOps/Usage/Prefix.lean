import AgentRuntimeOps.Lib.Ascending
import AgentRuntimeOps.Lib.Concurrent
import AgentRuntimeOps.Usage.Sticky

/-!
# The central ledger under an honest producer

A product keeps a ledger that only grows (`Producer`), and exports from it the first receipts above
a cursor.  Any number of collectors of its instance run at the same time, are cut off, and fail.

`central_ledger_prefix` says that the rows of the instance are at every moment the product's
receipts up to the cursor, and that a call that returns `ok` leaves the cursor at the high watermark
it reports.  The first part rests on the comparison of the cursor under its row lock alone; the
second one also on the named lock, which keeps other collectors out until the connection is closed.
-/

set_option linter.unusedSectionVars false

namespace AgentRuntimeOps.Usage

open AgentRuntimeOps.Lib Program

section ledger

variable [PythonText]

/-! ## The producer -/

/-- An honest ledger: valid receipts, in ascending order, of distinct calls. -/
structure Producer (ledger : List Json) : Prop where
  valid : ∀ receipt ∈ ledger, validateCallReceipt receipt = .ok ()
  ascending : (ledger.map ledgerSeq).Pairwise (· < ·)
  distinct : (ledger.map callId).Nodup

/-- The last sequence of a ledger. -/
def highWatermark (ledger : List Json) : Int := lastKey ledgerSeq 0 ledger

/-- The receipts up to a sequence. -/
def receiptsUpTo (ledger : List Json) (seq : Int) : List Json :=
  ledger.filter fun receipt => ledgerSeq receipt ≤ seq

/-- The receipts above a sequence. -/
def receiptsAbove (ledger : List Json) (seq : Int) : List Json :=
  ledger.filter fun receipt => seq < ledgerSeq receipt

/-- The page was exported from this ledger. -/
structure ExportedFrom (ledger : List Json) (page : ValidatedExport) : Prop where
  receipts : ∃ n, page.receipts = (receiptsAbove ledger page.after).take n
  high : page.highWatermark = highWatermark ledger

/-- The rows of the instance are the receipts up to its cursor, which is one of theirs, and it has
no conflict. -/
structure IsPrefix (instanceId : String) (ledger : List Json) (db : Db) : Prop where
  rows : (db.callsOf instanceId).map CallRow.receipt =
    receiptsUpTo ledger (db.lastSeq instanceId)
  reached : db.lastSeq instanceId = 0 ∨
    ∃ receipt ∈ ledger, ledgerSeq receipt = db.lastSeq instanceId
  conflicts : ∀ row ∈ db.conflicts, row.instanceId ≠ instanceId

variable {ledger more : List Json} {stamp : Stamp} {coverage : ValidatedCoverage}
  {page : ValidatedExport} {db db' : Db} {instanceId : String}

lemma one_le_of_valid {receipt : Json} (h : validateCallReceipt receipt = .ok ()) :
    1 ≤ ledgerSeq receipt := by
  simp only [validateCallReceipt, except_bind_ok] at h
  obtain ⟨_, -, _, -, _, hseq, -⟩ := h
  obtain ⟨seq, hseq, -⟩ := except_bind_ok.mp hseq
  obtain ⟨hfield, hle⟩ := integer_ok.mp hseq
  unfold ledgerSeq intField
  rw [hfield]
  exact hle

/-- Nothing is at most 0. -/
lemma Producer.receiptsUpTo_zero (h : Producer ledger) : receiptsUpTo ledger 0 = [] := by
  unfold receiptsUpTo
  rw [List.filter_eq_nil_iff]
  intro receipt hreceipt
  have hone := one_le_of_valid (h.valid receipt hreceipt)
  simp only [decide_eq_true_eq]
  omega

/-- A page from an earlier ledger continues the receipts up to its cursor. -/
lemma Producer.continues (h : Producer ledger) {seen : List Json} (hseen : seen <+: ledger)
    (hpage : ExportedFrom seen page) (haccepted : Accepted page) :
    receiptsUpTo ledger page.after ++ page.receipts = receiptsUpTo ledger page.nextCursor := by
  obtain ⟨n, hreceipts⟩ := hpage.receipts
  obtain ⟨m, htake⟩ := take_filter_of_prefix
    (fun receipt => decide (page.after < ledgerSeq receipt)) hseen n
  have hpart : page.receipts = (receiptsAbove ledger page.after).take m := hreceipts.trans htake
  have hnext : page.nextCursor = lastKey ledgerSeq page.after page.receipts := haccepted.next
  rw [hnext, hpart]
  exact filter_le_append_take h.ascending page.after m

/-! ## One page -/

lemma callsOf_append (row : CallRow) (db : Db) (hrow : row.instanceId = instanceId) :
    Db.callsOf { db with calls := db.calls ++ [row] } instanceId =
      db.callsOf instanceId ++ [row] := by
  unfold Db.callsOf
  rw [List.filter_append]
  simp [hrow]

/-- Receipts of new calls are all inserted. -/
lemma Inserts.rows_of_distinct {receipts : List Json} {known : List Json}
    (h : Inserts stamp page receipts db db')
    (hknown : (db.callsOf stamp.instanceId).map CallRow.receipt = known)
    (hdistinct : ((known ++ receipts).map callId).Nodup) :
    (db'.callsOf stamp.instanceId).map CallRow.receipt = known ++ receipts := by
  induction h generalizing known with
  | nil => rw [hknown, List.append_nil]
  | @insert receipt receipts coverage db mid db' _ _ hinserted _ ih =>
      obtain ⟨-, startedAt, completedAt, assignment, collectedAt, rfl⟩ := hinserted
      have hrow : (newCall stamp coverage receipt startedAt completedAt assignment
        collectedAt).instanceId = stamp.instanceId := rfl
      have hnext := @ih (known ++ [receipt]) ?_ ?_
      · rw [hnext, List.append_assoc, List.singleton_append]
      · rw [callsOf_append _ _ hrow, List.map_append, hknown]
        rfl
      · rw [List.append_assoc, List.singleton_append]
        exact hdistinct
  | @replay receipt receipts db db' row hrow hinstance hcall _ ih =>
      -- the call is known already, but the calls are distinct
      have hmem : row.receipt ∈ known := by
        rw [← hknown]
        refine List.mem_map_of_mem (List.mem_filter.mpr ⟨hrow, ?_⟩)
        simpa using hinstance
      rw [List.map_append, List.nodup_append] at hdistinct
      exact absurd hcall (hdistinct.2.2 _ (List.mem_map_of_mem hmem) _ (by simp))

/-- A receipt of a new call with a new sequence is fresh. -/
lemma fresh_of_distinct {receipt : Json} {known : List Json}
    (hknown : (db.callsOf stamp.instanceId).map CallRow.receipt = known)
    (hcall : ∀ other ∈ known, callId other ≠ callId receipt)
    (hseq : ∀ other ∈ known, ledgerSeq other ≠ ledgerSeq receipt) :
    Fresh stamp receipt db.calls := by
  have hmem : ∀ row ∈ db.calls, row.instanceId = stamp.instanceId → row.receipt ∈ known := by
    intro row hrow hinstance
    rw [← hknown]
    refine List.mem_map_of_mem (List.mem_filter.mpr ⟨hrow, ?_⟩)
    simpa using hinstance
  refine ⟨fun row hrow hinstance => ?_, fun row hrow hinstance _ => ?_⟩
  · exact hcall _ (hmem row hrow hinstance)
  · exact hseq _ (hmem row hrow hinstance)

lemma callsOf_of_calls (h : db'.calls = db.calls) :
    db'.callsOf instanceId = db.callsOf instanceId := by
  unfold Db.callsOf
  rw [h]

/-- The cursor is the one under the lock. -/
lemma PageStart.lastSeq_eq (h : PageStart stamp page db db') :
    db'.lastSeq stamp.instanceId = page.after := by
  obtain ⟨row, hrow, -, hafter⟩ := h.cursor
  unfold Db.lastSeq
  rw [hrow]
  exact hafter

/-- What an honest page does: it fails, or the rows are those up to the next cursor. -/
theorem IsPrefix.keeps_page {result : Except Raised Stored} {seen : List Json}
    (h : IsPrefix stamp.instanceId ledger db) (hproducer : Producer ledger)
    (hseen : seen <+: ledger) (hpage : ExportedFrom seen page) (haccepted : Accepted page)
    (heffect : PageEffect stamp coverage page db result db') :
    IsPrefix stamp.instanceId ledger db' ∧
      ∀ stored, result = .ok stored → db'.lastSeq stamp.instanceId = page.nextCursor := by
  have hcontinues := hproducer.continues hseen hpage haccepted
  have hsub : (receiptsUpTo ledger page.after ++ page.receipts).Sublist ledger := by
    rw [hcontinues]
    exact List.filter_sublist
  have hcalls : ((receiptsUpTo ledger page.after ++ page.receipts).map callId).Nodup :=
    hproducer.distinct.sublist (hsub.map callId)
  have hseqs : ((receiptsUpTo ledger page.after ++ page.receipts).map ledgerSeq).Nodup :=
    (hproducer.ascending.sublist (hsub.map ledgerSeq)).imp ne_of_lt
  have hknown : ∀ {start : Db}, PageStart stamp page db start →
      (start.callsOf stamp.instanceId).map CallRow.receipt = receiptsUpTo ledger page.after := by
    intro start hstart
    rw [callsOf_of_calls hstart.calls, h.rows, ← hstart.lastSeq, hstart.lastSeq_eq]
  cases heffect with
  | failed => exact ⟨h, nofun⟩
  | @stopped e start mid db' front rest receipt he hstart hreceipts hinserts hfresh hconflict =>
      -- the receipt that is said to conflict is new
      rw [hreceipts, ← List.append_assoc] at hcalls hseqs
      have hmid := hinserts.rows_of_distinct (hknown hstart)
        (hcalls.sublist ((List.sublist_append_left _ _).map callId))
      refine absurd (fresh_of_distinct hmid ?_ ?_) hfresh
      · intro other hother
        rw [List.map_append, List.nodup_append] at hcalls
        exact hcalls.2.2 _ (List.mem_map_of_mem hother) _ (by simp)
      · intro other hother
        rw [List.map_append, List.nodup_append] at hseqs
        exact hseqs.2.2 _ (List.mem_map_of_mem hother) _ (by simp)
  | @advanced stored start filled moment hstart hinserts =>
      have hfilled := hinserts.rows_of_distinct (hknown hstart) hcalls
      have hnext : (filled.updateCursor stamp.instanceId
          (advancedCursor stamp coverage page moment)
          (advancedCursor_instanceId stamp coverage page moment)).lastSeq stamp.instanceId =
            page.nextCursor := by
        obtain ⟨row, hrow, -⟩ := hstart.cursor
        obtain ⟨rows, rfl⟩ := hinserts.appends
        have hkey : row.instanceId = stamp.instanceId := Table.key_of_find? hrow
        rw [lastSeq_updateCursor]
        change ((start.cursors.find? stamp.instanceId).map _).getD 0 = _
        rw [hrow, Option.map_some, if_pos hkey]
        rfl
      refine ⟨⟨?_, ?_, ?_⟩, fun _ _ => hnext⟩
      · rw [hnext, ← hcontinues, ← hfilled]
        rfl
      · rw [hnext, haccepted.next, expectedNext]
        cases hlast : (page.receipts.map ledgerSeq).getLast? with
        | none =>
            rw [Option.getD_none, ← hstart.lastSeq_eq, hstart.lastSeq]
            exact h.reached
        | some last =>
            obtain ⟨receipt, hreceipt, rfl⟩ := List.mem_map.mp (List.mem_of_getLast? hlast)
            exact .inr ⟨receipt, hsub.subset (List.mem_append_right _ hreceipt), rfl⟩
      · obtain ⟨rows, rfl⟩ := hinserts.appends
        intro row hrow
        refine h.conflicts row ?_
        rw [← hstart.conflicts]
        exact hrow

end ledger

/-! ## The collectors of an instance -/

/-- The tables, the collector that holds the named lock, and the product's ledger. -/
structure Central where
  db : Db
  lock : Option Nat
  ledger : List Json

/-- The connection of a collector is closed or lost: MySQL gives its lock back. -/
def Central.released (k : Nat) (w : Central) : Central :=
  { w with lock := w.lock.filter (· ≠ k) }

/-- A statement that raises may have lost the connection. -/
def afterStatement {α : Type} (k : Nat) (r : Except Raised α) (w w' : Central) : Prop :=
  w' = w ∨ (∃ e, r = .error e) ∧ w' = w.released k

section collectors

variable [PythonText] [PythonOutput]

/-- An answer of the product: a failure, or the first receipts above the cursor. -/
def HonestExport (ledger : List Json) (after limit : Int) (proc : Proc) : Prop :=
  proc.returncode = 0 → ∃ payload,
    PythonOutput.loads (PythonOutput.strip proc.stdout) = .value payload ∧
    payload.field "receipts" = .arr ((receiptsAbove ledger after).take limit.toNat) ∧
    payload.field "highWatermark" = .int (highWatermark ledger)

/-- How the world answers a collector.  The cursor may be read from an old snapshot, so that
nothing is said of it. -/
def centralAnswers (k : Nat) : Answers CollectOp CollectOp.Res Raised Central
  | w, .listTables, r, w' => afterStatement k r w w'
  | w, .getLock _, r, w' =>
      (r = .ok true ∧ (∀ holder ∈ w.lock, holder = k) ∧ w' = { w with lock := some k }) ∨
        r ≠ .ok true ∧ afterStatement k r w w'
  | w, .readCursor _, r, w' => afterStatement k r w w'
  | w, .runExport _ _ after limit, r, w' =>
      w' = w ∧ ∀ proc, r = .ok proc → HonestExport w.ledger after limit proc
  | w, .store stamp coverage page, r, w' =>
      ∃ faults db', storeExportPage faults stamp coverage page w.db = (r, db') ∧
        afterStatement k r { w with db := db' } w'
  | w, .recordFailure stamp code detail, r, w' =>
      ∃ faults db', recordCollectionFailure faults stamp code detail w.db = (r, db') ∧
        afterStatement k r { w with db := db' } w'
  | w, .close, _, w' => w' = w.released k
  | w, _, _, w' => w' = w

/-- Nothing of the instance is changed. -/
structure SameFor (instanceId : String) (db db' : Db) : Prop where
  calls : db'.callsOf instanceId = db.callsOf instanceId
  cursor : db'.cursors.find? instanceId = db.cursors.find? instanceId
  conflicts : ∀ row ∈ db'.conflicts, row.instanceId = instanceId → row ∈ db.conflicts

/-- The collectors of an instance, its product, and those who change other rows. -/
def collectors (instanceId : String) :
    Processes CollectOp CollectOp.Res Raised Collected Central Nat where
  resp := centralAnswers
  surroundings w w' :=
    (∃ more, Producer (w.ledger ++ more) ∧ w' = { w with ledger := w.ledger ++ more }) ∨
      ∃ db', SameFor instanceId w.db db' ∧ w' = { w with db := db' }
  started _ p := ∃ binding limit maxPages, RuntimeBinding.instanceId binding = instanceId ∧
    p = collectTarget binding limit maxPages
  cutOff := Central.released

/-! ## What a collector knows -/

/-- How far a collector is. -/
inductive Phase where
  | outside
  | holding
  | fetched (page : ValidatedExport)
  | stored (cursor : Int)
  | closed (cursor : Int)

namespace Phase

/-- The collector has the lock. -/
def holds : Phase → Bool
  | holding => true
  | fetched _ => true
  | stored _ => true
  | _ => false

/-- The connection is open, or not yet opened. -/
def isOpen : Phase → Bool
  | closed _ => false
  | _ => true

/-- What an exported text leaves. -/
def afterExport (family : String) (after : Int) : Except Raised Proc → Phase
  | .error _ => holding
  | .ok proc =>
      match parseExportStdout proc.stdout after family with
      | .ok page => if proc.returncode = 0 then fetched page else holding
      | .error _ => holding

/-- What the answers leave. -/
def next (phase : Phase) : (op : CollectOp) → Except Raised op.Res → Phase
  | .connect, _ => outside
  | .listTables, .error _ => outside
  | .getLock _, .ok true => holding
  | .getLock _, _ => outside
  | .readCursor _, .error _ => outside
  | .runExport _ family after _, r => if phase.holds then afterExport family after r else outside
  | .store _ _ page, .ok _ => if phase.holds then stored page.nextCursor else outside
  | .store .., .error _ => outside
  | .recordFailure .., .error _ => outside
  | .close, _ =>
      match phase with
      | stored cursor => closed cursor
      | _ => outside
  | _, _ => if phase.isOpen then phase else outside

/-- What is true of the world in a phase. -/
def Knows (instanceId : String) (k : Nat) (w : Central) : Phase → Prop
  | outside => True
  | holding => w.lock = some k
  | fetched page => w.lock = some k ∧ Accepted page ∧
      ∃ seen, seen <+: w.ledger ∧ ExportedFrom seen page
  | stored cursor => w.lock = some k ∧ w.db.lastSeq instanceId = cursor
  | closed _ => True

end Phase

/-- The proof of a collector: it stores only what it fetched, for its own instance. -/
def collectorProof (instanceId : String) :
    GhostProof CollectOp CollectOp.Res Raised Collected Central Nat Phase where
  inv w := Producer w.ledger ∧ IsPrefix instanceId w.ledger w.db
  knows k phase w := phase.Knows instanceId k w
  rules :=
    { pre := fun phase op => match op with
        | .store stamp _ page => stamp.instanceId = instanceId ∧ phase = .fetched page
        | _ => True
      resp := fun phase op r phase' => phase' = phase.next op r }
  post phase collected := ∀ pages inserted idempotent cursor high status digest,
    collected = .ok pages inserted idempotent cursor high status digest → phase = .closed high

/-! ## A collector keeps the rules -/

section keeps

variable {α β : Type} {instanceId : String} {phase : Phase} {binding : RuntimeBinding}

/-- The operations that change no phase. -/
def CollectOp.isNeutral : CollectOp → Bool
  | .now | .loadBindings | .findContainer _ | .liveTruth _ | .runCoverage .. => true
  | _ => false

/-- The program keeps the rules from this phase, and returns with `Q`. -/
def Follows (instanceId : String) (phase : Phase) (Q : Phase → α → Prop) (p : Collector α) : Prop :=
  Safe (collectorProof instanceId).rules Q (fun _ _ => True) phase p

variable {Q : Phase → α → Prop} {Q' : Phase → β → Prop} {p : Collector α}

lemma follows_bind {f : α → Collector β} (hp : Follows instanceId phase Q p)
    (hf : ∀ phase' a, Q phase' a → Follows instanceId phase' Q' (f a)) :
    Follows instanceId phase Q' (p >>= f) :=
  safe_bind.mpr (hp.mono hf fun _ _ h => h)

lemma follows_pure {a : α} (h : Q phase a) : Follows instanceId phase Q (pure a) := h

lemma follows_pass {x : Except Raised α} (h : ∀ a, x = .ok a → Q phase a) :
    Follows instanceId phase Q (pass x) :=
  safe_ofExcept.mpr ⟨h, fun _ _ => trivial⟩

/-- A check, and what follows it. -/
lemma follows_pass_bind {x : Except Raised β} {f : β → Collector α}
    (h : ∀ b, x = .ok b → Follows instanceId phase Q (f b)) :
    Follows instanceId phase Q (pass x >>= f) := by
  refine follows_bind (Q := fun phase' b => phase' = phase ∧ x = .ok b)
    (follows_pass fun _ hb => ⟨rfl, hb⟩) ?_
  rintro _ b ⟨rfl, hb⟩
  exact h b hb

lemma follows_ask {op : CollectOp} {Q : Phase → op.Res → Prop}
    (hpre : (collectorProof instanceId).rules.pre phase op)
    (h : ∀ a, Q (phase.next op (.ok a)) a) : Follows instanceId phase Q (ask op) := by
  refine safe_perform.mpr ⟨hpre, ?_, fun _ _ _ => trivial⟩
  rintro a _ rfl
  exact h a

lemma next_of_isNeutral {op : CollectOp} (hop : op.isNeutral = true)
    (hopen : phase.isOpen = true) (r : Except Raised op.Res) : phase.next op r = phase := by
  cases op with
  | now => exact if_pos hopen
  | loadBindings => exact if_pos hopen
  | findContainer => exact if_pos hopen
  | liveTruth => exact if_pos hopen
  | runCoverage => exact if_pos hopen
  | _ => cases hop

lemma isOpen_of_holds (h : phase.holds = true) : phase.isOpen = true := by
  cases phase with
  | closed => cases h
  | _ => rfl

/-- A neutral operation, and what follows it. -/
lemma follows_ask_bind {op : CollectOp} {f : op.Res → Collector α} (hopen : phase.isOpen = true)
    (hop : op.isNeutral = true) (h : ∀ a, Follows instanceId phase Q (f a)) :
    Follows instanceId phase Q (ask op >>= f) := by
  have hpre : (collectorProof instanceId).rules.pre phase op := by
    cases op with
    | store => cases hop
    | _ => exact trivial
  refine follows_bind (Q := fun phase' _ => phase' = phase) (follows_ask hpre fun a => ?_) ?_
  · exact next_of_isNeutral hop hopen _
  · rintro _ a rfl
    exact h a

lemma follows_liveStamp (hopen : phase.isOpen = true) :
    Follows instanceId phase
      (fun phase' stamp => phase' = phase ∧ stamp.instanceId = binding.instanceId)
      (liveStamp binding) := by
  unfold liveStamp
  refine follows_ask_bind hopen rfl ?_
  rintro ⟨found, lookup⟩
  refine follows_pass_bind fun containerId _ => ?_
  refine follows_ask_bind hopen rfl fun live => ?_
  refine follows_pass_bind fun _ _ => ?_
  refine follows_pass_bind ?_
  rintro ⟨wrapper, product⟩ -
  refine follows_ask_bind hopen rfl fun moment => ?_
  exact follows_pure ⟨rfl, rfl⟩

lemma follows_beforePage (hopen : phase.isOpen = true) (hid : binding.instanceId = instanceId) :
    Follows instanceId phase
      (fun phase' found => phase' = phase ∧ found.2.instanceId = instanceId)
      (beforePage binding) := by
  unfold beforePage
  refine follows_ask_bind hopen rfl fun bindings => ?_
  refine follows_pass_bind fun before hbefore => ?_
  have hsame : before.instanceId = instanceId := by
    rw [getRuntimeBinding_instanceId binding.instance_uuid hbefore, hid]
  refine follows_bind (follows_liveStamp hopen) ?_
  rintro _ stamp ⟨rfl, hstamp⟩
  exact follows_pure ⟨rfl, hstamp.trans hsame⟩

lemma follows_fetchCoverage {containerId family : String} (hopen : phase.isOpen = true) :
    Follows instanceId phase (fun phase' _ => phase' = phase)
      (fetchCoverage containerId family) := by
  unfold fetchCoverage
  refine follows_pass_bind fun _ _ => ?_
  refine follows_ask_bind hopen rfl fun proc => ?_
  refine follows_pass_bind fun _ _ => ?_
  exact follows_pass fun _ _ => rfl

/-- The page that is returned is the one that was fetched. -/
lemma follows_fetchExport {containerId family : String} {after limit : Int}
    (hholds : phase.holds = true) :
    Follows instanceId phase (fun phase' page => phase' = .fetched page ∧ Accepted page)
      (fetchExport containerId family after limit) := by
  unfold fetchExport
  refine follows_pass_bind fun _ _ => ?_
  refine follows_pass_bind fun _ _ => ?_
  refine follows_pass_bind fun _ _ => ?_
  refine follows_bind (Q := fun phase' proc => phase' = Phase.afterExport family after (.ok proc))
    (follows_ask trivial fun proc => ?_) ?_
  · exact if_pos hholds
  rintro _ proc rfl
  refine follows_pass_bind fun _ hcode => ?_
  refine follows_pass fun page hpage => ⟨?_, ?_⟩
  · simp only [Phase.afterExport, hpage]
    exact if_pos (require_ok.mp hcode)
  · obtain ⟨payload, -, hvalid⟩ := except_bind_ok.mp hpage
    exact (accepted_of_validateExport hvalid).1

lemma follows_unchangedRuntime {before : RuntimeBinding} {stamp : Stamp}
    (hopen : phase.isOpen = true) :
    Follows instanceId phase (fun phase' _ => phase' = phase)
      (unchangedRuntime binding before stamp) := by
  unfold unchangedRuntime
  refine follows_ask_bind hopen rfl fun bindings => ?_
  refine follows_pass_bind fun after _ => ?_
  refine follows_pass_bind fun _ _ => ?_
  refine follows_bind (follows_liveStamp hopen) ?_
  rintro _ afterStamp ⟨rfl, -⟩
  refine follows_pass_bind fun _ _ => ?_
  exact follows_pass fun _ _ => rfl

lemma follows_fetchPage {before : RuntimeBinding} {stamp : Stamp} {limit : Int}
    (hholds : phase.holds = true) :
    Follows instanceId phase
      (fun phase' found => phase' = .fetched found.2 ∧ Accepted found.2)
      (fetchPage binding before stamp limit) := by
  unfold fetchPage
  refine follows_bind (Q := fun phase' _ => phase' = phase)
    (follows_ask trivial fun _ => if_pos (isOpen_of_holds hholds)) ?_
  rintro _ cursor rfl
  refine follows_bind (follows_fetchCoverage (isOpen_of_holds hholds)) ?_
  rintro _ coverage rfl
  refine follows_bind (follows_fetchExport hholds) ?_
  rintro _ page ⟨rfl, haccepted⟩
  refine follows_bind (follows_unchangedRuntime rfl) ?_
  rintro _ _ rfl
  exact follows_pure ⟨rfl, haccepted⟩

/-- A part, whatever it raises. -/
lemma follows_attempt_bind {f : Except Raised β → Collector α} {R : Phase → β → Prop}
    {p : Collector β} (hp : Follows instanceId phase R p)
    (hok : ∀ phase' b, R phase' b → Follows instanceId phase' Q (f (.ok b)))
    (herror : ∀ phase' e, Follows instanceId phase' Q (f (.error e))) :
    Follows instanceId phase Q (attempt p >>= f) := by
  refine safe_bind.mpr (safe_tryCatch.mpr (safe_bind.mpr (hp.mono hok ?_)))
  exact fun phase' e _ => herror phase' e

/-- What a returned `ok` says of the phase. -/
def Reports (phase : Phase) (collected : Collected) : Prop :=
  ∀ pages inserted idempotent cursor high status digest,
    collected = .ok pages inserted idempotent cursor high status digest → phase = .stored high

lemma follows_onException {locals : Locals} {e : Raised} :
    Follows instanceId phase Reports (onException locals e) := by
  have hrecord : ∀ stamp code detail failed, (∀ phase, Reports phase failed) →
      Follows instanceId phase Reports
        (do recordFailureSafely stamp code detail; return failed) := by
    intro stamp code detail failed hfailed
    refine follows_bind (Q := fun _ _ => True) ?_ fun phase' _ _ => follows_pure (hfailed phase')
    unfold recordFailureSafely
    exact follows_attempt_bind (R := fun _ _ => True) (follows_ask trivial fun _ => trivial)
      (fun _ _ _ => follows_pure trivial) fun _ _ => follows_pure trivial
  cases e with
  | busy message => exact follows_pure nofun
  | conflict message => exact follows_pure nofun
  | contract message => exact hrecord _ _ _ _ fun _ => nofun
  | other name message => exact hrecord _ _ _ _ fun _ => nofun

lemma Accepted.next_eq_high {page : ValidatedExport} (h : Accepted page)
    (hmore : page.hasMore = false) : page.nextCursor = page.highWatermark := by
  have hle : page.nextCursor ≤ page.highWatermark := by
    rw [h.next, expectedNext]
    cases hlast : (page.receipts.map ledgerSeq).getLast? with
    | none => exact h.forward
    | some last =>
        obtain ⟨receipt, hreceipt, rfl⟩ := List.mem_map.mp (List.mem_of_getLast? hlast)
        exact h.below receipt hreceipt
  have hnot := h.more
  rw [hmore] at hnot
  have hge := of_decide_eq_false hnot.symm
  omega

lemma follows_collectPages (hid : binding.instanceId = instanceId) {limit maxPages : Int}
    {pages : Nat} {locals : Locals} (hholds : phase.holds = true) :
    Follows instanceId phase Reports (collectPages binding limit maxPages pages locals) := by
  induction pages generalizing phase locals with
  | zero => exact follows_onException
  | succ pages ih =>
      unfold collectPages
      refine follows_attempt_bind (follows_beforePage (isOpen_of_holds hholds) hid) ?_
        fun _ _ => follows_onException
      rintro _ ⟨before, stamp⟩ ⟨rfl, hstamp⟩
      refine follows_attempt_bind (follows_fetchPage hholds) ?_ fun _ _ => follows_onException
      rintro _ ⟨coverage, page⟩ ⟨rfl, haccepted⟩
      refine follows_attempt_bind (R := fun phase' _ => phase' = .fetched page)
        (follows_ask trivial fun _ => rfl) ?_ fun _ _ => follows_onException
      rintro _ moment rfl
      refine follows_attempt_bind (R := fun phase' _ => phase' = .stored page.nextCursor)
        (follows_ask ⟨hstamp, rfl⟩ fun _ => rfl) ?_ fun _ _ => follows_onException
      rintro _ stored rfl
      by_cases hmore : page.hasMore = true
      · simp only [hmore, if_true]
        exact ih rfl
      · rw [Bool.not_eq_true] at hmore
        simp only [hmore]
        refine follows_pure ?_
        intro _ _ _ _ high _ _ heq
        cases heq
        rw [haccepted.next_eq_high hmore]

/-- A collector keeps the rules. -/
theorem follows_collectTarget (hid : binding.instanceId = instanceId) {limit maxPages : Int} :
    Follows instanceId .outside (collectorProof instanceId).post
      (collectTarget binding limit maxPages) := by
  unfold collectTarget
  refine follows_bind (Q := fun phase' _ => phase' = .outside)
    (follows_ask trivial fun _ => rfl) ?_
  rintro _ _ rfl
  refine follows_bind (Q := Reports) ?_ ?_
  · unfold collectBody
    refine follows_ask_bind rfl rfl fun moment => ?_
    refine follows_attempt_bind (R := fun phase' _ => phase' = .holding) ?_ ?_
      fun _ _ => follows_onException
    · refine follows_bind (Q := fun _ _ => True) ?_ fun phase' _ _ => ?_
      · unfold ensureSchema
        refine follows_bind (Q := fun _ _ => True) (follows_ask trivial fun _ => trivial) ?_
        intro _ found _
        exact follows_pass fun _ _ => trivial
      · unfold acquireCollectionLock
        refine follows_pass_bind fun _ _ => ?_
        refine follows_bind (Q := fun phase'' acquired => acquired = true → phase'' = .holding)
          (follows_ask trivial ?_) ?_
        · rintro (_ | _) h
          · cases h
          · rfl
        · intro _ acquired h
          exact follows_pass fun _ hacquired => h (require_ok.mp hacquired)
    · rintro _ _ rfl
      exact follows_collectPages hid rfl
  · intro phase' collected hreports
    refine follows_bind (Q := fun closed _ => closed = phase'.next .close (.ok ()))
      (follows_ask trivial fun _ => rfl) ?_
    rintro _ _ rfl
    refine follows_pure ?_
    intro _ _ _ _ high _ _ heq
    rw [hreports _ _ _ _ high _ _ heq]
    rfl

end keeps

/-! ## An operation keeps the invariant -/

section operations

variable {instanceId : String} {k j : Nat} {w w' : Central} {phase : Phase}

lemma lock_of_holds (hholds : phase.holds = true) (h : phase.Knows instanceId k w) :
    w.lock = some k := by
  cases phase with
  | holding => exact h
  | fetched => exact h.1
  | stored => exact h.1
  | outside => cases hholds
  | closed => cases hholds

/-- What a collector knows stays true while it keeps the lock and the cursor. -/
lemma Phase.Knows.mono (h : phase.Knows instanceId k w)
    (hlock : w.lock = some k → w'.lock = some k ∧
      w'.db.lastSeq instanceId = w.db.lastSeq instanceId) (hledger : w.ledger <+: w'.ledger) :
    phase.Knows instanceId k w' := by
  cases phase with
  | outside => exact trivial
  | closed => exact trivial
  | holding => exact (hlock h).1
  | fetched page =>
      obtain ⟨hk, haccepted, seen, hseen, hpage⟩ := h
      exact ⟨(hlock hk).1, haccepted, seen, hseen.trans hledger, hpage⟩
  | stored cursor =>
      obtain ⟨hk, hcursor⟩ := h
      exact ⟨(hlock hk).1, (hlock hk).2.trans hcursor⟩

lemma lock_released (hne : j ≠ k) (h : w.lock = some j) : (w.released k).lock = some j := by
  unfold Central.released
  simp only [h, Option.filter_some]
  exact if_pos (decide_eq_true hne)

/-- Others do not notice that a connection is gone. -/
lemma Phase.Knows.released (h : phase.Knows instanceId j w) (hne : j ≠ k) :
    phase.Knows instanceId j (w.released k) :=
  h.mono (fun hlock => ⟨lock_released hne hlock, rfl⟩) (List.prefix_refl _)

lemma afterStatement.knows {α : Type} {r : Except Raised α} (hstep : afterStatement k r w w')
    (h : phase.Knows instanceId j w) (hne : j ≠ k) : phase.Knows instanceId j w' := by
  rcases hstep with rfl | ⟨-, rfl⟩
  · exact h
  · exact h.released hne

lemma afterStatement.inv {α : Type} {r : Except Raised α} (hstep : afterStatement k r w w')
    (h : (collectorProof instanceId).inv w) : (collectorProof instanceId).inv w' := by
  rcases hstep with rfl | ⟨-, rfl⟩
  · exact h
  · exact h

lemma afterStatement.of_ok {α : Type} {r : Except Raised α} {a : α}
    (hstep : afterStatement k r w w') (hr : r = .ok a) : w' = w := by
  rcases hstep with rfl | ⟨⟨e, he⟩, -⟩
  · rfl
  · rw [he] at hr
    cases hr

/-! ### The page that was exported -/

/-- What is read off a document. -/
lemma fields_of_validateExport {payload : Json} {after : Int} {family : String}
    {page : ValidatedExport} (h : validateExport payload after family = .ok page) :
    payload.field "receipts" = .arr page.receipts ∧
      payload.field "highWatermark" = .int page.highWatermark := by
  simp only [validateExport, except_bind_ok, check_ok, except_pure_ok, exists_and_left,
    exists_const] at h
  obtain ⟨_, -, -, a, -, rfl, next, -, high, hhigh, count, -, more, -, -, receipts, hreceipts, -,
    _, -, manifests, -, coverage, -, -, -, -, -, -, -, -, -, rfl⟩ := h
  exact ⟨arrayItems_ok.mp hreceipts, (integer_ok.mp hhigh).1⟩

/-- An honest answer that is accepted is a page of the ledger. -/
lemma exportedFrom_of_honest {ledger : List Json} {after limit : Int} {proc : Proc}
    {family : String} {page : ValidatedExport} (hhonest : HonestExport ledger after limit proc)
    (hcode : proc.returncode = 0) (h : parseExportStdout proc.stdout after family = .ok page) :
    ExportedFrom ledger page ∧ Accepted page := by
  obtain ⟨payload, hloads, hreceipts, hhigh⟩ := hhonest hcode
  obtain ⟨payload', hparse, hvalid⟩ := except_bind_ok.mp h
  have hsame : payload' = payload := by
    simp only [parseStdout, hloads, except_bind_ok, except_pure_ok] at hparse
    obtain ⟨_, -, heq⟩ := hparse
    exact heq.symm
  rw [hsame] at hvalid
  obtain ⟨haccepted, hafter⟩ := accepted_of_validateExport hvalid
  obtain ⟨hitems, hwatermark⟩ := fields_of_validateExport hvalid
  rw [hreceipts, Json.arr.injEq] at hitems
  rw [hhigh, Json.int.injEq] at hwatermark
  exact ⟨⟨⟨limit.toNat, by rw [hafter, hitems]⟩, hwatermark.symm⟩, haccepted⟩

/-! ### Recorded failures -/

lemma recordCollectionFailure_effect {faults : Faults} {stamp : Stamp} {code detail : String}
    {db db' : Db} {r : Except Raised Unit}
    (h : recordCollectionFailure faults stamp code detail db = (r, db')) :
    db' = db ∨ ∃ moment, db' = upsertFailure stamp moment code detail db := by
  unfold recordCollectionFailure at h
  split at h
  · cases h
    exact .inl rfl
  · rename_i c hrun
    cases h
    simp only [Tx.bind_ok, Tx.ofExcept_ok] at hrun
    obtain ⟨_, c₀, h₀, moment, _, ⟨-, rfl⟩, _, c₁, h₁, h₂⟩ := hrun
    refine .inr ⟨moment, ?_⟩
    rw [change_ok h₂, change_ok h₁, change_ok h₀]
    rfl

/-- A recorded failure leaves the cursor, the rows and the conflicts. -/
lemma upsertFailure_keeps (stamp : Stamp) (moment : Int) (code detail : String) (db : Db) :
    (upsertFailure stamp moment code detail db).calls = db.calls ∧
      (upsertFailure stamp moment code detail db).conflicts = db.conflicts ∧
      ∀ key, (upsertFailure stamp moment code detail db).lastSeq key = db.lastSeq key := by
  unfold upsertFailure
  split
  · rename_i cursors hinsert
    refine ⟨rfl, rfl, fun key => ?_⟩
    unfold Db.lastSeq
    rw [Table.find?_insert? hinsert]
    split_ifs with hkey
    · have hnone := Table.find?_none_of_insert? hinsert
      rw [hkey] at hnone
      rw [hnone]
      rfl
    · rfl
  · refine ⟨rfl, rfl, fun key => ?_⟩
    rw [lastSeq_updateCursor]
    unfold Db.lastSeq refailedCursor
    congr 2
    funext row
    simp

lemma recordFailure_keeps {faults : Faults} {stamp : Stamp} {code detail : String}
    {db db' : Db} {r : Except Raised Unit}
    (h : recordCollectionFailure faults stamp code detail db = (r, db')) :
    db'.calls = db.calls ∧ db'.conflicts = db.conflicts ∧
      ∀ key, db'.lastSeq key = db.lastSeq key := by
  rcases recordCollectionFailure_effect h with rfl | ⟨moment, rfl⟩
  · exact ⟨rfl, rfl, fun _ => rfl⟩
  · exact upsertFailure_keeps stamp moment code detail db

lemma IsPrefix.of_same {ledger : List Json} {db db' : Db} (h : IsPrefix instanceId ledger db)
    (hcalls : db'.callsOf instanceId = db.callsOf instanceId)
    (hseq : db'.lastSeq instanceId = db.lastSeq instanceId)
    (hconflicts : ∀ row ∈ db'.conflicts, row.instanceId = instanceId → row ∈ db.conflicts) :
    IsPrefix instanceId ledger db' where
  rows := by
    rw [hcalls, hseq]
    exact h.rows
  reached := by
    rw [hseq]
    exact h.reached
  conflicts row hrow hid := h.conflicts row (hconflicts row hrow hid) hid

lemma knows_kept (h : phase.Knows instanceId k w) :
    (if phase.isOpen then phase else .outside).Knows instanceId k w := by
  split_ifs
  · exact h
  · exact trivial

/-- What has to be shown for an operation of a collector. -/
def KeepsProof (instanceId : String) (k : Nat) (w w' : Central) (phase : Phase) : Prop :=
  (collectorProof instanceId).inv w' ∧ phase.Knows instanceId k w' ∧
    ∀ j (phase : Phase), j ≠ k → phase.Knows instanceId j w → phase.Knows instanceId j w'

/-- A statement that changes nothing. -/
lemma keepsProof_of_afterStatement {α : Type} {r : Except Raised α} {phase' : Phase}
    (hw : (collectorProof instanceId).inv w) (hphase : phase.Knows instanceId k w)
    (hstep : afterStatement k r w w') (hok : ∀ a, r = .ok a → phase' = phase ∨ phase' = .outside)
    (herror : ∀ e, r = .error e → phase' = .outside) : KeepsProof instanceId k w w' phase' := by
  refine ⟨hstep.inv hw, ?_, fun j other hne hother => hstep.knows hother hne⟩
  cases r with
  | error e =>
      rw [herror e rfl]
      exact trivial
  | ok a =>
      rw [hstep.of_ok rfl]
      rcases hok a rfl with h | h
      · rw [h]
        exact hphase
      · rw [h]
        exact trivial

lemma keepsProof_refl {phase' : Phase} (hw : (collectorProof instanceId).inv w)
    (hphase : phase'.Knows instanceId k w) : KeepsProof instanceId k w w phase' :=
  ⟨hw, hphase, fun _ _ _ h => h⟩

lemma keepsProof_getLock {name : String} {r : Except Raised Bool}
    (hw : (collectorProof instanceId).inv w) (h : centralAnswers k w (.getLock name) r w') :
    KeepsProof instanceId k w w' (phase.next (.getLock name) r) := by
  rcases h with ⟨rfl, hfree, rfl⟩ | ⟨hr, hstep⟩
  · refine ⟨hw, rfl, fun j other hne hother => hother.mono (fun hlock => ?_) (List.prefix_refl _)⟩
    exact absurd (hfree j hlock) hne
  · have hphase : phase.next (.getLock name) r = .outside := by
      rcases r with e | (_ | _)
      · rfl
      · rfl
      · exact absurd rfl hr
    rw [hphase]
    exact ⟨hstep.inv hw, trivial, fun j other hne hother => hstep.knows hother hne⟩

lemma keepsProof_runExport {containerId family : String} {after limit : Int}
    {r : Except Raised Proc} (hw : (collectorProof instanceId).inv w)
    (hphase : phase.Knows instanceId k w)
    (h : centralAnswers k w (.runExport containerId family after limit) r w') :
    KeepsProof instanceId k w w' (phase.next (.runExport containerId family after limit) r) := by
  obtain ⟨rfl, hhonest⟩ := h
  refine keepsProof_refl hw ?_
  change (if phase.holds then Phase.afterExport family after r else .outside).Knows _ _ _
  by_cases hholds : phase.holds = true
  · rw [if_pos hholds]
    have hlock := lock_of_holds hholds hphase
    cases r with
    | error e => exact hlock
    | ok proc =>
        simp only [Phase.afterExport]
        cases hparse : parseExportStdout proc.stdout after family with
        | error e => exact hlock
        | ok page =>
            by_cases hcode : proc.returncode = 0
            · simp only [hcode, if_true]
              obtain ⟨hpage, haccepted⟩ :=
                exportedFrom_of_honest (hhonest proc rfl) hcode hparse
              exact ⟨hlock, haccepted, w'.ledger, List.prefix_refl _, hpage⟩
            · simp only [hcode, if_false]
              exact hlock
  · rw [if_neg hholds]
    exact trivial

lemma keepsProof_store {stamp : Stamp} {coverage : ValidatedCoverage} {page : ValidatedExport}
    {r : Except Raised Stored} (hw : (collectorProof instanceId).inv w)
    (hphase : (Phase.fetched page).Knows instanceId k w) (hstamp : stamp.instanceId = instanceId)
    (h : centralAnswers k w (.store stamp coverage page) r w') :
    KeepsProof instanceId k w w' ((Phase.fetched page).next (.store stamp coverage page) r) := by
  obtain ⟨faults, db', hstore, hstep⟩ := h
  obtain ⟨hproducer, hprefix⟩ := hw
  obtain ⟨hlock, haccepted, seen, hseen, hpage⟩ := hphase
  rw [← hstamp] at hprefix
  obtain ⟨hprefix', hseq⟩ := hprefix.keeps_page hproducer hseen hpage haccepted
    (storeExportPage_effect hstore)
  rw [hstamp] at hprefix' hseq
  refine ⟨hstep.inv ⟨hproducer, hprefix'⟩, ?_, fun j other hne hother => ?_⟩
  · cases r with
    | error e => exact trivial
    | ok stored =>
        rw [hstep.of_ok rfl]
        exact ⟨hlock, hseq stored rfl⟩
  · -- the lock is held by this collector, so that the others know nothing of the cursor
    refine hstep.knows (hother.mono (fun hlock' => ?_) (List.prefix_refl _)) hne
    rw [hlock] at hlock'
    exact absurd (Option.some.inj hlock').symm hne

lemma keepsProof_recordFailure {stamp : Stamp} {code detail : String} {r : Except Raised Unit}
    (hw : (collectorProof instanceId).inv w) (hphase : phase.Knows instanceId k w)
    (h : centralAnswers k w (.recordFailure stamp code detail) r w') :
    KeepsProof instanceId k w w' (phase.next (.recordFailure stamp code detail) r) := by
  obtain ⟨faults, db', hrecord, hstep⟩ := h
  obtain ⟨hcalls, hconflicts, hseq⟩ := recordFailure_keeps hrecord
  have hprefix : IsPrefix instanceId w.ledger db' := by
    refine hw.2.of_same (callsOf_of_calls hcalls) (hseq instanceId) fun row hrow _ => ?_
    rw [← hconflicts]
    exact hrow
  have hknows : ∀ {j : Nat} {other : Phase}, other.Knows instanceId j w →
      other.Knows instanceId j { w with db := db' } := by
    intro j other hother
    exact hother.mono (fun hlock => ⟨hlock, hseq instanceId⟩) (List.prefix_refl _)
  refine ⟨hstep.inv ⟨hw.1, hprefix⟩, ?_, fun j other hne hother => ?_⟩
  · cases r with
    | error e => exact trivial
    | ok u =>
        rw [hstep.of_ok rfl]
        exact knows_kept (hknows hphase)
  · exact hstep.knows (hknows hother) hne

/-- Every operation of a collector keeps the invariant. -/
theorem keepsProof_operation {op : CollectOp} {r : Except Raised op.Res}
    (hw : (collectorProof instanceId).inv w) (hphase : phase.Knows instanceId k w)
    (hpre : (collectorProof instanceId).rules.pre phase op) (h : centralAnswers k w op r w') :
    KeepsProof instanceId k w w' (phase.next op r) := by
  cases op with
  | connect =>
      obtain rfl := h
      exact keepsProof_refl hw trivial
  | now =>
      obtain rfl := h
      exact keepsProof_refl hw (knows_kept hphase)
  | loadBindings =>
      obtain rfl := h
      exact keepsProof_refl hw (knows_kept hphase)
  | findContainer =>
      obtain rfl := h
      exact keepsProof_refl hw (knows_kept hphase)
  | liveTruth =>
      obtain rfl := h
      exact keepsProof_refl hw (knows_kept hphase)
  | runCoverage =>
      obtain rfl := h
      exact keepsProof_refl hw (knows_kept hphase)
  | listTables =>
      refine keepsProof_of_afterStatement hw hphase h (fun a ha => ?_) fun e he => ?_
      · rw [ha]
        exact ite_eq_or_eq _ _ _
      · rw [he]
        rfl
  | readCursor =>
      refine keepsProof_of_afterStatement hw hphase h (fun a ha => ?_) fun e he => ?_
      · rw [ha]
        exact ite_eq_or_eq _ _ _
      · rw [he]
        rfl
  | getLock => exact keepsProof_getLock hw h
  | runExport => exact keepsProof_runExport hw hphase h
  | store stamp coverage page =>
      obtain ⟨hstamp, rfl⟩ := hpre
      exact keepsProof_store hw hphase hstamp h
  | recordFailure => exact keepsProof_recordFailure hw hphase h
  | close =>
      obtain rfl := h
      refine ⟨hw, ?_, fun j other hne hother => hother.released hne⟩
      cases phase with
      | stored => exact trivial
      | _ => exact trivial

/-- The ledger grows beyond every cursor. -/
lemma IsPrefix.grows {ledger more : List Json} {db : Db} (h : IsPrefix instanceId ledger db)
    (hproducer : Producer (ledger ++ more)) : IsPrefix instanceId (ledger ++ more) db where
  rows := by
    have hnone : receiptsUpTo more (db.lastSeq instanceId) = [] := by
      unfold receiptsUpTo
      rw [List.filter_eq_nil_iff]
      intro receipt hreceipt
      have habove : db.lastSeq instanceId < ledgerSeq receipt := by
        rcases h.reached with hzero | ⟨last, hlast, hseq⟩
        · have hone := one_le_of_valid
            (hproducer.valid receipt (List.mem_append_right _ hreceipt))
          omega
        · have hascending := hproducer.ascending
          rw [List.map_append, List.pairwise_append] at hascending
          rw [← hseq]
          exact hascending.2.2 _ (List.mem_map_of_mem hlast) _ (List.mem_map_of_mem hreceipt)
      simpa using habove
    rw [h.rows]
    unfold receiptsUpTo at hnone ⊢
    rw [List.filter_append, hnone, List.append_nil]
  reached := by
    rcases h.reached with hzero | ⟨last, hlast, hseq⟩
    · exact .inl hzero
    · exact .inr ⟨last, List.mem_append_left _ hlast, hseq⟩
  conflicts := h.conflicts

/-- The collectors keep the invariant. -/
theorem respects_collectors (instanceId : String) :
    Respects (collectors instanceId) (collectorProof instanceId) where
  surroundings {w w'} hw h := by
    rcases h with ⟨more, hproducer, rfl⟩ | ⟨db', hsame, rfl⟩
    · refine ⟨⟨hproducer, hw.2.grows hproducer⟩, fun k phase hphase => ?_⟩
      exact hphase.mono (fun hlock => ⟨hlock, rfl⟩) (List.prefix_append _ _)
    · have hseq : db'.lastSeq instanceId = w.db.lastSeq instanceId := by
        unfold Db.lastSeq
        rw [hsame.cursor]
      refine ⟨⟨hw.1, hw.2.of_same hsame.calls hseq hsame.conflicts⟩, fun k phase hphase => ?_⟩
      exact hphase.mono (fun hlock => ⟨hlock, hseq⟩) (List.prefix_refl _)
  start hw h := by
    obtain ⟨binding, limit, maxPages, hid, rfl⟩ := h
    exact ⟨.outside, trivial, follows_collectTarget hid⟩
  operation hw hphase hpre h := by
    obtain ⟨hinv, hown, hothers⟩ := keepsProof_operation hw hphase hpre h
    exact ⟨hinv, ⟨_, rfl, hown⟩, hothers⟩
  crash hw := ⟨hw, fun _ _ hne hother => hother.released hne⟩

/-- Only closing the connection ends a collector that has stored. -/
lemma stored_of_next_closed {op : CollectOp} {r : Except Raised op.Res} {cursor : Int}
    (h : phase.next op r = .closed cursor) : op = .close ∧ phase = .stored cursor := by
  have hkept : (if phase.isOpen then phase else .outside) ≠ .closed cursor := by
    cases phase with
    | closed => exact nofun
    | _ => exact nofun
  have hexport : ∀ family after r, Phase.afterExport family after r ≠ .closed cursor := by
    intro family after r hclosed
    cases r with
    | error e => cases hclosed
    | ok proc =>
        simp only [Phase.afterExport] at hclosed
        split at hclosed
        · split_ifs at hclosed
        · cases hclosed
  cases op with
  | close =>
      cases phase with
      | stored c =>
          cases h
          exact ⟨rfl, rfl⟩
      | _ => cases h
  | connect => cases h
  | getLock =>
      rcases r with e | (_ | _)
      · cases h
      · cases h
      · cases h
  | runExport =>
      simp only [Phase.next] at h
      split_ifs at h
      exact absurd h (hexport _ _ _)
  | store =>
      rcases r with e | stored
      · cases h
      · simp only [Phase.next] at h
        split_ifs at h
  | listTables =>
      rcases r with e | found
      · cases h
      · exact absurd h hkept
  | readCursor =>
      rcases r with e | cursor
      · cases h
      · exact absurd h hkept
  | recordFailure =>
      rcases r with e | u
      · cases h
      · exact absurd h hkept
  | _ => exact absurd h hkept

/-- Tables without anything of the instance, a ledger, and no collector. -/
structure IsStart (instanceId : String)
    (c : Config CollectOp CollectOp.Res Raised Collected Central Nat) : Prop where
  producer : Producer c.world.ledger
  calls : c.world.db.callsOf instanceId = []
  cursor : c.world.db.cursors.find? instanceId = none
  conflicts : ∀ row ∈ c.world.db.conflicts, row.instanceId ≠ instanceId
  procs : ∀ k, c.procs k = none

lemma IsStart.guarded {c : Config CollectOp CollectOp.Res Raised Collected Central Nat}
    (h : IsStart instanceId c) : Guarded (collectorProof instanceId) c := by
  have hseq : c.world.db.lastSeq instanceId = 0 := by
    unfold Db.lastSeq
    rw [h.cursor]
    rfl
  refine ⟨⟨h.producer, ?_, .inl hseq, h.conflicts⟩, fun k p hproc => ?_⟩
  · rw [h.calls, hseq, h.producer.receiptsUpTo_zero]
    rfl
  · rw [h.procs k] at hproc
    cases hproc

end operations

end collectors

/-! ## A run -/

section samples

attribute [local instance] sampleText sampleOutput

/-- A product with one receipt, and no collector. -/
def oneReceipt : Config CollectOp CollectOp.Res Raised Collected Central Nat where
  world := ⟨noUsage, none, [sampleReceipt 1]⟩
  procs _ := none

lemma isStart_oneReceipt : IsStart sampleBinding.instanceId oneReceipt where
  producer := {
    valid := by
      intro receipt hreceipt
      rw [List.mem_singleton.mp hreceipt]
      exact validateCallReceipt_sampleReceipt (by decide)
    ascending := List.pairwise_singleton _ _
    distinct := List.nodup_singleton _ }
  calls := rfl
  cursor := rfl
  conflicts := nofun
  procs _ := rfl

end samples

end AgentRuntimeOps.Usage
