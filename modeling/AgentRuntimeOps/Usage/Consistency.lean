import Mathlib
import AgentRuntimeOps.Lib.Transition
import AgentRuntimeOps.Usage.Store

/-!
# A misbehaving producer

Whatever pages a producer exports, as long as `validate_export` accepts them, the tables stay
consistent.  `PageEffect` says once what a page can do to the tables; every property of the store
is read off it.
-/

namespace AgentRuntimeOps.Usage

open AgentRuntimeOps.Lib

/-! ## Accepted pages -/

section pages

section sorted

variable {α : Type} [LinearOrder α]

lemma sortedSet_pairwise (values : List α) : (sortedSet values).Pairwise (· < ·) := by
  have hsorted : (sortedSet values).Pairwise fun a b => decide (a ≤ b) = true := by
    refine List.pairwise_mergeSort (fun a b c hab hbc => ?_) (fun a b => ?_) _
    · simp only [decide_eq_true_eq] at hab hbc ⊢
      exact hab.trans hbc
    · simpa using le_total a b
  have hnodup : (sortedSet values).Nodup :=
    (List.mergeSort_perm _ _).nodup_iff.mpr (List.nodup_dedup values)
  refine (hsorted.and hnodup).imp fun {a b} h => ?_
  exact lt_of_le_of_ne (of_decide_eq_true h.1) h.2

lemma sortedSet_of_pairwise {values : List α} (h : values.Pairwise (· < ·)) :
    sortedSet values = values := by
  have hnodup : values.Nodup := h.imp ne_of_lt
  rw [sortedSet, List.dedup_eq_self.mpr hnodup]
  refine List.mergeSort_of_pairwise (h.imp fun hlt => ?_)
  simpa using hlt.le

@[simp] lemma mem_sortedSet {values : List α} {a : α} : a ∈ sortedSet values ↔ a ∈ values := by
  simp [sortedSet]

lemma lt_of_ascending {values : List α} {a : α} (h : values.Pairwise (· < ·))
    (hfirst : ∀ first ∈ values.head?, a < first) {x : α} (hx : x ∈ values) : a < x := by
  cases values with
  | nil => cases hx
  | cons first rest =>
      have ha : a < first := hfirst first rfl
      rcases List.mem_cons.mp hx with rfl | hx
      · exact ha
      · exact ha.trans ((List.pairwise_cons.mp h).1 x hx)

lemma le_of_ascending {values : List α} {b : α} (h : values.Pairwise (· < ·))
    (hlast : ∀ last ∈ values.getLast?, last ≤ b) {x : α} (hx : x ∈ values) : x ≤ b := by
  induction values using List.reverseRecOn with
  | nil => cases hx
  | append_singleton front last _ =>
      have hb : last ≤ b := hlast last (by simp)
      rcases List.mem_append.mp hx with hx | hx
      · exact ((List.pairwise_append.mp h).2.2 x hx last (by simp)).le.trans hb
      · rw [List.mem_singleton.mp hx]
        exact hb

end sorted

variable [PythonText]

/-- What is relied on of an accepted page. -/
structure Accepted (page : ValidatedExport) : Prop where
  nonneg : 0 ≤ page.after
  forward : page.after ≤ page.highWatermark
  ascending : (page.receipts.map ledgerSeq).Pairwise (· < ·)
  above : ∀ receipt ∈ page.receipts, page.after < ledgerSeq receipt
  below : ∀ receipt ∈ page.receipts, ledgerSeq receipt ≤ page.highWatermark
  next : page.nextCursor = expectedNext page.after page.receipts
  more : page.hasMore = decide (page.nextCursor < page.highWatermark)
  covered : ∀ receipt ∈ page.receipts, ∃ coverage ∈ page.coverageManifests,
    coverage.manifestDigest = coverageDigestOf receipt

omit [PythonText] in
lemma integer_ok {value : Json} {path : String} {minimum i : Int} :
    integer value path minimum = .ok i ↔ value = .int i ∧ minimum ≤ i := by
  unfold integer
  cases value with
  | int j =>
      simp only [except_bind_ok, check_ok, except_pure_ok, exists_and_left, exists_const,
        Json.int.injEq]
      constructor
      · rintro ⟨h, rfl⟩
        exact ⟨rfl, h⟩
      · rintro ⟨rfl, h⟩
        exact ⟨h, rfl⟩
  | _ =>
      constructor
      · intro h
        cases h
      · rintro ⟨h, -⟩
        cases h

omit [PythonText] in
lemma arrayItems_ok {value : Json} {message : String} {items : List Json} :
    arrayItems value message = .ok items ↔ value = .arr items := by
  unfold arrayItems
  cases value with
  | arr xs =>
      rw [except_pure_ok, Json.arr.injEq]
  | _ => exact ⟨nofun, nofun⟩

lemma accepted_of_validateExport {payload : Json} {after : Int} {family : String}
    {page : ValidatedExport} (h : validateExport payload after family = .ok page) :
    Accepted page ∧ page.after = after := by
  simp only [validateExport, except_bind_ok, check_ok, except_pure_ok, exists_and_left,
    exists_const] at h
  obtain ⟨_, -, -, a, ha, rfl, next, hnext, high, hhigh, count, -, more, -, hforward, receipts, -,
    -, _, -, manifests, -, coverage, -, -, hcovered, hascending, habove, hbelow, hcursor, -, -,
    rfl⟩ := h
  have hpairwise : (receipts.map ledgerSeq).Pairwise (· < ·) := by
    rw [hascending]
    exact sortedSet_pairwise _
  refine ⟨{
    nonneg := (integer_ok.mp ha).2
    forward := hforward
    ascending := hpairwise
    above := fun receipt hreceipt => ?_
    below := fun receipt hreceipt => ?_
    next := hcursor
    more := rfl
    covered := fun receipt hreceipt => ?_ }, rfl⟩
  · exact lt_of_ascending hpairwise habove (List.mem_map_of_mem hreceipt)
  · exact le_of_ascending hpairwise hbelow (List.mem_map_of_mem hreceipt)
  · have hmem : coverageDigestOf receipt ∈ coverage.map ValidatedCoverage.manifestDigest := by
      rw [hcovered, mem_sortedSet]
      exact List.mem_map_of_mem hreceipt
    exact List.mem_map.mp hmem

/-! ## Single statements -/

section statements

omit [PythonText]

variable {α β : Type} {faults : Faults} {c c' : Conn}

lemma execute_ok {f : Db → Except Raised (α × Db)} {a : α}
    (h : execute faults f c = (.ok a, c')) : f c.db = .ok (a, c'.db) := by
  unfold execute at h
  split at h
  · cases h
  · split at h
    · rename_i hf
      cases h
      exact hf
    · cases h

lemma select_ok {f : Db → α} {a : α} (h : select faults f c = (.ok a, c')) :
    a = f c.db ∧ c'.db = c.db := by
  have hf := execute_ok h
  simp only [Except.ok.injEq, Prod.mk.injEq] at hf
  exact ⟨hf.1.symm, hf.2.symm⟩

lemma change_ok {f : Db → Db} {u : Unit} (h : change faults f c = (.ok u, c')) :
    c'.db = f c.db := by
  have hf := execute_ok h
  simp only [Except.ok.injEq, Prod.mk.injEq] at hf
  exact hf.2.symm

/-- A computation that raises no ledger conflict of its own. -/
def NeverConflicts (x : Tx Conn Raised α) : Prop :=
  ∀ c e c', x c = (.error e, c') → e.isConflict = false

lemma NeverConflicts.bind {x : Tx Conn Raised α} {f : α → Tx Conn Raised β}
    (hx : NeverConflicts x) (hf : ∀ a, NeverConflicts (f a)) : NeverConflicts (x >>= f) := by
  intro c e c' h
  rcases Tx.bind_error.mp h with h | ⟨a, c₁, -, h⟩
  · exact hx c e c' h
  · exact hf a c₁ e c' h

lemma neverConflicts_pure (a : α) : NeverConflicts (pure a : Tx Conn Raised α) := nofun

lemma neverConflicts_select (f : Db → α) : NeverConflicts (select faults f) := by
  intro c e c' h
  unfold select execute at h
  split at h
  · cases h
    rfl
  · cases h

lemma neverConflicts_change (f : Db → Db) : NeverConflicts (change faults f) := by
  intro c e c' h
  unfold change execute at h
  split at h
  · cases h
    rfl
  · cases h

lemma neverConflicts_ofExcept {x : Except Raised α}
    (hx : OnlyRaises (fun e => e.isConflict = false) x) :
    NeverConflicts (Tx.ofExcept x : Tx Conn Raised α) := by
  intro c e c' h
  cases h
  exact hx e rfl

end statements

lemma sqlTimestamp_raises (value : String) :
    OnlyRaises (fun e => e.isConflict = false) (sqlTimestamp value) := by
  intro e h
  unfold sqlTimestamp at h
  split at h
  · cases h
    rfl
  · cases h
    rfl
  · cases h
    rfl
  · cases h

lemma canonicalJsonBytes_raises (value : Json) :
    OnlyRaises (fun e => e.isConflict = false) (canonicalJsonBytes value) := by
  unfold canonicalJsonBytes
  refine onlyRaises_bind.mpr ⟨onlyRaises_require.mpr (.inr rfl), fun _ _ => ?_⟩
  exact onlyRaises_bind.mpr ⟨onlyRaises_require.mpr (.inr rfl), fun _ _ => onlyRaises_pure⟩

/-! ## One receipt -/

/-- No row of the instance has the receipt's call id or its sequence. -/
structure Fresh (stamp : Stamp) (receipt : Json) (calls : List CallRow) : Prop where
  callId : ∀ row ∈ calls, row.instanceId = stamp.instanceId → row.callId ≠ callId receipt
  seq : ∀ row ∈ calls, row.instanceId = stamp.instanceId → row.family = stamp.family →
    row.seq ≠ ledgerSeq receipt

/-- One conflict is recorded, and the cursor of the instance is stopped. -/
def Conflicted (stamp : Stamp) (db db' : Db) : Prop :=
  ∃ row moment kind detail, row.instanceId = stamp.instanceId ∧
    db' = ({ db with conflicts := db.conflicts ++ [row] } : Db).updateCursor stamp.instanceId
      (conflictedCursor moment kind detail) (conflictedCursor_instanceId moment kind detail)

/-- A row is inserted for the receipt. -/
def Inserted (stamp : Stamp) (coverage : ValidatedCoverage) (receipt : Json) (db db' : Db) : Prop :=
  Fresh stamp receipt db.calls ∧ ∃ startedAt completedAt assignment collectedAt,
    db' = { db with calls := db.calls ++
      [newCall stamp coverage receipt startedAt completedAt assignment collectedAt] }

variable {faults : Faults} {stamp : Stamp} {coverage : ValidatedCoverage} {page : ValidatedExport}
  {receipt : Json} {c c' : Conn}

lemma recordConflict_ok {kind existing : String} {u : Unit}
    (h : recordConflict faults stamp receipt kind existing c = (.ok u, c')) :
    Conflicted stamp c.db c'.db := by
  simp only [recordConflict, Tx.bind_ok, Tx.ofExcept_ok] at h
  obtain ⟨_, _, ⟨-, rfl⟩, moment, _, ⟨-, rfl⟩, _, c₁, h₁, h₂⟩ := h
  rw [change_ok h₂, change_ok h₁]
  exact ⟨_, moment, kind, _, rfl, rfl⟩

lemma neverConflicts_recordConflict (kind existing : String) :
    NeverConflicts (recordConflict faults stamp receipt kind existing) := by
  unfold recordConflict
  refine (neverConflicts_ofExcept (canonicalJsonBytes_raises _)).bind fun _ => ?_
  refine (neverConflicts_ofExcept (sqlTimestamp_raises _)).bind fun _ => ?_
  exact (neverConflicts_change _).bind fun _ => neverConflicts_change _

/-- Recording a conflict and raising it. -/
lemma recordConflict_raise {kind existing message : String} {e : Raised}
    (h : (recordConflict faults stamp receipt kind existing >>= fun _ =>
      (Tx.raise (.conflict message) : Tx Conn Raised Bool)) c = (.error e, c'))
    (he : e.isConflict = true) : Conflicted stamp c.db c'.db := by
  rcases Tx.bind_error.mp h with h | ⟨_, c₁, h₁, h₂⟩
  · rw [neverConflicts_recordConflict _ _ _ _ _ h] at he
    cases he
  · cases h₂
    exact recordConflict_ok h₁

omit [PythonText] in
lemma neverConflicts_assignmentForCall (account : String) (startedAt : Int) :
    NeverConflicts (assignmentForCall faults account startedAt) := by
  unfold assignmentForCall
  refine (neverConflicts_select _).bind fun rows => ?_
  intro c e c' h
  split at h
  · cases h
  · cases h
  · cases h
    rfl

omit [PythonText] in
lemma assignmentForCall_ok {account : String} {startedAt : Int} {assignment : Assignment}
    (h : assignmentForCall faults account startedAt c = (.ok assignment, c')) : c'.db = c.db := by
  simp only [assignmentForCall, Tx.bind_ok] at h
  obtain ⟨rows, c₁, h₁, h₂⟩ := h
  rw [← (select_ok h₁).2]
  split at h₂
  · exact congrArg Conn.db (Tx.pure_ok.mp h₂).2.symm
  · exact congrArg Conn.db (Tx.pure_ok.mp h₂).2.symm
  · cases h₂

omit [PythonText] in
lemma fresh_of_find? {db : Db}
    (hcall : (db.calls.find? fun row =>
      row.instanceId = stamp.instanceId ∧ row.callId = callId receipt) = none)
    (hseq : (db.calls.find? fun row =>
      row.instanceId = stamp.instanceId ∧ row.family = stamp.family ∧
        row.seq = ledgerSeq receipt) = none) : Fresh stamp receipt db.calls := by
  rw [List.find?_eq_none] at hcall hseq
  refine ⟨fun row hrow hinstance heq => ?_, fun row hrow hinstance hfamily heq => ?_⟩
  · exact hcall row hrow (by simp [hinstance, heq])
  · exact hseq row hrow (by simp [hinstance, hfamily, heq])

/-- A receipt that is stored is a replay of one that is there, or a fresh one. -/
lemma insertReceipt_ok {inserted : Bool}
    (h : insertReceipt faults stamp coverage receipt c = (.ok inserted, c')) :
    (inserted = false ∧ c'.db = c.db ∧ ∃ row ∈ c.db.calls, row.instanceId = stamp.instanceId ∧
        row.callId = callId receipt ∧ row.digest = digestOf receipt ∧
        row.seq = ledgerSeq receipt) ∨
      (inserted = true ∧ Inserted stamp coverage receipt c.db c'.db) := by
  simp only [insertReceipt, Tx.bind_ok] at h
  obtain ⟨existing, c₁, h₁, h⟩ := h
  obtain ⟨rfl, hdb₁⟩ := select_ok h₁
  cases hexisting : c.db.calls.find? fun row =>
      row.instanceId = stamp.instanceId ∧ row.callId = callId receipt with
  | some row =>
      rw [hexisting] at h
      dsimp only at h
      cases hkind : replayKind row receipt with
      | none =>
          rw [hkind] at h
          obtain ⟨rfl, rfl⟩ := Tx.pure_ok.mp h
          have hrow := List.find?_some hexisting
          simp only [decide_eq_true_eq] at hrow
          unfold replayKind at hkind
          split_ifs at hkind with hsame
          exact .inl ⟨rfl, hdb₁, row, List.mem_of_find?_eq_some hexisting, hrow.1, hrow.2, hsame⟩
      | some kind =>
          rw [hkind] at h
          obtain ⟨_, _, -, hraise⟩ := Tx.bind_ok.mp h
          cases hraise
  | none =>
      rw [hexisting] at h
      obtain ⟨bySequence, c₂, h₂, h⟩ := Tx.bind_ok.mp h
      obtain ⟨rfl, hdb₂⟩ := select_ok h₂
      rw [hdb₁] at h hdb₂
      cases hsequence : c.db.calls.find? fun row =>
          row.instanceId = stamp.instanceId ∧ row.family = stamp.family ∧
            row.seq = ledgerSeq receipt with
      | some row =>
          rw [hsequence] at h
          obtain ⟨_, _, -, hraise⟩ := Tx.bind_ok.mp h
          cases hraise
      | none =>
          rw [hsequence] at h
          simp only [Tx.bind_ok, Tx.ofExcept_ok, Tx.pure_ok] at h
          obtain ⟨startedAt, _, ⟨-, rfl⟩, completedAt, _, ⟨-, rfl⟩, assignment, c₃, h₃, _, _,
            ⟨-, rfl⟩, collectedAt, _, ⟨-, rfl⟩, _, c₄, h₄, rfl, rfl⟩ := h
          refine .inr ⟨rfl, fresh_of_find? hexisting hsequence, startedAt, completedAt, assignment,
            collectedAt, ?_⟩
          rw [change_ok h₄, assignmentForCall_ok h₃, hdb₂]

/-- A receipt that conflicts is not fresh, and leaves one conflict. -/
lemma insertReceipt_conflict {e : Raised}
    (h : insertReceipt faults stamp coverage receipt c = (.error e, c'))
    (he : e.isConflict = true) :
    ¬ Fresh stamp receipt c.db.calls ∧ Conflicted stamp c.db c'.db := by
  unfold insertReceipt at h
  rcases Tx.bind_error.mp h with h | ⟨existing, c₁, h₁, h⟩
  · rw [neverConflicts_select _ _ _ _ h] at he
    cases he
  obtain ⟨hexisting, hdb₁⟩ := select_ok h₁
  rw [← hdb₁] at hexisting ⊢
  cases existing with
  | some row =>
      dsimp only at h
      have hrow := List.find?_some hexisting.symm
      simp only [decide_eq_true_eq] at hrow
      cases hkind : replayKind row receipt with
      | none =>
          rw [hkind] at h
          cases h
      | some kind =>
          rw [hkind] at h
          refine ⟨fun hfresh => ?_, recordConflict_raise h he⟩
          exact hfresh.callId row (List.mem_of_find?_eq_some hexisting.symm) hrow.1 hrow.2
  | none =>
      dsimp only at h
      rcases Tx.bind_error.mp h with h | ⟨bySequence, c₂, h₂, h⟩
      · rw [neverConflicts_select _ _ _ _ h] at he
        cases he
      obtain ⟨hsequence, hdb₂⟩ := select_ok h₂
      rw [← hdb₂] at hsequence ⊢
      cases bySequence with
      | some row =>
          have hrow := List.find?_some hsequence.symm
          simp only [decide_eq_true_eq] at hrow
          refine ⟨fun hfresh => ?_, recordConflict_raise h he⟩
          exact hfresh.seq row (List.mem_of_find?_eq_some hsequence.symm) hrow.1 hrow.2.1 hrow.2.2
      | none =>
          have hnever : ∀ {x : Tx Conn Raised Bool}, NeverConflicts x → x c₂ ≠ (.error e, c') := by
            intro x hx hraised
            rw [hx _ _ _ hraised] at he
            cases he
          refine absurd h (hnever ?_)
          refine (neverConflicts_ofExcept (sqlTimestamp_raises _)).bind fun _ => ?_
          refine (neverConflicts_ofExcept (sqlTimestamp_raises _)).bind fun _ => ?_
          refine (neverConflicts_assignmentForCall _ _).bind fun _ => ?_
          refine (neverConflicts_ofExcept (canonicalJsonBytes_raises _)).bind fun _ => ?_
          refine (neverConflicts_ofExcept (sqlTimestamp_raises _)).bind fun _ => ?_
          exact (neverConflicts_change _).bind fun _ => neverConflicts_pure _

/-! ## The receipts of a page -/

/-- What the loop does with these receipts: each is inserted, or a replay. -/
inductive Inserts (stamp : Stamp) (page : ValidatedExport) : List Json → Db → Db → Prop where
  | nil (db : Db) : Inserts stamp page [] db db
  | insert {receipt : Json} {receipts : List Json} {coverage : ValidatedCoverage} {db mid db' : Db}
      (hcoverage : coverage ∈ page.coverageManifests)
      (hdigest : coverage.manifestDigest = coverageDigestOf receipt)
      (hinserted : Inserted stamp coverage receipt db mid)
      (hrest : Inserts stamp page receipts mid db') :
      Inserts stamp page (receipt :: receipts) db db'
  | replay {receipt : Json} {receipts : List Json} {db db' : Db} {row : CallRow}
      (hrow : row ∈ db.calls) (hinstance : row.instanceId = stamp.instanceId)
      (hcall : row.callId = callId receipt) (hrest : Inserts stamp page receipts db db') :
      Inserts stamp page (receipt :: receipts) db db'

omit [PythonText] in
lemma historicalCoverage_ok {digest : String}
    (h : historicalCoverage page digest = .ok coverage) :
    coverage ∈ page.coverageManifests ∧ coverage.manifestDigest = digest := by
  have hfind := orRaise_ok.mp h
  refine ⟨List.mem_reverse.mp (List.mem_of_find?_eq_some hfind), ?_⟩
  simpa using List.find?_some hfind

/-- The loop ends with all receipts stored, or is stopped by one that is not fresh. -/
lemma storeReceipts_ok {receipts : List Json} {inserted idempotent : Nat} {outcome : Outcome}
    (h : storeReceipts faults stamp page receipts inserted idempotent c = (.ok outcome, c')) :
    (outcome.pending = none ∧ Inserts stamp page receipts c.db c'.db) ∨
      ∃ e front receipt rest mid, outcome.pending = some e ∧ e.isConflict = true ∧
        receipts = front ++ receipt :: rest ∧ Inserts stamp page front c.db mid ∧
        ¬ Fresh stamp receipt mid.calls ∧ Conflicted stamp mid c'.db := by
  induction receipts generalizing inserted idempotent c with
  | nil =>
      obtain ⟨rfl, rfl⟩ := Tx.pure_ok.mp h
      exact .inl ⟨rfl, .nil _⟩
  | cons receipt receipts ih =>
      simp only [storeReceipts, Tx.bind_ok, Tx.ofExcept_ok] at h
      obtain ⟨coverage, _, ⟨hcoverage, rfl⟩, result, c₁, h₁, h⟩ := h
      obtain ⟨hmem, hdigest⟩ := historicalCoverage_ok hcoverage
      unfold catchConflict at h₁
      split at h₁
      · rename_i b c₂ hinsert
        cases h₁
        have hone := insertReceipt_ok hinsert
        -- one receipt more in front of what the rest of the loop does
        have hstep : ∀ {front : List Json} {mid : Db}, Inserts stamp page front c₁.db mid →
            Inserts stamp page (receipt :: front) c.db mid := by
          intro front mid hrest
          rcases hone with ⟨-, hdb, row, hrow, hinstance, hcall, -, -⟩ | ⟨-, hinserted⟩
          · rw [hdb] at hrest
            exact .replay hrow hinstance hcall hrest
          · exact .insert hmem hdigest hinserted hrest
        have hrest : (outcome.pending = none ∧ Inserts stamp page receipts c₁.db c'.db) ∨
            ∃ e front receipt rest mid, outcome.pending = some e ∧ e.isConflict = true ∧
              receipts = front ++ receipt :: rest ∧ Inserts stamp page front c₁.db mid ∧
              ¬ Fresh stamp receipt mid.calls ∧ Conflicted stamp mid c'.db := by
          cases b with
          | true => exact ih h
          | false => exact ih h
        rcases hrest with ⟨hnone, hinserts⟩ |
          ⟨e, front, receipt', rest, mid, hpending, he, rfl, hinserts, hfresh, hconflict⟩
        · exact .inl ⟨hnone, hstep hinserts⟩
        · exact .inr ⟨e, receipt :: front, receipt', rest, mid, hpending, he, rfl, hstep hinserts,
            hfresh, hconflict⟩
      · rename_i e c₂ hinsert
        by_cases he : e.isConflict = true
        · rw [if_pos he] at h₁
          cases h₁
          obtain ⟨rfl, rfl⟩ := Tx.pure_ok.mp h
          obtain ⟨hfresh, hconflict⟩ := insertReceipt_conflict hinsert he
          exact .inr ⟨e, [], receipt, receipts, c.db, rfl, he, rfl, .nil _, hfresh, hconflict⟩
        · rw [if_neg he] at h₁
          cases h₁

/-! ## The start of a page -/

/-- Manifests are stored, and nothing else changes. -/
structure StoresManifests (digests : List String) (db db' : Db) : Prop where
  rest : ∃ manifests, db' = { db with manifests := manifests }
  kept : ∀ digest, (db.manifests.find? digest).isSome = true →
    (db'.manifests.find? digest).isSome = true
  stored : ∀ digest ∈ digests, (db'.manifests.find? digest).isSome = true

lemma storeCoverageManifest_ok {u : Unit}
    (h : storeCoverageManifest faults stamp coverage c = (.ok u, c')) :
    StoresManifests [coverage.manifestDigest] c.db c'.db := by
  simp only [storeCoverageManifest, Tx.bind_ok, Tx.ofExcept_ok] at h
  obtain ⟨_, _, ⟨-, rfl⟩, existing, c₁, h₁, h⟩ := h
  obtain ⟨hexisting, hdb⟩ := select_ok h₁
  rw [← hdb] at hexisting ⊢
  cases existing with
  | none =>
      simp only [Tx.bind_ok, Tx.ofExcept_ok] at h
      obtain ⟨moment, _, ⟨-, rfl⟩, h⟩ := h
      have hinsert := execute_ok h
      unfold insertManifest at hinsert
      split at hinsert
      · rename_i manifests hmanifests
        simp only [except_pure_ok, Prod.mk.injEq] at hinsert
        rw [← hinsert.2]
        refine ⟨⟨manifests, rfl⟩, fun digest hdigest => ?_, fun digest hdigest => ?_⟩
        · rw [Table.find?_insert? hmanifests]
          split_ifs
          · rfl
          · exact hdigest
        · rw [Table.find?_insert? hmanifests, if_pos (List.mem_singleton.mp hdigest).symm]
          rfl
      · cases hinsert
  | some row =>
      simp only [Tx.bind_ok, Tx.ofExcept_ok] at h
      obtain ⟨_, _, ⟨-, rfl⟩, _, _, ⟨-, rfl⟩, moment, _, ⟨-, rfl⟩, h⟩ := h
      have hfind : ∀ digest, (c'.db.manifests.find? digest).isSome =
          (c₁.db.manifests.find? digest).isSome := by
        intro digest
        rw [change_ok h, Db.touchManifest, Table.find?_updateWhere, Option.isSome_map]
      refine ⟨⟨c'.db.manifests, ?_⟩, fun digest hdigest => ?_, fun digest hdigest => ?_⟩
      · rw [change_ok h]
        rfl
      · rw [hfind]
        exact hdigest
      · rw [hfind, List.mem_singleton.mp hdigest, ← hexisting]
        rfl

omit [PythonText] in
lemma StoresManifests.trans {digests digests' : List String} {db mid db' : Db}
    (h : StoresManifests digests db mid) (h' : StoresManifests digests' mid db') :
    StoresManifests (digests ++ digests') db db' where
  rest := by
    obtain ⟨manifests, rfl⟩ := h.rest
    obtain ⟨manifests', rfl⟩ := h'.rest
    exact ⟨manifests', rfl⟩
  kept digest hdigest := h'.kept digest (h.kept digest hdigest)
  stored digest hdigest := by
    rcases List.mem_append.mp hdigest with hdigest | hdigest
    · exact h'.kept digest (h.stored digest hdigest)
    · exact h'.stored digest hdigest

lemma storeManifests_ok {coverages : List ValidatedCoverage} {u : Unit}
    (h : forEachTx (storeCoverageManifest faults stamp) coverages c = (.ok u, c')) :
    StoresManifests (coverages.map ValidatedCoverage.manifestDigest) c.db c'.db := by
  induction coverages generalizing c with
  | nil =>
      obtain ⟨-, rfl⟩ := Tx.pure_ok.mp h
      exact ⟨⟨_, rfl⟩, fun _ h => h, nofun⟩
  | cons coverage coverages ih =>
      obtain ⟨_, c₁, h₁, h₂⟩ := Tx.bind_ok.mp h
      exact (storeCoverageManifest_ok h₁).trans (ih h₂)

/-- The tables when the receipts of a page are about to be stored. -/
structure PageStart (stamp : Stamp) (page : ValidatedExport) (db db' : Db) : Prop where
  rest : ∃ manifests, db' = { insertIgnore (newCursor stamp) db with manifests := manifests }
  cursor : ∃ row, db'.cursors.find? stamp.instanceId = some row ∧ row.family = stamp.family ∧
    row.lastLedgerSeq = page.after
  kept : ∀ digest, (db.manifests.find? digest).isSome = true →
    (db'.manifests.find? digest).isSome = true
  stored : ∀ coverage ∈ page.coverageManifests,
    (db'.manifests.find? coverage.manifestDigest).isSome = true

omit [PythonText] in
lemma ensureCursorLocked_ok {after : Int} {u : Unit}
    (h : ensureCursorLocked faults stamp after c = (.ok u, c')) :
    c'.db = insertIgnore (newCursor stamp) c.db ∧
      ∃ row, c'.db.cursors.find? stamp.instanceId = some row ∧ row.family = stamp.family ∧
        row.lastLedgerSeq = after := by
  simp only [ensureCursorLocked, Tx.bind_ok, Tx.ofExcept_ok, orRaise_ok, check_ok] at h
  obtain ⟨_, c₁, h₁, found, c₂, h₂, row, _, ⟨hfound, rfl⟩, _, _, ⟨hfamily, rfl⟩, hafter, rfl⟩ := h
  obtain ⟨hrow, hdb⟩ := select_ok h₂
  refine ⟨hdb.trans (change_ok h₁), row, ?_, hfamily, hafter⟩
  rw [hdb, ← hrow, hfound]

omit [PythonText] in
lemma insertIgnore_manifests (row : CursorRow) (db : Db) :
    (insertIgnore row db).manifests = db.manifests := by
  unfold insertIgnore
  split
  · rfl
  · rfl

/-- What a page does within its transaction. -/
lemma storePage_ok {db : Db} {outcome : Outcome}
    (h : storePage faults stamp coverage page ⟨db, 0⟩ = (.ok outcome, c')) :
    ∃ start, PageStart stamp page db start ∧
      ((outcome.pending = none ∧ ∃ filled moment, Inserts stamp page page.receipts start filled ∧
          c'.db = filled.updateCursor stamp.instanceId
            (advancedCursor stamp coverage page moment)
            (advancedCursor_instanceId stamp coverage page moment)) ∨
        ∃ e front receipt rest mid, outcome.pending = some e ∧ e.isConflict = true ∧
          page.receipts = front ++ receipt :: rest ∧ Inserts stamp page front start mid ∧
          ¬ Fresh stamp receipt mid.calls ∧ Conflicted stamp mid c'.db) := by
  simp only [storePage, Tx.bind_ok] at h
  obtain ⟨_, c₀, h₀, _, c₁, h₁, _, c₂, h₂, _, c₃, h₃, outcome', c₄, h₄, h⟩ := h
  have hbegin : c₀.db = db := change_ok h₀
  obtain ⟨hcursors, row, hrow, hfamily, hafter⟩ := ensureCursorLocked_ok h₁
  rw [hbegin] at hcursors
  have hmanifests := (storeCoverageManifest_ok h₂).trans (storeManifests_ok h₃)
  have hstart : PageStart stamp page db c₃.db := by
    obtain ⟨manifests, hrest⟩ := hmanifests.rest
    refine ⟨⟨manifests, ?_⟩, ⟨row, ?_, hfamily, hafter⟩, fun digest hdigest => ?_,
      fun coverage' hcoverage => ?_⟩
    · rw [hrest, hcursors]
    · rw [hrest]
      exact hrow
    · refine hmanifests.kept digest ?_
      rw [hcursors, insertIgnore_manifests]
      exact hdigest
    · exact hmanifests.stored _ (List.mem_append_right _ (List.mem_map_of_mem hcoverage))
  refine ⟨c₃.db, hstart, ?_⟩
  rcases storeReceipts_ok h₄ with ⟨hnone, hinserts⟩ |
    ⟨e, front, receipt, rest, mid, hpending, he, hreceipts, hinserts, hfresh, hconflict⟩
  · rw [hnone] at h
    simp only [Tx.bind_ok, Tx.ofExcept_ok, Tx.pure_ok] at h
    obtain ⟨moment, _, ⟨-, rfl⟩, _, _, ⟨-, rfl⟩, _, c₅, h₅, rfl, rfl⟩ := h
    exact .inl ⟨hnone, c₄.db, moment, hinserts, change_ok h₅⟩
  · rw [hpending] at h
    obtain ⟨rfl, rfl⟩ := Tx.pure_ok.mp h
    exact .inr ⟨e, front, receipt, rest, mid, hpending, he, hreceipts, hinserts, hfresh, hconflict⟩

/-! ## Exceptions of a page -/

omit [PythonText] in
lemma neverConflicts_check {condition : Prop} [Decidable condition] {message : String} :
    NeverConflicts (Tx.ofExcept (check condition message) : Tx Conn Raised Unit) :=
  neverConflicts_ofExcept (onlyRaises_require.mpr (.inr rfl))

omit [PythonText] in
lemma neverConflicts_ensureCursorLocked (after : Int) :
    NeverConflicts (ensureCursorLocked faults stamp after) := by
  unfold ensureCursorLocked
  refine (neverConflicts_change _).bind fun _ => (neverConflicts_select _).bind fun _ => ?_
  refine (neverConflicts_ofExcept (onlyRaises_orRaise.mpr fun _ => rfl)).bind fun _ => ?_
  exact neverConflicts_check.bind fun _ => neverConflicts_check

lemma neverConflicts_storeCoverageManifest (coverage : ValidatedCoverage) :
    NeverConflicts (storeCoverageManifest faults stamp coverage) := by
  unfold storeCoverageManifest
  refine (neverConflicts_ofExcept (canonicalJsonBytes_raises _)).bind fun text => ?_
  refine (neverConflicts_select _).bind fun existing => ?_
  cases existing with
  | none =>
      refine (neverConflicts_ofExcept (sqlTimestamp_raises _)).bind fun moment => ?_
      intro c e c' h
      unfold execute insertManifest at h
      split at h
      · cases h
        rfl
      · split at h
        · cases h
        · rename_i hraised
          cases h
          split at hraised
          · cases hraised
          · cases hraised
            rfl
  | some row =>
      refine (neverConflicts_ofExcept (canonicalJsonBytes_raises _)).bind fun _ => ?_
      refine neverConflicts_check.bind fun _ => ?_
      exact (neverConflicts_ofExcept (sqlTimestamp_raises _)).bind fun _ => neverConflicts_change _

lemma neverConflicts_storeManifests (coverages : List ValidatedCoverage) :
    NeverConflicts (forEachTx (storeCoverageManifest faults stamp) coverages) := by
  induction coverages with
  | nil => exact neverConflicts_pure _
  | cons coverage coverages ih => exact (neverConflicts_storeCoverageManifest _).bind fun _ => ih

lemma neverConflicts_storeReceipts (receipts : List Json) (inserted idempotent : Nat) :
    NeverConflicts (storeReceipts faults stamp page receipts inserted idempotent) := by
  induction receipts generalizing inserted idempotent with
  | nil => exact neverConflicts_pure _
  | cons receipt receipts ih =>
      unfold storeReceipts
      refine (neverConflicts_ofExcept (onlyRaises_orRaise.mpr fun _ => rfl)).bind fun coverage => ?_
      refine NeverConflicts.bind (fun c e c' h => ?_) fun result => ?_
      · unfold catchConflict at h
        split at h
        · cases h
        · split_ifs at h with he
          · cases h
          · cases h
            simpa using he
      · rcases result with (_ | _) | e
        · exact ih _ _
        · exact ih _ _
        · exact neverConflicts_pure _

lemma neverConflicts_storePage : NeverConflicts (storePage faults stamp coverage page) := by
  unfold storePage
  refine (neverConflicts_change _).bind fun _ => ?_
  refine (neverConflicts_ensureCursorLocked _).bind fun _ => ?_
  refine (neverConflicts_storeCoverageManifest _).bind fun _ => ?_
  refine (neverConflicts_storeManifests _).bind fun _ => ?_
  refine (neverConflicts_storeReceipts _ _ _).bind fun outcome => ?_
  cases outcome.pending with
  | some e => exact neverConflicts_pure _
  | none =>
      refine (neverConflicts_ofExcept (sqlTimestamp_raises _)).bind fun _ => ?_
      refine (neverConflicts_ofExcept (canonicalJsonBytes_raises _)).bind fun _ => ?_
      exact (neverConflicts_change _).bind fun _ => neverConflicts_pure _

/-! ## What a page can do -/

/-- What `store_export_page` leaves: the tables as they were, or with a part of the page and one
conflict, or with the page and the cursor after it. -/
inductive PageEffect (stamp : Stamp) (coverage : ValidatedCoverage) (page : ValidatedExport)
    (db : Db) : Except Raised Stored → Db → Prop where
  | failed {e : Raised} (he : e.isConflict = false) :
      PageEffect stamp coverage page db (.error e) db
  | stopped {e : Raised} {start mid db' : Db} {front rest : List Json} {receipt : Json}
      (he : e.isConflict = true) (hstart : PageStart stamp page db start)
      (hreceipts : page.receipts = front ++ receipt :: rest)
      (hinserts : Inserts stamp page front start mid) (hfresh : ¬ Fresh stamp receipt mid.calls)
      (hconflict : Conflicted stamp mid db') : PageEffect stamp coverage page db (.error e) db'
  | advanced {stored : Stored} {start filled : Db} {moment : Int}
      (hstart : PageStart stamp page db start)
      (hinserts : Inserts stamp page page.receipts start filled) :
      PageEffect stamp coverage page db (.ok stored)
        (filled.updateCursor stamp.instanceId (advancedCursor stamp coverage page moment)
          (advancedCursor_instanceId stamp coverage page moment))

theorem storeExportPage_effect {db db' : Db} {result : Except Raised Stored}
    (h : storeExportPage faults stamp coverage page db = (result, db')) :
    PageEffect stamp coverage page db result db' := by
  unfold storeExportPage at h
  split at h
  · rename_i e c hpage
    cases h
    exact .failed (neverConflicts_storePage _ _ _ hpage)
  · rename_i outcome c hpage
    split at h
    · cases h
      exact .failed rfl
    · obtain ⟨start, hstart, ⟨hnone, filled, moment, hinserts, hdb⟩ |
        ⟨e, front, receipt, rest, mid, hpending, he, hreceipts, hinserts, hfresh, hconflict⟩⟩ :=
        storePage_ok hpage
      · rw [hnone] at h
        cases h
        rw [hdb]
        exact .advanced hstart hinserts
      · rw [hpending] at h
        cases h
        exact .stopped he hstart hreceipts hinserts hfresh hconflict

end pages

/-! ## The invariant -/

/-- The rows of the usage calls are consistent: unique call ids and sequences for each instance, one
family for each instance, and a stored manifest for each row. -/
structure Consistent (db : Db) : Prop where
  callIds : (db.calls.map fun row => (row.instanceId, row.callId)).Nodup
  seqs : (db.calls.map fun row => (row.instanceId, row.seq)).Nodup
  families : ∀ row ∈ db.calls, ∃ cursor, db.cursors.find? row.instanceId = some cursor ∧
    cursor.family = row.family
  references : ∀ row ∈ db.calls, row.coverageDigest = coverageDigestOf row.receipt ∧
    (db.manifests.find? row.coverageDigest).isSome = true

section invariant

variable {stamp : Stamp} {coverage : ValidatedCoverage} {page : ValidatedExport} {receipt : Json}
  {db db' : Db}

lemma find?_updateCursor (db : Db) {instanceId : String} {f : CursorRow → CursorRow}
    {hf : ∀ row, (f row).instanceId = row.instanceId} (key : String) :
    (db.updateCursor instanceId f hf).cursors.find? key =
      (db.cursors.find? key).map fun row => if row.instanceId = instanceId then f row else row := by
  unfold Db.updateCursor
  rw [Table.find?_updateWhere]
  simp only [decide_eq_true_eq]

/-- A change of a cursor that keeps the family. -/
lemma Consistent.updateCursor (h : Consistent db) {instanceId : String}
    {f : CursorRow → CursorRow} {hf : ∀ row, (f row).instanceId = row.instanceId}
    (hfamily : ∀ row, (f row).family = row.family) :
    Consistent (db.updateCursor instanceId f hf) where
  callIds := h.callIds
  seqs := h.seqs
  families row hrow := by
    obtain ⟨cursor, hcursor, hsame⟩ := h.families row hrow
    refine ⟨if cursor.instanceId = instanceId then f cursor else cursor, ?_, ?_⟩
    · rw [find?_updateCursor, hcursor]
      rfl
    · split_ifs
      · rw [hfamily, hsame]
      · exact hsame
  references := h.references

lemma find?_insertIgnore (row : CursorRow) (db : Db) {key : String} {cursor : CursorRow}
    (h : db.cursors.find? key = some cursor) :
    (insertIgnore row db).cursors.find? key = some cursor := by
  unfold insertIgnore
  split
  · rename_i cursors hinsert
    rw [Table.find?_insert? hinsert]
    split_ifs with hkey
    · subst hkey
      rw [Table.find?_none_of_insert? hinsert] at h
      cases h
    · exact h
  · exact h

lemma insertIgnore_calls (row : CursorRow) (db : Db) : (insertIgnore row db).calls = db.calls := by
  unfold insertIgnore
  split
  · rfl
  · rfl

lemma PageStart.calls (h : PageStart stamp page db db') : db'.calls = db.calls := by
  obtain ⟨manifests, rfl⟩ := h.rest
  exact insertIgnore_calls _ _

lemma PageStart.cursors (h : PageStart stamp page db db') :
    db'.cursors = (insertIgnore (newCursor stamp) db).cursors := by
  obtain ⟨manifests, rfl⟩ := h.rest
  rfl

lemma PageStart.conflicts (h : PageStart stamp page db db') : db'.conflicts = db.conflicts := by
  obtain ⟨manifests, rfl⟩ := h.rest
  unfold insertIgnore
  split
  · rfl
  · rfl

lemma Consistent.pageStart (h : Consistent db) (hstart : PageStart stamp page db db') :
    Consistent db' where
  callIds := by
    rw [hstart.calls]
    exact h.callIds
  seqs := by
    rw [hstart.calls]
    exact h.seqs
  families row hrow := by
    rw [hstart.calls] at hrow
    obtain ⟨cursor, hcursor, hsame⟩ := h.families row hrow
    refine ⟨cursor, ?_, hsame⟩
    rw [hstart.cursors]
    exact find?_insertIgnore _ _ hcursor
  references row hrow := by
    rw [hstart.calls] at hrow
    exact ⟨(h.references row hrow).1, hstart.kept _ (h.references row hrow).2⟩

/-- The state of the tables while the receipts of a page are stored. -/
structure Storing (stamp : Stamp) (page : ValidatedExport) (db : Db) : Prop where
  consistent : Consistent db
  cursor : ∃ row, db.cursors.find? stamp.instanceId = some row ∧ row.family = stamp.family ∧
    row.lastLedgerSeq = page.after
  stored : ∀ coverage ∈ page.coverageManifests,
    (db.manifests.find? coverage.manifestDigest).isSome = true

/-- One receipt more. -/
lemma Storing.inserted (h : Storing stamp page db) (hcoverage : coverage ∈ page.coverageManifests)
    (hdigest : coverage.manifestDigest = coverageDigestOf receipt)
    (hinserted : Inserted stamp coverage receipt db db') : Storing stamp page db' := by
  obtain ⟨hfresh, startedAt, completedAt, assignment, collectedAt, rfl⟩ := hinserted
  obtain ⟨cursor, hcursor, hfamily, hafter⟩ := h.cursor
  refine ⟨⟨?_, ?_, fun row hrow => ?_, fun row hrow => ?_⟩, ⟨cursor, hcursor, hfamily, hafter⟩,
    h.stored⟩
  · rw [List.map_append, List.nodup_append]
    refine ⟨h.consistent.callIds, List.nodup_singleton _, ?_⟩
    rintro a ha b hb rfl
    obtain ⟨row, hrow, hkey⟩ := List.mem_map.mp ha
    rw [List.map_singleton, List.mem_singleton] at hb
    rw [hb, Prod.mk.injEq] at hkey
    exact hfresh.callId row hrow hkey.1 hkey.2
  · rw [List.map_append, List.nodup_append]
    refine ⟨h.consistent.seqs, List.nodup_singleton _, ?_⟩
    rintro a ha b hb rfl
    obtain ⟨row, hrow, hkey⟩ := List.mem_map.mp ha
    rw [List.map_singleton, List.mem_singleton] at hb
    rw [hb, Prod.mk.injEq] at hkey
    -- all rows of the instance have the family of its cursor
    obtain ⟨cursor', hcursor', hsame⟩ := h.consistent.families row hrow
    have hinstance : row.instanceId = stamp.instanceId := hkey.1
    rw [hinstance, hcursor] at hcursor'
    cases hcursor'
    exact hfresh.seq row hrow hinstance (hsame.symm.trans hfamily) hkey.2
  · rcases List.mem_append.mp hrow with hrow | hrow
    · exact h.consistent.families row hrow
    · rw [List.mem_singleton.mp hrow]
      exact ⟨cursor, hcursor, hfamily⟩
  · rcases List.mem_append.mp hrow with hrow | hrow
    · exact h.consistent.references row hrow
    · rw [List.mem_singleton.mp hrow]
      exact ⟨hdigest, h.stored coverage hcoverage⟩

lemma Storing.inserts (h : Storing stamp page db) {receipts : List Json}
    (hinserts : Inserts stamp page receipts db db') : Storing stamp page db' := by
  induction hinserts with
  | nil => exact h
  | insert hcoverage hdigest hinserted _ ih => exact ih (h.inserted hcoverage hdigest hinserted)
  | replay _ _ _ _ ih => exact ih h

/-- Receipts are appended, and nothing else changes. -/
lemma Inserts.appends {receipts : List Json} (h : Inserts stamp page receipts db db') :
    ∃ rows, db' = { db with calls := db.calls ++ rows } := by
  induction h with
  | nil db => exact ⟨[], by simp⟩
  | insert _ _ hinserted _ ih =>
      obtain ⟨-, startedAt, completedAt, assignment, collectedAt, rfl⟩ := hinserted
      obtain ⟨rows, rfl⟩ := ih
      exact ⟨_ :: rows, by rw [List.append_assoc, List.singleton_append]⟩
  | replay _ _ _ _ ih => exact ih

lemma PageStart.storing (hstart : PageStart stamp page db db') (h : Consistent db) :
    Storing stamp page db' := ⟨h.pageStart hstart, hstart.cursor, hstart.stored⟩

/-- Every page keeps the tables consistent. -/
theorem Consistent.keeps {result : Except Raised Stored} (h : Consistent db)
    (heffect : PageEffect stamp coverage page db result db') : Consistent db' := by
  cases heffect with
  | failed => exact h
  | stopped he hstart hreceipts hinserts hfresh hconflict =>
      obtain ⟨row, moment, kind, detail, -, rfl⟩ := hconflict
      obtain ⟨hcallIds, hseqs, hfamilies, hreferences⟩ :=
        ((hstart.storing h).inserts hinserts).consistent
      refine Consistent.updateCursor ?_ fun _ => rfl
      exact ⟨hcallIds, hseqs, hfamilies, hreferences⟩
  | advanced hstart hinserts =>
      exact ((hstart.storing h).inserts hinserts).consistent.updateCursor fun _ => rfl

/-- The sequence that collection has reached, 0 where there is no cursor. -/
def Db.lastSeq (db : Db) (instanceId : String) : Int :=
  ((db.cursors.find? instanceId).map CursorRow.lastLedgerSeq).getD 0

/-- What a page does to the cursors: those of other instances stay. -/
lemma PageStart.lastSeq (hstart : PageStart stamp page db db') (instanceId : String) :
    db'.lastSeq instanceId = db.lastSeq instanceId := by
  unfold Db.lastSeq
  rw [hstart.cursors]
  unfold insertIgnore
  split
  · rename_i cursors hinsert
    rw [Table.find?_insert? hinsert]
    split_ifs with hkey
    · have hnone := Table.find?_none_of_insert? hinsert
      rw [hkey] at hnone
      rw [hnone]
      rfl
    · rfl
  · rfl

lemma Inserts.lastSeq {receipts : List Json} (h : Inserts stamp page receipts db db')
    (instanceId : String) : db'.lastSeq instanceId = db.lastSeq instanceId := by
  obtain ⟨rows, rfl⟩ := h.appends
  rfl

lemma lastSeq_updateCursor {key : String} {f : CursorRow → CursorRow}
    {hf : ∀ row, (f row).instanceId = row.instanceId} (instanceId : String) :
    (db.updateCursor key f hf).lastSeq instanceId =
      ((db.cursors.find? instanceId).map fun row =>
        if row.instanceId = key then (f row).lastLedgerSeq else row.lastLedgerSeq).getD 0 := by
  unfold Db.lastSeq
  rw [find?_updateCursor, Option.map_map]
  congr 2
  funext row
  simp only [Function.comp_apply]
  split_ifs
  · rfl
  · rfl

lemma Conflicted.lastSeq (h : Conflicted stamp db db') (instanceId : String) :
    db'.lastSeq instanceId = db.lastSeq instanceId := by
  obtain ⟨row, moment, kind, detail, -, rfl⟩ := h
  rw [lastSeq_updateCursor]
  unfold Db.lastSeq conflictedCursor
  congr 2
  funext row
  simp

/-- The next cursor is not before the last one. -/
lemma Accepted.after_le_next (h : Accepted page) : page.after ≤ page.nextCursor := by
  rw [h.next, expectedNext]
  cases hlast : (page.receipts.map ledgerSeq).getLast? with
  | none => simp
  | some last =>
      obtain ⟨receipt, hreceipt, rfl⟩ := List.mem_map.mp (List.mem_of_getLast? hlast)
      exact (h.above receipt hreceipt).le

/-- The sequence never decreases. -/
theorem PageEffect.lastSeq_le {result : Except Raised Stored} (hpage : Accepted page)
    (h : PageEffect stamp coverage page db result db') (instanceId : String) :
    db.lastSeq instanceId ≤ db'.lastSeq instanceId := by
  cases h with
  | failed => exact le_refl _
  | stopped he hstart hreceipts hinserts hfresh hconflict =>
      rw [hconflict.lastSeq, hinserts.lastSeq, hstart.lastSeq]
  | @advanced stored start filled moment hstart hinserts =>
      rw [← hstart.lastSeq, ← hinserts.lastSeq, lastSeq_updateCursor]
      unfold Db.lastSeq
      cases hfind : filled.cursors.find? instanceId with
      | none => exact le_refl _
      | some row =>
          simp only [Option.map_some, Option.getD_some]
          split_ifs with hkey
          · -- the cursor under the lock is the one the page starts from
            obtain ⟨cursor, hcursor, -, hafter⟩ := hstart.cursor
            obtain ⟨rows, rfl⟩ := hinserts.appends
            have hinstance : instanceId = stamp.instanceId :=
              (Table.key_of_find? hfind).symm.trans hkey
            have hsame : cursor = row := by
              rw [hinstance] at hfind
              exact Option.some.inj (hcursor.symm.trans hfind)
            rw [← hsame, hafter]
            exact hpage.after_le_next
          · exact le_refl _

/-- Rows are only appended. -/
theorem PageEffect.calls_isPrefix {result : Except Raised Stored}
    (h : PageEffect stamp coverage page db result db') : db.calls <+: db'.calls := by
  cases h with
  | failed => exact List.prefix_refl _
  | stopped he hstart hreceipts hinserts hfresh hconflict =>
      obtain ⟨row, moment, kind, detail, -, rfl⟩ := hconflict
      obtain ⟨rows, rfl⟩ := hinserts.appends
      rw [← hstart.calls]
      exact List.prefix_append _ _
  | advanced hstart hinserts =>
      obtain ⟨rows, rfl⟩ := hinserts.appends
      rw [← hstart.calls]
      exact List.prefix_append _ _

end invariant

/-! ## Any sequence of pages -/

section runs

variable [PythonText]

/-- A call of `store_export_page` with values that the contract accepts. -/
structure StoreCall where
  faults : Faults
  stamp : Stamp
  coverage : ValidatedCoverage
  page : ValidatedExport
  manifest : Json
  payload : Json
  after : Int
  family : String
  coverage_ok : validateCoverage manifest family = .ok coverage
  page_ok : validateExport payload after family = .ok page

/-- The call on the tables. -/
def StoreCall.run (call : StoreCall) (db : Db) : Except Raised Stored × Db :=
  storeExportPage call.faults call.stamp call.coverage call.page db

/-- The tables after a call. -/
def storeStep (call : StoreCall) (db : Db) : Option Db := some (call.run db).2

/-- Tables without usage. -/
def Db.Fresh (db : Db) : Prop :=
  db.calls = [] ∧ db.manifests = .empty ∧ db.cursors = .empty ∧ db.conflicts = []

lemma consistent_of_reaches {db₀ db : Db} (h₀ : db₀.Fresh)
    (h : Reaches storeStep AnyStep db₀ db) : Consistent db := by
  refine h.invariant ?_ ?_
  · obtain ⟨hcalls, -⟩ := h₀
    refine ⟨?_, ?_, fun row hrow => ?_, fun row hrow => ?_⟩
    · simp [hcalls]
    · simp [hcalls]
    · simp [hcalls] at hrow
    · simp [hcalls] at hrow
  · intro a b call ha _ hstep
    cases hstep
    exact ha.keeps (storeExportPage_effect (Prod.mk.eta).symm)

/-- The usage store stays consistent whatever the producer exports. -/
theorem usage_store_consistent {db₀ db : Db} (h₀ : db₀.Fresh)
    (hreach : Reaches storeStep AnyStep db₀ db) (call : StoreCall) :
    Consistent db ∧
      (∀ instanceId, db.lastSeq instanceId ≤ (call.run db).2.lastSeq instanceId) ∧
      db.calls <+: (call.run db).2.calls ∧
      (∀ e, (call.run db).1 = .error e → e.isConflict = false → (call.run db).2 = db) ∧
      ∀ e, (call.run db).1 = .error e → e.isConflict = true →
        (∃ row, (call.run db).2.conflicts = db.conflicts ++ [row]) ∧
          ∀ instanceId, (call.run db).2.lastSeq instanceId = db.lastSeq instanceId := by
  have heffect : PageEffect call.stamp call.coverage call.page db (call.run db).1
      (call.run db).2 := storeExportPage_effect (Prod.mk.eta).symm
  have hpage := (accepted_of_validateExport call.page_ok).1
  refine ⟨consistent_of_reaches h₀ hreach, heffect.lastSeq_le hpage, heffect.calls_isPrefix, ?_, ?_⟩
  · intro e he hconflict
    rw [he] at heffect
    generalize (call.run db).2 = db' at heffect
    cases heffect with
    | failed => rfl
    | stopped hconflict' =>
        rw [hconflict] at hconflict'
        cases hconflict'
  · intro e he hconflict
    rw [he] at heffect
    generalize (call.run db).2 = db' at heffect
    cases heffect with
    | failed hconflict' =>
        rw [hconflict] at hconflict'
        cases hconflict'
    | stopped _ hstart hreceipts hinserts hfresh hconflicted =>
        refine ⟨?_, fun instanceId => ?_⟩
        · obtain ⟨row, moment, kind, detail, -, rfl⟩ := hconflicted
          obtain ⟨rows, rfl⟩ := hinserts.appends
          exact ⟨row, by rw [← hstart.conflicts]; rfl⟩
        · rw [hconflicted.lastSeq, hinserts.lastSeq, hstart.lastSeq]

end runs

/-! ## A run -/

section samples

/-- A reader of texts that knows one time. -/
@[reducible] def sampleText : PythonText where
  isSpace c := c = ' '
  fromisoformat text :=
    if text = "2026-07-01T00:00:00+00:00" then .utc 1782864000000000 else .invalid
  isNonFinite text := text = "NaN"

attribute [local instance] sampleText

/-- A surface. -/
def sampleSurface : Json :=
  .obj [("gapCode", .null), ("meterFamily", .str "tokens"),
    ("modelEvidence", .str "provider_response"), ("observationKind", .str "per_call"),
    ("retryObservation", .str "physical_attempt"), ("status", .str "implemented"),
    ("surfaceCode", .str "chat"), ("usageObservation", .str "provider_reported")]

/-- A manifest of one surface, without its status and its digest. -/
def sampleManifestBody : List (String × Json) :=
  [("productFamily", .str "hermes"), ("schema", .str "jitech-provider-usage-coverage/v1"),
    ("surfaces", .arr [sampleSurface])]

/-- The digest of the manifest. -/
def sampleManifestDigest : String :=
  "sha256:a5416fbef1d3721ffec1f2f748eed70786c3a5df5e02ade472732ce0f6f8a560"

/-- The manifest. -/
def sampleManifest : Json :=
  .obj (("coverageStatus", .str "complete") :: ("manifestDigest", .str sampleManifestDigest) ::
    sampleManifestBody)

/-- What is read off the manifest. -/
def sampleCoverage : ValidatedCoverage where
  family := "hermes"
  manifestDigest := sampleManifestDigest
  status := "complete"
  surfaces := [sampleSurface]

lemma sampleManifest_without : without ["manifestDigest"] sampleManifest =
    .obj (("coverageStatus", .str "complete") :: sampleManifestBody) := by
  simp [without, sampleManifest, sampleManifestBody]

lemma sampleManifest_digest : sha256Digest (without ["manifestDigest"] sampleManifest) =
    .ok sampleManifestDigest := by
  rw [sampleManifest_without]
  decide +kernel

lemma sampleManifest_surfaces :
    sampleManifest.field "surfaces" = .arr sampleCoverage.surfaces := rfl

lemma validateCoverage_sampleManifest :
    validateCoverage sampleManifest "hermes" = .ok sampleCoverage := by
  simp only [validateCoverage, except_bind_ok, check_ok, exists_and_left, exists_const]
  refine ⟨(), rfl, rfl, "hermes", rfl, by decide, rfl, sampleManifestDigest, rfl, rfl,
    sampleManifestDigest, sampleManifest_digest, rfl, "complete", rfl, .inl rfl, ?_⟩
  rw [sampleManifest_surfaces]
  simp only [except_bind_ok, check_ok, except_pure_ok, exists_and_left, exists_const]
  exact ⟨List.cons_ne_nil _ _, ["chat"], rfl,
    (sortedSet_of_pairwise (List.pairwise_singleton _ _)).symm, rfl, rfl⟩

/-- A receipt without its sequence and its digest. -/
def sampleReceiptBody : List (String × Json) × List (String × Json) × List (String × Json) :=
  ([("actual", .obj [("evidenceSource", .null), ("model", .null), ("provider", .null),
      ("responseId", .null)]),
    ("attempt", .int 1), ("callId", .str "call-1"), ("completedAt", .str "2026-07-01T00:00:00Z"),
    ("configured", .obj [("model", .str "m"), ("provider", .str "p")]),
    ("errorCategory", .str "e"), ("fallbackIndex", .int 0), ("fallbackParent", .null),
    ("finishReason", .null)],
   [("missingReceiptFields", .arr []), ("missingUsageFields", .arr []),
    ("producerCoverageDigest", .str sampleManifestDigest), ("receiptCoverage", .str "complete")],
   [("requestId", .str "q"),
    ("requested", .obj [("model", .str "m"), ("provider", .str "p")]), ("retryOf", .null),
    ("runId", .str "r"), ("schema", .str "jitech-provider-usage-call/v1"),
    ("sessionId", .str "s"), ("startedAt", .str "2026-07-01T00:00:00Z"),
    ("status", .str "failed"), ("trigger", .str "user"), ("turnId", .str "t"),
    ("usage", .obj [("cacheRead", .int 0), ("cacheWrite", .int 0), ("inputNonCached", .int 0),
      ("inputTotal", .int 0), ("outputCandidates", .int 0), ("providerReportedTotal", .int 0),
      ("rawProviderUsage", .obj []), ("reasoningThinking", .int 0), ("serviceTier", .str "s"),
      ("toolUsePrompt", .int 0)]),
    ("usageCoverage", .str "complete")])

/-- The digest of the receipt. -/
def sampleReceiptDigest : String :=
  "sha256:bd28e9d8aa988cac51e5493154eb1f39318ee5922d7cbf9586211091eafcfffb"

/-- The receipt under a sequence. -/
def sampleReceipt (seq : Int) : Json :=
  .obj (sampleReceiptBody.1 ++ [("ledgerSeq", .int seq)] ++ sampleReceiptBody.2.1 ++
    [("receiptDigest", .str sampleReceiptDigest)] ++ sampleReceiptBody.2.2)

lemma sampleReceipt_without (seq : Int) :
    without ["ledgerSeq", "receiptDigest"] (sampleReceipt seq) =
      .obj (sampleReceiptBody.1 ++ sampleReceiptBody.2.1 ++ sampleReceiptBody.2.2) := by
  simp only [without, sampleReceipt, sampleReceiptBody]
  simp [List.filter]

lemma receiptDigest_sampleReceipt (seq : Int) :
    receiptDigest (sampleReceipt seq) = .ok sampleReceiptDigest := by
  rw [receiptDigest, sampleReceipt_without]
  decide +kernel

lemma validateDigests_sampleReceipt (seq : Int) : validateDigests (sampleReceipt seq) = .ok () := by
  simp only [validateDigests, except_bind_ok, check_ok, exists_and_left, exists_const]
  exact ⟨sampleReceiptDigest, rfl, rfl, sampleReceiptDigest, receiptDigest_sampleReceipt seq, rfl,
    sampleManifestDigest, rfl, rfl⟩

lemma validateMissing_sampleReceipt (seq : Int) : validateMissing (sampleReceipt seq) = .ok () := by
  rfl

lemma validateUsage_sampleReceipt (seq : Int) :
    validateUsage ((sampleReceipt seq).field "usage") = .ok () := by
  rfl

lemma exactKeys_sampleReceipt (seq : Int) :
    exactKeys (sampleReceipt seq) callKeys "receipt" = .ok () := by
  rfl

lemma validateCallReceipt_sampleReceipt {seq : Int} (h : 1 ≤ seq) :
    validateCallReceipt (sampleReceipt seq) = .ok () := by
  simp only [validateCallReceipt, except_bind_ok, check_ok, requireEach_ok, exists_and_left,
    exists_const]
  refine ⟨(), exactKeys_sampleReceipt seq, rfl, (), ?_, (), validateDigests_sampleReceipt seq, (),
    rfl, ?_, (), rfl, (), rfl, 0, rfl, fun _ => rfl, fun h => (h rfl).elim, 1782864000000000, rfl,
    1782864000000000, rfl, le_refl _, (), rfl, ?_, (), rfl, ?_, (),
    validateUsage_sampleReceipt seq, validateMissing_sampleReceipt seq⟩
  · have hseq : integer ((sampleReceipt seq).field "ledgerSeq") "receipt.ledgerSeq" 1 = .ok seq :=
      integer_ok.mpr ⟨rfl, h⟩
    rw [hseq]
    rfl
  · simp only [List.forall_mem_cons, List.not_mem_nil, false_imp_iff, implies_true, and_true]
    exact ⟨rfl, rfl, rfl, rfl, rfl, rfl, rfl, rfl⟩
  · simp only [List.forall_mem_cons, List.not_mem_nil, false_imp_iff, implies_true, and_true]
    exact ⟨rfl, rfl⟩
  · simp only [List.forall_mem_cons, List.not_mem_nil, false_imp_iff, implies_true, and_true]
    exact ⟨rfl, rfl, rfl, rfl⟩

/-- A page with these sequences, all of one call. -/
def samplePayload (seqs : List Int) : Json :=
  .obj [("after", .int 0), ("count", .int seqs.length),
    ("coverageManifests", .arr [sampleManifest]),
    ("hasMore", .bool false), ("highWatermark", .int (seqs.getLast?.getD 0)),
    ("nextCursor", .int (seqs.getLast?.getD 0)), ("receipts", .arr (seqs.map sampleReceipt)),
    ("schema", .str "jitech-provider-usage-export/v1")]

/-- The page that is read off it. -/
def samplePage (seqs : List Int) : ValidatedExport where
  after := 0
  nextCursor := seqs.getLast?.getD 0
  highWatermark := seqs.getLast?.getD 0
  hasMore := false
  receipts := seqs.map sampleReceipt
  coverageManifests := [sampleCoverage]

lemma validateExport_samplePayload {seqs : List Int} (hseqs : seqs ≠ [])
    (hascending : seqs.Pairwise (· < ·)) (hpositive : ∀ seq ∈ seqs, 1 ≤ seq) :
    validateExport (samplePayload seqs) 0 "hermes" = .ok (samplePage seqs) := by
  have hlast : 0 ≤ seqs.getLast?.getD 0 := by
    cases h : seqs.getLast? with
    | none => simp
    | some last =>
        have := hpositive last (List.mem_of_getLast? h)
        simp only [Option.getD_some]
        omega
  have hmap : (seqs.map sampleReceipt).map ledgerSeq = seqs := by
    rw [List.map_map]
    exact List.map_id _
  have hdigests : sortedSet ((seqs.map sampleReceipt).map coverageDigestOf) =
      [sampleManifestDigest] := by
    have hreplicate : (seqs.map sampleReceipt).map coverageDigestOf =
        List.replicate seqs.length sampleManifestDigest := by
      rw [List.map_map]
      exact List.map_const
    have hlength : seqs.length ≠ 0 := by
      rw [ne_eq, List.length_eq_zero_iff]
      exact hseqs
    rw [hreplicate, sortedSet, List.replicate_dedup hlength, List.mergeSort_singleton]
  simp only [validateExport, except_bind_ok, check_ok, except_pure_ok, requireEach_ok,
    exists_and_left, exists_const]
  refine ⟨(), rfl, rfl, 0, rfl, rfl, seqs.getLast?.getD 0, integer_ok.mpr ⟨rfl, hlast⟩,
    seqs.getLast?.getD 0, integer_ok.mpr ⟨rfl, hlast⟩, seqs.length,
    integer_ok.mpr ⟨rfl, by omega⟩, false, rfl, hlast, seqs.map sampleReceipt, rfl, by simp, ?_,
    [sampleManifest], rfl, [sampleCoverage], ?_, ?_, ?_, ?_, ?_, ?_, ?_, ?_, ?_, ?_⟩
  · intro receipt hreceipt
    obtain ⟨seq, hseq, rfl⟩ := List.mem_map.mp hreceipt
    exact validateCallReceipt_sampleReceipt (hpositive seq hseq)
  · simp only [List.mapM_cons, List.mapM_nil, validateCoverage_sampleManifest]
    rfl
  · exact (sortedSet_of_pairwise (List.pairwise_singleton _ _)).symm
  · exact hdigests.symm
  · rw [hmap, sortedSet_of_pairwise hascending]
  · rw [hmap]
    intro first hfirst
    have := hpositive first (List.mem_of_mem_head? hfirst)
    omega
  · rw [hmap]
    intro last hlast'
    rw [Option.mem_def] at hlast'
    rw [hlast']
    exact le_refl _
  · rw [expectedNext, hmap]
  · simp
  · simp
  · simp [samplePage]

/-- A stamp of an instance. -/
def sampleStamp : Stamp where
  instanceId := "0b1c0000-0000-4000-8000-000000000001"
  linuxAccount := "hermes-a"
  publicHost := "a.example.com"
  family := "hermes"
  runtimeClass := "standard"
  bindingDigest := "sha256:binding"
  containerId := "c0ffee"
  wrapperImage := "wrapper"
  productImage := "product"
  opsRepoCommit := "commit"
  collectedAt := "2026-07-01T00:00:00Z"

/-- One call exported under two sequences. -/
def repeatedCall : StoreCall where
  faults _ := none
  stamp := sampleStamp
  coverage := sampleCoverage
  page := samplePage [1, 2]
  manifest := sampleManifest
  payload := samplePayload [1, 2]
  after := 0
  family := "hermes"
  coverage_ok := validateCoverage_sampleManifest
  page_ok := validateExport_samplePayload (by simp) (by simp) (by simp)

/-- Empty tables. -/
def noUsage : Db := ⟨[], .empty, .empty, [], []⟩

theorem repeatedCall_consistent :
    noUsage.Fresh ∧ Consistent (repeatedCall.run noUsage).2 ∧
      (repeatedCall.run noUsage).2.calls <+:
        (repeatedCall.run (repeatedCall.run noUsage).2).2.calls := by
  have hfresh : noUsage.Fresh := ⟨rfl, rfl, rfl, rfl⟩
  obtain ⟨hconsistent, -, hprefix, -⟩ :=
    usage_store_consistent hfresh (.tail (c := repeatedCall) .refl trivial rfl) repeatedCall
  exact ⟨hfresh, hconsistent, hprefix⟩

end samples

end AgentRuntimeOps.Usage
