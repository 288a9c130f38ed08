import AgentRuntimeOps.Usage.Collect

/-!
# Whether a conflict stops collection

A conflict of the ledger sets the cursor to `conflict`, and `read_cursor` refuses to go on from
there.  An exception *before* the cursor is read is recorded by `record_collection_failure`, which
writes `failed` over the `conflict`; the next call then collects again.

`undisturbed_conflict_sticks` says when the conflict stays: when nothing fails before the cursor is
read.
-/

set_option linter.unusedSectionVars false

namespace AgentRuntimeOps.Usage

open AgentRuntimeOps.Lib Program

section answers

variable [PythonText]

/-- How the database answers a collector; all other answers are arbitrary. -/
def collectAnswers : Answers CollectOp CollectOp.Res Raised Db
  | db, .readCursor stamp, r, db' => db' = db ∧ ∃ faults, r = readCursor faults stamp db
  | db, .store stamp coverage page, r, db' =>
      ∃ faults, storeExportPage faults stamp coverage page db = (r, db')
  | db, .recordFailure stamp code detail, r, db' =>
      ∃ faults, recordCollectionFailure faults stamp code detail db = (r, db')
  | db, _, _, db' => db' = db

/-- The status and the sequence of an instance. -/
def Db.cursorState (db : Db) (instanceId : String) : Option (CursorStatus × Int) :=
  (db.cursors.find? instanceId).map fun row => (row.lastStatus, row.lastLedgerSeq)

/-- The rows of an instance. -/
def Db.callsOf (db : Db) (instanceId : String) : List CallRow :=
  db.calls.filter fun row => row.instanceId = instanceId

variable [PythonOutput]

/-- A call for an instance that ends, or is cut off somewhere. -/
def Collects (resp : Answers CollectOp CollectOp.Res Raised Db) (minPages : Int)
    (instanceId : String) (db db' : Db) : Prop :=
  ∃ binding limit maxPages, RuntimeBinding.instanceId binding = instanceId ∧ minPages ≤ maxPages ∧
    Stops resp (fun _ _ => True) (collectTarget binding limit maxPages) db db'

/-- A live runtime that `checkTruth` accepts for the instance and the family. -/
structure Live.Sound (live : Live) (instanceId family : String) : Prop where
  checks : ∀ item ∈ live.checks, item.1 = true
  status : live.get "truth_status" = some "ok"
  instance_id : live.get "instance_id" = some instanceId
  family_id : live.get "family" = some family
  wrapper : ∃ image, requiredString (.ofOption (live.get "wrapper_image"))
    "truth.wrapper_image" 512 = .ok image
  product : ∃ image, requiredString (.ofOption (live.get "product_image"))
    "truth.product_image" 512 = .ok image

/-- Nothing fails before the cursor is read: the schema, the lock and the live runtime of the
family answer, and the driver reads the cursor. -/
def Undisturbed (instanceId family : String) : (op : CollectOp) → Except Raised op.Res → Prop
  | .now, r => ∃ moment, r = .ok moment
  | .listTables, r => ∃ found, r = .ok found ∧ ∀ name ∈ requiredTables, name ∈ found
  | .getLock _, r => ∃ acquired, r = .ok acquired
  | .loadBindings, r => ∃ bindings binding, r = .ok bindings ∧
      getRuntimeBinding bindings instanceId = .ok binding ∧ binding.family = family
  | .findContainer _, r => ∃ containerId lookup, r = .ok (some containerId, lookup) ∧
      containerId ≠ "" ∧
      ∃ text, requiredString (.str containerId) "container_id" 512 = .ok text
  | .liveTruth _, r => ∃ live, r = .ok live ∧ live.Sound instanceId family
  | .readCursor _, r => ∀ detail, r ≠ .error (databaseError detail)
  | _, _ => True

/-- The answers to an undisturbed call. -/
def undisturbedAnswers (instanceId family : String) : Answers CollectOp CollectOp.Res Raised Db :=
  fun db op r db' => collectAnswers db op r db' ∧ Undisturbed instanceId family op r

end answers

/-! ## An undisturbed call -/

section undisturbed

variable [PythonText] [PythonOutput] {α β : Type} {instanceId : String} {db : Db} {row : CursorRow}
  {binding : RuntimeBinding}

/-- The operations that read. -/
def CollectOp.isRead : CollectOp → Bool
  | .store .. => false
  | .recordFailure .. => false
  | _ => true

lemma unchanged_of_isRead {op : CollectOp} {r : Except Raised op.Res} {db' : Db}
    (hop : op.isRead = true) (h : collectAnswers db op r db') : db' = db := by
  cases op with
  | store => cases hop
  | recordFailure => cases hop
  | readCursor => exact h.1
  | _ => exact h

/-- The program ends with `Q` or raises with `E`, and the tables stay as they are. -/
def Leaves (instanceId family : String) (db : Db) (Q : α → Prop) (E : Raised → Prop)
    (p : Collector α) : Prop :=
  Safe ⟨fun db' _ => db' = db, undisturbedAnswers instanceId family⟩ (fun db' a => db' = db ∧ Q a)
    (fun db' e => db' = db ∧ E e) db p

variable {family : String} {Q : α → Prop} {Q' : β → Prop} {E : Raised → Prop} {p : Collector α}

lemma leaves_bind {f : α → Collector β} (hp : Leaves instanceId family db Q E p)
    (hf : ∀ a, Q a → Leaves instanceId family db Q' E (f a)) :
    Leaves instanceId family db Q' E (p >>= f) := by
  refine Safe.bind hp ?_
  rintro db' a ⟨rfl, ha⟩
  exact hf a ha

lemma leaves_pure {a : α} (h : Q a) : Leaves instanceId family db Q E (pure a) := ⟨rfl, h⟩

lemma leaves_pass {x : Except Raised α} (hok : ∀ a, x = .ok a → Q a)
    (herror : ∀ e, x = .error e → E e) : Leaves instanceId family db Q E (pass x) :=
  safe_ofExcept.mpr ⟨fun a ha => ⟨rfl, hok a ha⟩, fun e he => ⟨rfl, herror e he⟩⟩

/-- A check that passes. -/
lemma leaves_pass_ok {x : Except Raised α} {a : α} (h : x = .ok a) (ha : Q a) :
    Leaves instanceId family db Q E (pass x) := by
  refine leaves_pass (fun b hb => ?_) fun e he => ?_
  · rw [h] at hb
    cases hb
    exact ha
  · rw [h] at he
    cases he

lemma leaves_ask {op : CollectOp} {Q : op.Res → Prop} (hop : op.isRead = true)
    (hok : ∀ a, undisturbedAnswers instanceId family db op (.ok a) db → Q a)
    (herror : ∀ e, undisturbedAnswers instanceId family db op (.error e) db → E e) :
    Leaves instanceId family db Q E (ask op) := by
  refine safe_perform.mpr ⟨rfl, fun a db' h => ?_, fun e db' h => ?_⟩
  · obtain rfl := unchanged_of_isRead hop h.1
    exact ⟨rfl, hok a h⟩
  · obtain rfl := unchanged_of_isRead hop h.1
    exact ⟨rfl, herror e h⟩

lemma leaves_attempt (h : Leaves instanceId family db Q E p) :
    Leaves instanceId family db (fun x => (∀ a, x = .ok a → Q a) ∧ ∀ e, x = .error e → E e)
      (fun _ => False) (attempt p) := by
  refine safe_tryCatch.mpr (safe_bind.mpr (h.mono ?_ ?_))
  · rintro db' a ⟨rfl, ha⟩
    exact ⟨rfl, fun b hb => by cases hb; exact ha, nofun⟩
  · rintro db' e ⟨rfl, he⟩
    exact ⟨rfl, nofun, fun e' he' => by cases he'; exact he⟩

/-- The live stamp of a sound runtime is made. -/
lemma leaves_liveStamp (hid : binding.instanceId = instanceId) (hfamily : binding.family = family) :
    Leaves instanceId family db
      (fun stamp => stamp.instanceId = instanceId ∧ stamp.family = family) (fun _ => False)
      (liveStamp binding) := by
  unfold liveStamp
  refine leaves_bind (Q := fun answer => ∃ containerId lookup, answer = (some containerId, lookup) ∧
    containerId ≠ "" ∧
      ∃ text, requiredString (.str containerId) "container_id" 512 = .ok text) ?_ ?_
  · refine leaves_ask rfl (fun answer h => ?_) fun e h => ?_
    · obtain ⟨containerId, lookup, heq, hrest⟩ := h.2
      cases heq
      exact ⟨containerId, lookup, rfl, hrest⟩
    · obtain ⟨containerId, lookup, heq, -⟩ := h.2
      cases heq
  rintro _ ⟨containerId, lookup, rfl, hne, text, htext⟩
  refine leaves_bind (Q := fun found => found = containerId) ?_ ?_
  · refine leaves_pass_ok (a := containerId) ?_ rfl
    rw [orRaise_ok, Option.filter_some, if_pos (decide_eq_true hne)]
  rintro _ rfl
  refine leaves_bind (Q := fun live => live.Sound instanceId family) ?_ ?_
  · refine leaves_ask rfl (fun live h => ?_) fun e h => ?_
    · obtain ⟨live', heq, hsound⟩ := h.2
      cases heq
      exact hsound
    · obtain ⟨live', heq, -⟩ := h.2
      cases heq
  intro live hlive
  refine leaves_bind (Q := fun _ => True) ?_ fun _ _ => ?_
  · refine leaves_pass_ok (a := ()) (check_ok.mpr ?_) trivial
    rw [List.map_eq_nil_iff, List.filter_eq_nil_iff]
    intro item hitem
    simp [hlive.checks item hitem]
  obtain ⟨wrapper, hwrapper⟩ := hlive.wrapper
  obtain ⟨product, hproduct⟩ := hlive.product
  refine leaves_bind (Q := fun _ => True) ?_ ?_
  · refine leaves_pass_ok (a := (wrapper, product)) ?_ trivial
    simp only [checkTruth, except_bind_ok, check_ok, except_pure_ok, exists_and_left, exists_const]
    refine ⟨hlive.status, ?_, ?_, wrapper, hwrapper, product, hproduct, (), ?_, rfl⟩
    · rw [hlive.instance_id, hid]
      rfl
    · rw [hlive.family_id, hfamily]
      rfl
    · rw [htext]
      rfl
  rintro ⟨wrapper', product'⟩ -
  refine leaves_bind (Q := fun _ => True) ?_ fun moment _ => ?_
  · refine leaves_ask rfl (fun _ _ => trivial) fun e h => ?_
    obtain ⟨moment, heq⟩ := h.2
    cases heq
  · exact leaves_pure ⟨hid, hfamily⟩

/-- The binding and its stamp are found. -/
lemma leaves_beforePage (hid : binding.instanceId = instanceId) :
    Leaves instanceId family db
      (fun found => found.2.instanceId = instanceId ∧ found.2.family = family) (fun _ => False)
      (beforePage binding) := by
  unfold beforePage
  refine leaves_bind (Q := fun bindings => ∃ before,
    getRuntimeBinding bindings instanceId = .ok before ∧ before.family = family) ?_ ?_
  · refine leaves_ask rfl (fun bindings h => ?_) fun e h => ?_
    · obtain ⟨_, before, heq, hrest⟩ := h.2
      cases heq
      exact ⟨before, hrest⟩
    · obtain ⟨_, _, heq, -⟩ := h.2
      cases heq
  rintro bindings ⟨before, hbefore, hfamily⟩
  have huuid : isUuid instanceId = true := by
    rw [← hid]
    exact binding.instance_uuid
  refine leaves_bind (Q := fun found => found = before) ?_ ?_
  · rw [hid]
    exact leaves_pass_ok hbefore rfl
  rintro _ rfl
  refine leaves_bind (leaves_liveStamp (getRuntimeBinding_instanceId huuid hbefore) hfamily) ?_
  intro stamp hstamp
  exact leaves_pure hstamp

/-- The cursor stops the page. -/
lemma leaves_fetchPage {before : RuntimeBinding} {stamp : Stamp} {limit : Int}
    (hrow : db.cursors.find? instanceId = some row) (hconflict : row.lastStatus = .conflict)
    (hid : stamp.instanceId = instanceId) (hfamily : stamp.family = row.family) :
    Leaves instanceId row.family db (fun _ => False) (fun e => e.isConflict = true)
      (fetchPage binding before stamp limit) := by
  unfold fetchPage
  have hread : ∀ {faults : Faults} {r : Except Raised Int}, r = readCursor faults stamp db →
      (∀ detail, r ≠ .error (databaseError detail)) →
        ∃ message, r = .error (.conflict message) := by
    intro faults r hr hdriver
    unfold readCursor at hr
    cases hfault : faults 0 with
    | some detail =>
        rw [hfault] at hr
        exact absurd hr (hdriver detail)
    | none =>
        rw [hfault, hid, hrow] at hr
        simp only [hfamily, hconflict] at hr
        exact ⟨_, hr⟩
  refine leaves_bind (Q := fun _ => False) ?_ fun _ h => h.elim
  refine leaves_ask rfl (fun cursor h => ?_) fun e h => ?_
  · obtain ⟨⟨-, faults, hr⟩, hdriver⟩ := h
    obtain ⟨message, heq⟩ := hread hr hdriver
    cases heq
  · obtain ⟨⟨-, faults, hr⟩, hdriver⟩ := h
    obtain ⟨message, heq⟩ := hread hr hdriver
    cases heq
    rfl

/-- A handler that records nothing. -/
lemma leaves_onException {locals : Locals} {e : Raised}
    (h : e.isConflict = true ∨ ∃ message, e = .busy message) :
    Leaves instanceId family db (fun _ => True) (fun _ => False) (onException locals e) := by
  cases e with
  | busy => exact leaves_pure trivial
  | conflict => exact leaves_pure trivial
  | contract message =>
      rcases h with h | ⟨_, h⟩
      · cases h
      · cases h
  | other name message =>
      rcases h with h | ⟨_, h⟩
      · cases h
      · cases h

lemma leaves_collectPages {limit maxPages : Int} {pages : Nat} {locals : Locals}
    (hid : binding.instanceId = instanceId) (hrow : db.cursors.find? instanceId = some row)
    (hconflict : row.lastStatus = .conflict) :
    Leaves instanceId row.family db (fun _ => True) (fun _ => False)
      (collectPages binding limit maxPages (pages + 1) locals) := by
  unfold collectPages
  refine leaves_bind (leaves_attempt (leaves_beforePage hid)) ?_
  rintro (e | ⟨before, stamp⟩) ⟨hok, herror⟩
  · exact (herror e rfl).elim
  obtain ⟨hstamp, hfamily⟩ := hok (before, stamp) rfl
  refine leaves_bind (leaves_attempt (leaves_fetchPage hrow hconflict hstamp hfamily)) ?_
  rintro (e | found) ⟨hok, herror⟩
  · exact leaves_onException (.inl (herror e rfl))
  · exact (hok found rfl).elim

/-- The schema is there, and the lock is taken or busy. -/
lemma leaves_acquire (huuid : isUuid instanceId = true) :
    Leaves instanceId family db (fun _ => True) (fun e => ∃ message, e = .busy message)
      (do ensureSchema; acquireCollectionLock instanceId) := by
  refine leaves_bind (Q := fun _ => True) ?_ fun _ _ => ?_
  · unfold ensureSchema
    refine leaves_bind (Q := fun found => ∀ name ∈ requiredTables, name ∈ found) ?_ ?_
    · refine leaves_ask rfl (fun found h => ?_) fun e h => ?_
      · obtain ⟨_, heq, hfound⟩ := h.2
        cases heq
        exact hfound
      · obtain ⟨_, heq, -⟩ := h.2
        cases heq
    · intro found hfound
      exact leaves_pass_ok (a := ()) (check_ok.mpr hfound) trivial
  · unfold acquireCollectionLock
    refine leaves_bind (Q := fun _ => True) (leaves_pass_ok (a := ()) (check_ok.mpr ?_) trivial) ?_
    · rw [length_lockName huuid]
      omega
    · intro _ _
      refine leaves_bind (Q := fun _ => True) (leaves_ask rfl (fun _ _ => trivial) fun e h => ?_) ?_
      · obtain ⟨_, heq⟩ := h.2
        cases heq
      · intro acquired _
        refine leaves_pass (fun _ _ => trivial) fun e he => ?_
        unfold require at he
        split_ifs at he
        cases he
        exact ⟨_, rfl⟩

/-- A call that nothing disturbs leaves the tables as they are. -/
theorem leaves_collectTarget {limit maxPages : Int} (hid : binding.instanceId = instanceId)
    (hpages : 1 ≤ maxPages) (hrow : db.cursors.find? instanceId = some row)
    (hconflict : row.lastStatus = .conflict) :
    Leaves instanceId row.family db (fun _ => True) (fun _ => True)
      (collectTarget binding limit maxPages) := by
  have hany : ∀ {α : Type} {Q : α → Prop} {p : Collector α},
      Leaves instanceId row.family db Q (fun _ => False) p →
        Leaves instanceId row.family db Q (fun _ => True) p := by
    intro α Q p hp
    exact hp.mono (fun _ _ h => h) fun _ _ h => h.2.elim
  have huuid : isUuid instanceId = true := by
    rw [← hid]
    exact binding.instance_uuid
  unfold collectTarget
  refine leaves_bind (Q := fun _ => True)
    (leaves_ask rfl (fun _ _ => trivial) fun _ _ => trivial) fun _ _ => ?_
  refine leaves_bind (Q := fun _ => True) ?_ fun _ _ => ?_
  · unfold collectBody
    refine hany (leaves_bind (Q := fun _ => True) ?_ fun moment _ => ?_)
    · refine leaves_ask rfl (fun _ _ => trivial) fun e h => ?_
      obtain ⟨_, heq⟩ := h.2
      cases heq
    · rw [hid]
      refine leaves_bind (leaves_attempt (leaves_acquire huuid)) ?_
      rintro (e | _) ⟨-, herror⟩
      · exact leaves_onException (.inr (herror e rfl))
      · obtain ⟨pages, hsucc⟩ : ∃ pages, maxPages.toNat = pages + 1 :=
          Nat.exists_eq_succ_of_ne_zero (by omega)
        simp only [hsucc]
        exact leaves_collectPages hid hrow hconflict
  · refine leaves_bind (Q := fun _ => True)
      (leaves_ask rfl (fun _ _ => trivial) fun _ _ => trivial) fun _ _ => leaves_pure trivial

/-- A conflict stays as long as nothing fails before the cursor is read. -/
theorem undisturbed_conflict_sticks {db' : Db} (hrow : db.cursors.find? instanceId = some row)
    (hconflict : row.lastStatus = .conflict)
    (hrun : Relation.ReflTransGen
      (Collects (undisturbedAnswers instanceId row.family) 1 instanceId) db db') :
    db'.cursorState instanceId = db.cursorState instanceId ∧
      db'.callsOf instanceId = db.callsOf instanceId := by
  suffices hsame : db' = db by
    rw [hsame]
    exact ⟨rfl, rfl⟩
  induction hrun with
  | refl => rfl
  | tail _ hcall ih =>
      obtain ⟨binding, limit, maxPages, hid, hpages, hstops⟩ := hcall
      rw [ih] at hstops
      refine Stops.of_safe (P := fun db' => db' = db) hstops ?_
      exact (safe_mono_pre (leaves_collectTarget hid hpages hrow hconflict) fun _ _ h _ => h).mono
        (fun _ _ h => h.1) fun _ _ h => h.1

end undisturbed

/-! ## A conflict that is overwritten -/

section overwritten

variable [PythonText]

/-- A failure before the cursor is read is written over it. -/
lemma cursorState_upsertFailure {db : Db} {stamp : Stamp} {moment : Int} {code detail : String}
    {row : CursorRow} (hrow : db.cursors.find? stamp.instanceId = some row) :
    (upsertFailure stamp moment code detail db).cursorState stamp.instanceId =
      some (.failed, row.lastLedgerSeq) := by
  unfold upsertFailure
  cases hinsert : db.cursors.insert? (failedCursor stamp moment code detail) with
  | some cursors =>
      have hnone := Table.find?_none_of_insert? hinsert
      change db.cursors.find? stamp.instanceId = none at hnone
      rw [hrow] at hnone
      cases hnone
  | none =>
      have hkey : row.instanceId = stamp.instanceId := Table.key_of_find? hrow
      unfold Db.cursorState
      rw [find?_updateCursor, hrow, Option.map_some, if_pos hkey]
      rfl

lemma readCursor_ne_databaseError (stamp : Stamp) (db : Db) (detail : String) :
    readCursor (fun _ => none) stamp db ≠ .error (databaseError detail) := by
  intro h
  simp only [readCursor] at h
  cases hrow : db.cursors.find? stamp.instanceId with
  | none =>
      rw [hrow] at h
      cases h
  | some row =>
      rw [hrow] at h
      simp only [check, require, databaseError] at h
      split_ifs at h
      all_goals cases h

end overwritten

section samples

attribute [local instance] sampleText

/-- The texts that the product prints. -/
def coverageText : String := String.ofList sampleManifest.dumps

/-- The page of one call under two sequences. -/
def exportText : String := String.ofList (samplePayload [1, 2]).dumps

/-- The two texts, told apart by their first key. -/
def sampleLoads (text : List Char) : Loaded :=
  if text.take 3 = ['\x7b', '"', 'a'] then .value (samplePayload [1, 2])
  else if text.take 3 = ['\x7b', '"', 'c'] then .value sampleManifest
  else .notJson

/-- A reader of the two texts. -/
@[reducible] def sampleOutput : PythonOutput where
  strip text := text
  loads text := sampleLoads text.toList
  redactError text := text

attribute [local instance] sampleOutput

/-- The binding of the instance. -/
def sampleBinding : RuntimeBinding where
  instanceId := "0b1c0000-0000-4000-8000-000000000001"
  linuxAccount := "hermes-a"
  publicHost := "a.example.com"
  family := "hermes"
  runtimeClass := "customer"
  gatewayPort := 18001
  bridgePort := 18002
  enabled := true
  upstreamKind := "managed-rootful"
  upstreamOwner := ""
  upstreamContainer := ""
  instance_uuid := by decide
  account_short := by decide
  host_dot := by decide

/-- Its live runtime. -/
def sampleLive : Live where
  truth := [("truth_status", "ok"), ("instance_id", "0b1c0000-0000-4000-8000-000000000001"),
    ("family", "hermes"), ("wrapper_image", "wrapper"), ("product_image", "product")]
  checks := [(true, "gateway_running")]

/-- A host where the gateway runs in this container, if at all. -/
def sampleExec (container : Option String) :
    (op : CollectOp) → Db → Except Raised op.Res × Db
  | .connect, db => (.ok (), db)
  | .now, db => (.ok "2026-07-01T00:00:00Z", db)
  | .listTables, db => (.ok requiredTables, db)
  | .getLock _, db => (.ok true, db)
  | .loadBindings, db => (.ok [sampleBinding], db)
  | .findContainer _, db => (.ok (container, "instance_label"), db)
  | .liveTruth _, db => (.ok sampleLive, db)
  | .readCursor stamp, db => (readCursor (fun _ => none) stamp db, db)
  | .runCoverage .., db => (.ok ⟨0, coverageText, ""⟩, db)
  | .runExport .., db => (.ok ⟨0, exportText, ""⟩, db)
  | .store stamp coverage page, db => storeExportPage (fun _ => none) stamp coverage page db
  | .recordFailure stamp code detail, db =>
      recordCollectionFailure (fun _ => none) stamp code detail db
  | .close, db => (.ok (), db)

lemma collectAnswers_sampleExec (container : Option String) (op : CollectOp) (db : Db) :
    collectAnswers db op (sampleExec container op db).1 (sampleExec container op db).2 := by
  cases op with
  | readCursor stamp => exact ⟨rfl, fun _ => none, rfl⟩
  | store stamp coverage page => exact ⟨fun _ => none, rfl⟩
  | recordFailure stamp code detail => exact ⟨fun _ => none, rfl⟩
  | _ => rfl

lemma dumps_ne_empty {text : List Char} {c : Char} (h : text.head? = some c) :
    String.ofList text ≠ "" := by
  intro hempty
  have hnil : text = [] := by
    have := congrArg String.toList hempty
    simpa using this
  rw [hnil] at h
  cases h

lemma loads_coverageText :
    PythonOutput.loads (PythonOutput.strip coverageText) = .value sampleManifest :=
  (congrArg sampleLoads String.toList_ofList).trans rfl

lemma loads_exportText :
    PythonOutput.loads (PythonOutput.strip exportText) = .value (samplePayload [1, 2]) :=
  (congrArg sampleLoads String.toList_ofList).trans rfl

lemma parseStdout_of_loads {subject text : String} {payload : Json}
    (hne : PythonOutput.strip text ≠ "")
    (h : PythonOutput.loads (PythonOutput.strip text) = .value payload) :
    parseStdout subject text = .ok payload := by
  simp only [parseStdout, except_bind_ok, check_ok, h]
  exact ⟨(), hne, rfl⟩

lemma parseCoverageStdout_sample :
    parseCoverageStdout coverageText "hermes" = .ok sampleCoverage := by
  have hne : coverageText ≠ "" := dumps_ne_empty (c := '\x7b') rfl
  rw [parseCoverageStdout, except_bind_ok]
  exact ⟨sampleManifest, parseStdout_of_loads hne loads_coverageText,
    validateCoverage_sampleManifest⟩

lemma parseExportStdout_sample :
    parseExportStdout exportText 0 "hermes" = .ok (samplePage [1, 2]) := by
  have hne : exportText ≠ "" := dumps_ne_empty (c := '\x7b') rfl
  rw [parseExportStdout, except_bind_ok]
  exact ⟨samplePayload [1, 2], parseStdout_of_loads hne loads_exportText,
    validateExport_samplePayload (by simp) (by simp) (by simp)⟩

/-- The stamp that the live runtime gets. -/
def liveSampleStamp : Stamp :=
  { failureStamp sampleBinding "2026-07-01T00:00:00Z" with
    containerId := "c0ffee"
    wrapperImage := "wrapper"
    productImage := "product"
    opsRepoCommit := "" }

lemma eval_beforePage (db : Db) :
    eval (sampleExec (some "c0ffee")) (beforePage sampleBinding) db =
      (.ok (sampleBinding, liveSampleStamp), db) := rfl

lemma eval_fetchCoverage (db : Db) :
    eval (sampleExec (some "c0ffee")) (fetchCoverage "c0ffee" "hermes") db =
      (.ok sampleCoverage, db) := by
  unfold fetchCoverage
  refine Eq.trans (eval_step (a := ()) rfl) ?_
  refine Eq.trans (eval_step (a := ⟨0, coverageText, ""⟩) rfl) ?_
  refine Eq.trans (eval_step (a := ()) rfl) ?_
  rw [pass, eval_ofExcept, parseCoverageStdout_sample]

lemma eval_fetchExport (db : Db) :
    eval (sampleExec (some "c0ffee")) (fetchExport "c0ffee" "hermes" 0 100) db =
      (.ok (samplePage [1, 2]), db) := by
  unfold fetchExport
  refine Eq.trans (eval_step (a := ()) rfl) ?_
  refine Eq.trans (eval_step (a := ()) rfl) ?_
  refine Eq.trans (eval_step (a := ()) rfl) ?_
  refine Eq.trans (eval_step (a := ⟨0, exportText, ""⟩) rfl) ?_
  refine Eq.trans (eval_step (a := ()) rfl) ?_
  rw [pass, eval_ofExcept, parseExportStdout_sample]

lemma eval_unchangedRuntime (db : Db) :
    eval (sampleExec (some "c0ffee"))
        (unchangedRuntime sampleBinding sampleBinding liveSampleStamp) db = (.ok (), db) := by
  unfold unchangedRuntime
  refine Eq.trans (eval_step (a := [sampleBinding]) rfl) ?_
  refine Eq.trans (eval_step (a := sampleBinding) rfl) ?_
  refine Eq.trans (eval_step (a := ()) ?_) ?_
  · unfold pass
    rw [eval_ofExcept]
    exact congrArg (·, db) (check_ok.mpr rfl)
  refine Eq.trans (eval_step (a := liveSampleStamp) rfl) ?_
  rfl

lemma eval_fetchPage :
    eval (sampleExec (some "c0ffee"))
        (fetchPage sampleBinding sampleBinding liveSampleStamp 100) noUsage =
      (.ok (sampleCoverage, samplePage [1, 2]), noUsage) := by
  unfold fetchPage
  refine Eq.trans (eval_step (a := (0 : Int)) rfl) ?_
  refine Eq.trans (eval_bind_of_ok _ (eval_fetchCoverage noUsage)) ?_
  refine Eq.trans (eval_bind_of_ok _ (eval_fetchExport noUsage)) ?_
  exact eval_bind_of_ok _ (eval_unchangedRuntime noUsage)

/-- The page is stored up to the conflict. -/
def conflictDb : Db :=
  (storeExportPage (fun _ => none) liveSampleStamp sampleCoverage (samplePage [1, 2]) noUsage).2

/-- What the conflict says. -/
def conflictMessage : String :=
  "same callId has different digest: instance=0b1c0000-0000-4000-8000-000000000001 call=call-1"

lemma store_conflicts :
    storeExportPage (fun _ => none) liveSampleStamp sampleCoverage (samplePage [1, 2]) noUsage =
      (.error (.conflict conflictMessage), conflictDb) := by
  have hanswer : (storeExportPage (fun _ => none) liveSampleStamp sampleCoverage
      (samplePage [1, 2]) noUsage).1 = .error (.conflict conflictMessage) := by
    decide +kernel
  rw [← hanswer, conflictDb]

lemma eval_collectPages (locals : Locals) :
    eval (sampleExec (some "c0ffee")) (collectPages sampleBinding 100 10 10 locals) noUsage =
      (.ok (.failed locals.pages locals.inserted locals.idempotent conflictMessage),
        conflictDb) := by
  unfold collectPages
  refine Eq.trans (eval_attempt_bind (eval_beforePage noUsage)) ?_
  refine Eq.trans (eval_attempt_bind eval_fetchPage) ?_
  refine Eq.trans
    (eval_attempt_step (x := .ok "2026-07-01T00:00:00Z") rfl) ?_
  have hstore : eval (sampleExec (some "c0ffee"))
      (ask (.store liveSampleStamp sampleCoverage (samplePage [1, 2]))) noUsage =
        (.error (.conflict conflictMessage), conflictDb) := by
    unfold ask
    rw [eval_perform]
    exact store_conflicts
  exact Eq.trans (eval_attempt_bind hstore) rfl

lemma eval_close (collected : Collected) (db : Db) :
    eval (sampleExec (some "c0ffee")) (do ask .close; return collected) db = (.ok collected, db) :=
  rfl

/-- The first call stops on the conflict. -/
lemma eval_collectTarget_conflict :
    (eval (sampleExec (some "c0ffee")) (collectTarget sampleBinding 100 10) noUsage).2 =
      conflictDb := by
  have hbody : eval (sampleExec (some "c0ffee")) (collectBody sampleBinding 100 10) noUsage =
      (.ok (.failed 0 0 0 conflictMessage), conflictDb) := by
    unfold collectBody
    refine Eq.trans (eval_step (a := "2026-07-01T00:00:00Z") rfl) ?_
    refine Eq.trans (eval_attempt_step (x := .ok ()) rfl) ?_
    exact eval_collectPages _
  have htarget : eval (sampleExec (some "c0ffee")) (collectTarget sampleBinding 100 10) noUsage =
      (.ok (.failed 0 0 0 conflictMessage), conflictDb) := by
    unfold collectTarget
    refine Eq.trans (eval_step (a := ()) rfl) ?_
    refine Eq.trans (eval_bind_of_ok _ hbody) ?_
    exact eval_close _ _
  rw [htarget]

lemma find?_conflictDb : ∃ row, conflictDb.cursors.find? sampleBinding.instanceId = some row ∧
    row.family = "hermes" ∧ row.lastStatus = .conflict ∧ row.lastLedgerSeq = 0 := by
  have h : (conflictDb.cursors.find? sampleBinding.instanceId).map
      (fun row => (row.family, row.lastStatus, row.lastLedgerSeq)) =
        some ("hermes", .conflict, 0) := by
    decide +kernel
  obtain ⟨row, hrow, heq⟩ := Option.map_eq_some_iff.mp h
  simp only [Prod.mk.injEq] at heq
  exact ⟨row, hrow, heq⟩

/-- The conflict is in the cursor. -/
lemma conflictDb_state :
    conflictDb.cursorState sampleBinding.instanceId = some (.conflict, 0) := by
  obtain ⟨row, hrow, -, hstatus, hseq⟩ := find?_conflictDb
  unfold Db.cursorState
  rw [hrow, Option.map_some, hstatus, hseq]

lemma eval_collectTarget_absent (db : Db) :
    ∃ code detail, (eval (sampleExec none) (collectTarget sampleBinding 100 10) db).2 =
      upsertFailure (failureStamp sampleBinding "2026-07-01T00:00:00Z") 1782864000000000 code
        detail db := ⟨_, _, rfl⟩

/-- A call that nothing disturbs leaves the conflict. -/
theorem conflict_sticks_once :
    ∃ db', Collects (undisturbedAnswers sampleBinding.instanceId "hermes") 1
        sampleBinding.instanceId conflictDb db' ∧
      db'.cursorState sampleBinding.instanceId = some (.conflict, 0) := by
  have hexec : ∀ op db, undisturbedAnswers sampleBinding.instanceId "hermes" db op
      (sampleExec (some "c0ffee") op db).1 (sampleExec (some "c0ffee") op db).2 := by
    intro op db
    refine ⟨collectAnswers_sampleExec _ op db, ?_⟩
    cases op with
    | now => exact ⟨_, rfl⟩
    | listTables => exact ⟨_, rfl, fun _ h => h⟩
    | getLock => exact ⟨_, rfl⟩
    | loadBindings => exact ⟨_, sampleBinding, rfl, rfl, rfl⟩
    | findContainer => exact ⟨_, _, rfl, by decide, _, rfl⟩
    | liveTruth => exact ⟨sampleLive, rfl, by decide, rfl, rfl, rfl, ⟨_, rfl⟩, ⟨_, rfl⟩⟩
    | readCursor stamp => exact readCursor_ne_databaseError stamp db
    | _ => exact trivial
  have hcall : Collects (undisturbedAnswers sampleBinding.instanceId "hermes") 1
      sampleBinding.instanceId conflictDb
      (eval (sampleExec (some "c0ffee")) (collectTarget sampleBinding 100 10) conflictDb).2 :=
    ⟨sampleBinding, 100, 10, rfl, by decide, .inl ⟨_, ends_eval hexec _ _⟩⟩
  obtain ⟨row, hrow, hfamily, hstatus, -⟩ := find?_conflictDb
  refine ⟨_, hcall, ?_⟩
  rw [← hfamily] at hcall
  rw [(undisturbed_conflict_sticks hrow hstatus (.single hcall)).1]
  exact conflictDb_state

/-- A call that fails before it reads the cursor takes the conflict away. -/
theorem conflict_overwritten :
    ∃ db db', Collects collectAnswers 1 sampleBinding.instanceId noUsage db ∧
      db.cursorState sampleBinding.instanceId = some (.conflict, 0) ∧
      Collects collectAnswers 1 sampleBinding.instanceId db db' ∧
      db'.cursorState sampleBinding.instanceId = some (.failed, 0) := by
  have hcall : ∀ container db, Collects collectAnswers 1 sampleBinding.instanceId db
      (eval (sampleExec container) (collectTarget sampleBinding 100 10) db).2 := by
    intro container db
    exact ⟨sampleBinding, 100, 10, rfl, by decide,
      .inl ⟨_, ends_eval (collectAnswers_sampleExec container) _ _⟩⟩
  refine ⟨conflictDb, _, ?_, conflictDb_state, hcall none conflictDb, ?_⟩
  · rw [← eval_collectTarget_conflict]
    exact hcall _ _
  · obtain ⟨code, detail, heval⟩ := eval_collectTarget_absent conflictDb
    obtain ⟨row, hrow, -, -, hseq⟩ := find?_conflictDb
    rw [heval, ← hseq]
    have hstamp : conflictDb.cursors.find?
        (failureStamp sampleBinding "2026-07-01T00:00:00Z").instanceId = some row := hrow
    exact cursorState_upsertFailure hstamp

end samples

end AgentRuntimeOps.Usage
