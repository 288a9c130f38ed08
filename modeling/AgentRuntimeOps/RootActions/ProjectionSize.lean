import AgentRuntimeOps.RootActions.Limits
import AgentRuntimeOps.RootActions.Projection

/-!
# The public projection fits into its limit

`build_public_projection` raises when the envelope has more than three mebibytes.  The parts of an
envelope are bounded one by one: a manifest and a receipt by their own limits, everything else by
being made of short texts and of counters that the database bounds.  An envelope of such parts
always fits.
-/

namespace AgentRuntimeOps.RootActions

open AgentRuntimeOps.Lib Json

/-! ## Bounded parts -/

/-- A counter that the database can hold has at most twenty digits. -/
def IsCount (n : Nat) : Prop := n < 10 ^ 20

/-- A row of the ledger with short texts. -/
structure LedgerEntry.Bounded (entry : LedgerEntry) : Prop where
  action : IsShort entry.action
  eventId : IsShort entry.eventId
  nextState : IsShort entry.nextState
  occurredAt : IsShort entry.occurredAt
  priorState : ∀ s ∈ entry.priorState, IsShort s
  reasonCode : ∀ s ∈ entry.reasonCode, IsShort s
  terminalOutcome : ∀ s ∈ entry.terminalOutcome, IsShort s
  recordRevision : IsCount entry.recordRevision
  sequence : IsCount entry.sequence

/-- A summary with short texts. -/
structure LineageSummary.Bounded (summary : LineageSummary) : Prop where
  lineageId : IsShort summary.lineageId
  measuredAt : IsShort summary.measuredAt
  windowSeconds : IsCount summary.windowSeconds
  submissionCount : IsCount summary.submissionCount
  technicalFailureCount : IsCount summary.technicalFailureCount
  canceled : IsCount summary.terminalCounts.canceled
  expired : IsCount summary.terminalCounts.expired
  failed : IsCount summary.terminalCounts.failed
  prestartFailed : IsCount summary.terminalCounts.prestartFailed
  rejected : IsCount summary.terminalCounts.rejected
  succeeded : IsCount summary.terminalCounts.succeeded

/-- A status of bounded parts. -/
structure StatusProjection.Bounded (status : StatusProjection) : Prop where
  job : status.job.WellFormed
  state : status.state.Valid
  revision : IsCount status.state.revision
  lineage : ∀ summary ∈ status.lineage, summary.Bounded
  receipt : ∀ r ∈ status.receipt, IsShort r.1 ∧ IsShort r.2

/-! ## Sizes -/

section sizes

/-- The number of bytes of a value in its canonical form. -/
abbrev size : Json → Nat := sizeWith escapeChar compact

lemma size_text {s : String} (h : IsShort s) : size (.str s) ≤ 770 :=
  size_str_le escapes_escapeChar h

lemma size_option {s : Option String} (h : ∀ t ∈ s, IsShort t) : size (.ofOption s) ≤ 770 :=
  size_ofOption_le escapes_escapeChar h

lemma size_count {n : Nat} (h : IsCount n) : size (.int n) ≤ 80 :=
  sizeWith_nat_le (by decide) h

lemma size_cons {name : String} {value : Json} {rest : List (String × Json)} {b c : Nat}
    (hname : (utf8 name.toList).length ≤ 64) (hvalue : size value ≤ b)
    (hrest : size (.obj rest) ≤ c) : size (.obj ((name, value) :: rest)) ≤ 390 + b + c :=
  sizeWith_obj_cons_le escapes_escapeChar short_compact hname hvalue hrest

lemma size_nil : size (.obj []) ≤ 2 := sizeWith_obj_nil_le

lemma size_lineage {summary : LineageSummary} (h : summary.Bounded) :
    size summary.projection ≤ 20000 := by
  have happroval : size (.obj [("availability", .str "unavailable"),
      ("reason", .str "approval_design_not_ratified")]) ≤ 2322 :=
    size_cons (by decide) (size_text (by decide)) <|
      size_cons (by decide) (size_text (by decide)) size_nil
  have hcounts : size (.obj [
      ("canceled", .int summary.terminalCounts.canceled),
      ("expired", .int summary.terminalCounts.expired),
      ("failed", .int summary.terminalCounts.failed),
      ("prestart_failed", .int summary.terminalCounts.prestartFailed),
      ("rejected", .int summary.terminalCounts.rejected),
      ("succeeded", .int summary.terminalCounts.succeeded)]) ≤ 2822 :=
    size_cons (by decide) (size_count h.canceled) <|
      size_cons (by decide) (size_count h.expired) <|
      size_cons (by decide) (size_count h.failed) <|
      size_cons (by decide) (size_count h.prestartFailed) <|
      size_cons (by decide) (size_count h.rejected) <|
      size_cons (by decide) (size_count h.succeeded) size_nil
  refine le_trans (size_cons (by decide) happroval <|
    size_cons (by decide) (size_text (by decide)) <|
    size_cons (by decide) (size_text h.lineageId) <|
    size_cons (by decide) (size_text h.measuredAt) <|
    size_cons (by decide) (size_text (by decide)) <|
    size_cons (by decide) (size_text (by decide)) <|
    size_cons (by decide) (size_text (by decide)) <|
    size_cons (by decide) (size_count h.submissionCount) <|
    size_cons (by decide) (size_count h.technicalFailureCount) <|
    size_cons (by decide) hcounts <|
    size_cons (by decide) (size_count h.windowSeconds) size_nil) ?_
  norm_num

lemma size_event {entry : LedgerEntry} (h : entry.Bounded) : size (eventJson entry) ≤ 10000 := by
  refine le_trans (size_cons (by decide) (size_text h.action) <|
    size_cons (by decide) (size_text h.eventId) <|
    size_cons (by decide) (size_text h.nextState) <|
    size_cons (by decide) (size_text h.occurredAt) <|
    size_cons (by decide) (size_option h.priorState) <|
    size_cons (by decide) (size_option h.reasonCode) <|
    size_cons (by decide) (size_count h.recordRevision) <|
    size_cons (by decide) (size_count h.sequence) <|
    size_cons (by decide) (size_option h.terminalOutcome) size_nil) ?_
  norm_num

lemma size_job {job : SealedJob} (h : job.WellFormed) : size (.obj [
    ("expected_pre_state", job.canonicalManifest.field "expected_pre_state"),
    ("job_digest", .str job.jobDigest),
    ("job_id", .str job.jobId),
    ("lineage_id", .str job.lineageId),
    ("operation_id", .str job.operationId),
    ("operation_version", .int job.operationVersion),
    ("parameters", job.canonicalManifest.field "parameters"),
    ("reply_target", .str job.replyTarget),
    ("request_id", .str job.requestId),
    ("review", job.canonicalManifest.field "review"),
    ("submitted_at", .str job.submittedAt)]) ≤ 500000 := by
  have hsize := h.size
  rw [length_canonicalManifestBytes] at hsize
  change size job.canonicalManifest + 1 ≤ _ at hsize
  have hpart : ∀ name, size (job.canonicalManifest.field name) ≤ 131076 := by
    intro name
    refine (sizeWith_field_le escapeChar compact job.canonicalManifest name).trans ?_
    change size job.canonicalManifest + 4 ≤ 131076
    unfold maxManifestBytes at hsize
    omega
  have hversion : size (.int job.operationVersion) ≤ 80 := by
    rw [h.operationVersion]
    exact size_count (n := 1) (by unfold IsCount; norm_num)
  refine le_trans (size_cons (by decide) (hpart _) <|
    size_cons (by decide) (size_text (isShort_of_isDigest h.jobDigest)) <|
    size_cons (by decide) (size_text (isShort_of_isSafeId h.jobId)) <|
    size_cons (by decide) (size_text (isShort_of_isSafeId h.lineageId)) <|
    size_cons (by decide) (size_text (isShort_of_isSafeId h.operationId)) <|
    size_cons (by decide) hversion <|
    size_cons (by decide) (hpart _) <|
    size_cons (by decide) (size_text (isShort_of_isSafeId h.replyTarget)) <|
    size_cons (by decide) (size_text (isShort_of_isSafeId h.requestId)) <|
    size_cons (by decide) (hpart _) <|
    size_cons (by decide) (size_text (isShort_of_isRealTimestamp h.submittedAt)) size_nil) ?_
  norm_num

lemma isShort_state (state : JobState) : IsShort state.value := by
  cases state <;> decide

lemma isShort_kind (kind : TransitionKind) : IsShort kind.value := by
  cases kind <;> decide

lemma isShort_outcome {outcome : Option TerminalOutcome} :
    ∀ s ∈ outcome.map (·.value), IsShort s := by
  intro s hs
  obtain ⟨o, -, rfl⟩ := Option.map_eq_some_iff.mp hs
  cases o <;> decide

lemma size_state {record : JobRecord} (h : record.Valid) (hrevision : IsCount record.revision) :
    size (.obj [
      ("execution_count", .int record.executionCount),
      ("last_changed_at", .str record.lastChangedAt),
      ("name", .str record.state.value),
      ("reason_code", .ofOption record.reasonCode),
      ("revision", .int record.revision),
      ("terminal_outcome", .ofOption (record.terminalOutcome.map (·.value)))]) ≤ 10000 := by
  have hcount : IsCount record.executionCount := by
    unfold IsCount
    have hone := h.executionCount
    omega
  refine le_trans (size_cons (by decide) (size_count hcount) <|
    size_cons (by decide) (size_text (isShort_of_isRealTimestamp h.lastChangedAt)) <|
    size_cons (by decide) (size_text (isShort_state _)) <|
    size_cons (by decide) (size_option fun s hs => isShort_of_isSafeId (h.reasonCode s hs)) <|
    size_cons (by decide) (size_count hrevision) <|
    size_cons (by decide) (size_option isShort_outcome) size_nil) ?_
  norm_num

/-- The entry `receipt` of a status. -/
def StatusProjection.receiptJson (status : StatusProjection) : Json :=
  match status.receipt with
  | some (kind, digest) => .obj [("kind", .str kind), ("receipt_digest", .str digest)]
  | none => .null

/-- The entry `lineage_24h` of a status. -/
def StatusProjection.lineageJson (status : StatusProjection) : Json :=
  match status.lineage with
  | some summary => summary.projection
  | none => .obj [("availability", .str "unavailable"),
      ("reason", .str "root_owned_ledger_summary_not_supplied")]

lemma size_status {status : StatusProjection} (h : status.Bounded) : size status.json ≤ 600000 := by
  have hreceipt : size status.receiptJson ≤ 2322 := by
    unfold StatusProjection.receiptJson
    cases hr : status.receipt with
    | none =>
        change sizeWith escapeChar compact .null ≤ 2322
        rw [sizeWith_null]
        norm_num
    | some r =>
        obtain ⟨hkind, hdigest⟩ := h.receipt r hr
        exact size_cons (by decide) (size_text hkind) <|
          size_cons (by decide) (size_text hdigest) size_nil
  have hlineage : size status.lineageJson ≤ 20000 := by
    unfold StatusProjection.lineageJson
    cases hl : status.lineage with
    | none =>
        refine le_trans (size_cons (by decide) (size_text (by decide)) <|
          size_cons (by decide) (size_text (by decide)) size_nil) ?_
        norm_num
    | some summary => exact size_lineage (h.lineage summary hl)
  refine le_trans (size_cons (by decide) (size_job h.job) <|
    size_cons (by decide) hlineage <|
    size_cons (by decide) hreceipt <|
    size_cons (by decide) (size_text (by decide)) <|
    size_cons (by decide) (size_state h.state h.revision) size_nil) ?_
  norm_num

/-- A job has at most four rows in the ledger. -/
lemma size_history {history : HistoryProjection} (hlen : history.events.length ≤ 4)
    (hevents : ∀ entry ∈ history.events, entry.Bounded) (hid : IsShort history.jobId)
    (hdigest : IsShort history.jobDigest) : size history.json ≤ 100000 := by
  have hsum : ((history.events.map eventJson).map fun item => 2 + size item).sum ≤
      history.events.length * 10002 := by
    rw [List.map_map]
    refine (List.sum_le_card_nsmul _ 10002 ?_).trans (by simp)
    intro n hn
    obtain ⟨entry, hentry, rfl⟩ := List.mem_map.mp hn
    have hevent := size_event (hevents entry hentry)
    change 2 + size (eventJson entry) ≤ 10002
    omega
  have harr : size (.arr (history.events.map eventJson)) ≤ 40010 := by
    have hle := @sizeWith_arr_le escapeChar _ short_compact (history.events.map eventJson)
    change size _ ≤ 2 + ((history.events.map eventJson).map fun item => 2 + size item).sum at hle
    omega
  refine le_trans (size_cons (by decide) harr <|
    size_cons (by decide) (size_text hdigest) <|
    size_cons (by decide) (size_text hid) <|
    size_cons (by decide) (size_text (by decide)) size_nil) ?_
  norm_num

/-- **The envelope fits.** -/
lemma length_publicEnvelope_le {jobId jobDigest digest : String} {status : StatusProjection}
    {history : HistoryProjection} {receipt : Option Json} (hid : IsShort jobId)
    (hjobDigest : IsShort jobDigest) (hdigest : IsShort digest) (hstatus : status.Bounded)
    (hhistory : size history.json ≤ 100000)
    (hreceipt : ∀ value ∈ receipt, (canonicalManifestBytes value).length ≤ maxReceiptBytes) :
    (canonicalManifestBytes (publicEnvelope jobId jobDigest status history receipt digest)).length ≤
      publicProjectionMaxBytes := by
  have hvalue : size (receipt.getD .null) ≤ 524288 := by
    cases hr : receipt with
    | none =>
        change sizeWith escapeChar compact .null ≤ 524288
        rw [sizeWith_null]
        norm_num
    | some value =>
        have hlen := hreceipt value hr
        rw [length_canonicalManifestBytes] at hlen
        change size value + 1 ≤ _ at hlen
        unfold maxReceiptBytes at hlen
        change size value ≤ 524288
        omega
  have henvelope : size (publicEnvelope jobId jobDigest status history receipt digest) ≤ 1300000 := by
    refine le_trans (size_cons (by decide) hhistory <|
      size_cons (by decide) (size_text hjobDigest) <|
      size_cons (by decide) (size_text hid) <|
      size_cons (by decide) (size_text hdigest) <|
      size_cons (by decide) hvalue <|
      size_cons (by decide) (size_text (by decide)) <|
      size_cons (by decide) (size_status hstatus) size_nil) ?_
    norm_num
  rw [length_canonicalManifestBytes]
  change size (publicEnvelope jobId jobDigest status history receipt digest) + 1 ≤ _
  unfold publicProjectionMaxBytes
  omega

end sizes

end AgentRuntimeOps.RootActions
