import AgentRuntimeOps.RootActions.SystemReads

/-!
# When a running job can be marked as unknown

`_mark_unknown` seals a raw receipt and a notice and writes them together with the transition.  In a
store of the service this succeeds exactly when the event that was drawn fits the job and nothing in
the tables is in its way (`Markable`).
-/

set_option linter.unusedSectionVars false

namespace AgentRuntimeOps.RootActions

open AgentRuntimeOps.Lib Connection Json

/-! ## Raw storage ids -/

/-- Printable ASCII text is ASCII text. -/
lemma encodeAscii_ok {s : String} (h : s.toList.all isPrintableAscii = true) :
    encodeAscii s = .ok (utf8 s.toList) := by
  unfold encodeAscii
  simp only [except_bind_ok, require_ok, exists_const, except_pure_ok]
  refine ⟨?_, trivial⟩
  rw [List.all_eq_true] at h ⊢
  intro c hc
  have hlt := of_decide_eq_true (h c hc)
  exact decide_eq_true (by omega)

lemma isIdChar_of_isHexDigit {c : Char} (h : isHexDigit c = true) : isIdChar c = true := by
  unfold isHexDigit at h
  simp only [Bool.or_eq_true, Bool.and_eq_true, decide_eq_true_eq] at h
  unfold isIdChar isLowerAlnum
  simp only [Bool.or_eq_true]
  refine .inl (.inl (.inl (.inl ?_)))
  rcases h with hdigit | ⟨hlow, hhigh⟩
  · exact .inr hdigit
  · left
    rw [Char.le_def, UInt32.le_iff_toNat_le] at hlow hhigh
    change 97 ≤ c.val.toNat at hlow
    change c.val.toNat ≤ 102 at hhigh
    simp only [Char.isLower, Bool.and_eq_true, decide_eq_true_eq, ge_iff_le,
      UInt32.le_iff_toNat_le]
    exact ⟨hlow, hhigh.trans (by decide)⟩

/-- A raw storage id is made of the two ids and is safe itself. -/
lemma rawStorageId_ok {jobId eventId : String} (hjob : isSafeId jobId = true)
    (hevent : isSafeId eventId = true) :
    ∃ rootStorageId, rawStorageId jobId eventId = .ok rootStorageId ∧
      isSafeId rootStorageId = true := by
  unfold rawStorageId
  rw [encodeAscii_ok (isSafeId_printable hjob), encodeAscii_ok (isSafeId_printable hevent)]
  refine ⟨_, rfl, ?_⟩
  generalize hmessage : tagged "agent-runtime-root-action-raw-storage/v1"
    (utf8 jobId.toList ++ 0 :: utf8 eventId.toList) = message
  have hall := hexdigest_all message
  have hlist : ("raw-" ++ String.ofList ((hexdigest message).take 48)).toList =
      'r' :: ('a' :: 'w' :: '-' :: (hexdigest message).take 48) := by
    simp only [String.toList_append, String.toList_ofList]
    rfl
  unfold isSafeId
  rw [hlist]
  have hrest : ((hexdigest message).take 48).all isIdChar = true := by
    rw [List.all_eq_true] at hall ⊢
    exact fun c hc => isIdChar_of_isHexDigit (hall c (List.mem_of_mem_take hc))
  have hlen : ((hexdigest message).take 48).length ≤ 48 := List.length_take_le _ _
  simp only [Bool.and_eq_true, decide_eq_true_eq, List.all_cons, hrest, List.length_cons]
  exact ⟨⟨by decide, by decide, by decide, by decide, trivial⟩, by omega⟩

/-! ## Sealing -/

variable [UnicodeData]

/-- The digest of the raw receipt of `_mark_unknown`. -/
def noteDigest (failureType reasonCode : String) : String :=
  sha256Digest (failureNote failureType reasonCode)

/-- What `_mark_unknown` seals under a raw storage id. -/
def unknownSealed (job : SealedJob) (rootStorageId occurredAt reasonCode failureType : String) :
    RawReceiptArtifact × ReceiptArtifact :=
  (⟨⟨job.jobId, job.jobDigest, noteDigest failureType reasonCode, rootStorageId⟩,
      failureNote failureType reasonCode⟩,
    receiptArtifact (unknownNotice job (noteDigest failureType reasonCode) occurredAt reasonCode))

lemma receiptId_ok {s : String} (h : isSafeId s = true) (field : String) :
    receiptId (.str s) field = .ok s := safeIdWith_ok.mpr ⟨h, rfl⟩

omit [UnicodeData] in
lemma receiptDigestField_ok {s : String} (h : isDigest s = true) (field : String) :
    receiptDigestField (.str s) field = .ok () := by
  unfold receiptDigestField
  rw [require_ok]
  exact h

lemma postInit_ok {raw : RawReceiptArtifact} (hjob : isSafeId raw.reference.jobId = true)
    (hdigest : isDigest raw.reference.jobDigest = true)
    (hroot : isSafeId raw.reference.rootStorageId = true)
    (hbytes : raw.rawBytes ≠ [] ∧ raw.rawBytes.length ≤ maxRawReceiptBytes)
    (hraw : raw.reference.rawReceiptDigest = sha256Digest raw.rawBytes) :
    raw.postInit = .ok () := by
  have hrawDigest : isDigest raw.reference.rawReceiptDigest = true := by
    rw [hraw]
    exact isDigest_sha256Digest _
  have href : raw.reference.postInit = .ok () := by
    unfold RawReceiptReference.postInit
    rw [receiptId_ok hjob, receiptDigestField_ok hdigest, receiptDigestField_ok hrawDigest,
      receiptId_ok hroot]
    rfl
  unfold RawReceiptArtifact.postInit
  simp only [except_bind_ok, require_ok, exists_const]
  exact ⟨(), href, hbytes, hraw⟩

lemma failureNote_ne_nil (failureType reasonCode : String) :
    failureNote failureType reasonCode ≠ [] := by
  unfold failureNote
  rw [utf8_append]
  simp [utf8]

/-- The common part of a receipt of a job. -/
lemma validateCommon_ok {value : Json} {job : SealedJob} (hjob : job.WellFormed)
    (hschema : value.field "schema" = .str receiptSchema)
    (hid : value.field "job_id" = .str job.jobId)
    (hdigest : value.field "job_digest" = .str job.jobDigest)
    (hoperation : value.field "operation_id" = .str job.operationId)
    (hrequest : value.field "request_id" = .str job.requestId)
    (hreply : value.field "reply_target" = .str job.replyTarget) {rawReceipt : Bool}
    (hraw : rawReceipt = true →
      ∃ d, value.field "raw_receipt_digest" = .str d ∧ isDigest d = true) :
    validateCommon value rawReceipt = .ok () := by
  unfold validateCommon
  rw [require_of hschema, hid, hdigest, hoperation, hrequest, hreply, receiptId_ok hjob.jobId,
    receiptDigestField_ok hjob.jobDigest, receiptId_ok hjob.operationId,
    receiptId_ok hjob.requestId, receiptId_ok hjob.replyTarget]
  cases rawReceipt with
  | false => rfl
  | true =>
      obtain ⟨d, hd, hraw⟩ := hraw rfl
      rw [hd, receiptDigestField_ok hraw]
      rfl

/-- The notice of an unknown outcome passes the checks of `receipts.py`. -/
lemma validateReceipt_unknownNotice {job : SealedJob} {rawReceiptDigest occurredAt reasonCode : String}
    (hjob : job.WellFormed) (hraw : isDigest rawReceiptDigest = true)
    (htime : isRealTimestamp occurredAt = true) (hreason : isSafeId reasonCode = true) :
    validateReceipt (unknownNotice job rawReceiptDigest occurredAt reasonCode) = .ok () := by
  have hcommon : validateCommon (unknownNotice job rawReceiptDigest occurredAt reasonCode) true =
      .ok () :=
    validateCommon_ok hjob rfl rfl rfl rfl rfl rfl fun _ => ⟨rawReceiptDigest, rfl, hraw⟩
  have htimestamp : receiptTimestamp (.str occurredAt) "last_known_at" = .ok occurredAt :=
    timestampWith_ok htime
  change validateUnknown (unknownNotice job rawReceiptDigest occurredAt reasonCode) = .ok ()
  have hnull : (unknownNotice job rawReceiptDigest occurredAt reasonCode).field "terminal_outcome" =
    .null := rfl
  have htime' : (unknownNotice job rawReceiptDigest occurredAt reasonCode).field "last_known_at" =
    .str occurredAt := rfl
  have hreason' : (unknownNotice job rawReceiptDigest occurredAt reasonCode).field "reason_code" =
    .str reasonCode := rfl
  unfold validateUnknown exact
  rw [require_of ⟨rfl, rfl⟩, hcommon, require_of hnull, htime', hreason', htimestamp,
    receiptId_ok hreason]
  rfl

/-- An object of short texts stays below the limit of a receipt. -/
lemma size_unknownNotice_le {escape : Char → List Char} {sep : Separators} (hescape : Escapes escape)
    (hsep : sep.Short) {job : SealedJob} {rawReceiptDigest occurredAt reasonCode : String}
    (hjob : job.WellFormed) (hraw : isDigest rawReceiptDigest = true)
    (htime : isRealTimestamp occurredAt = true) (hreason : isSafeId reasonCode = true) :
    sizeWith escape sep (unknownNotice job rawReceiptDigest occurredAt reasonCode) ≤ 20000 := by
  have htext : ∀ {s : String}, IsShort s → sizeWith escape sep (.str s) ≤ 770 :=
    size_str_le hescape
  have hnull : sizeWith escape sep .null ≤ 770 := by
    rw [sizeWith_null]
    norm_num
  have hcons : ∀ {name : String} {value : Json} {rest : List (String × Json)} {c : Nat},
      (utf8 name.toList).length ≤ 64 → sizeWith escape sep value ≤ 770 →
      sizeWith escape sep (.obj rest) ≤ c →
      sizeWith escape sep (.obj ((name, value) :: rest)) ≤ 390 + 770 + c :=
    sizeWith_obj_cons_le hescape hsep
  refine le_trans (hcons (by decide) (htext (isShort_of_isDigest hjob.jobDigest)) <|
    hcons (by decide) (htext (isShort_of_isSafeId hjob.jobId)) <|
    hcons (by decide) (htext (by decide)) <|
    hcons (by decide) (htext (isShort_of_isRealTimestamp htime)) <|
    hcons (by decide) (htext (isShort_of_isSafeId hjob.operationId)) <|
    hcons (by decide) (htext (isShort_of_isDigest hraw)) <|
    hcons (by decide) (htext (isShort_of_isSafeId hreason)) <|
    hcons (by decide) (htext (isShort_of_isSafeId hjob.replyTarget)) <|
    hcons (by decide) (htext (isShort_of_isSafeId hjob.requestId)) <|
    hcons (by decide) (htext (by decide)) <|
    hcons (by decide) hnull sizeWith_obj_nil_le) ?_
  norm_num

/-- A small receipt is sealed again when it is read back. -/
lemma sealReceipt_canonical {value : Json} (hobject : value.isObject = true)
    (hvalid : validateReceipt value = .ok ()) (hsize : size value ≤ 20000) :
    sealReceipt (Document.canonical value) = .ok (receiptArtifact value) := by
  have hlen : (canonicalManifestBytes value).length = size value + 1 :=
    length_canonicalManifestBytes value
  refine sealReceipt_ok.mpr ⟨⟨?_, ?_⟩, hobject, hvalid, rfl⟩
  · change 0 < (canonicalManifestBytes value).length
    omega
  · change (canonicalManifestBytes value).length ≤ maxReceiptBytes
    unfold maxReceiptBytes
    omega

/-- The notice is sealed, as it is written and as it is read back. -/
lemma sealReceipt_unknownNotice {job : SealedJob} {rawReceiptDigest occurredAt reasonCode : String}
    (hjob : job.WellFormed) (hraw : isDigest rawReceiptDigest = true)
    (htime : isRealTimestamp occurredAt = true) (hreason : isSafeId reasonCode = true) :
    sealReceipt (asciiReceiptDocument (unknownNotice job rawReceiptDigest occurredAt reasonCode)) =
        .ok (receiptArtifact (unknownNotice job rawReceiptDigest occurredAt reasonCode)) ∧
      sealReceipt (Document.canonical (unknownNotice job rawReceiptDigest occurredAt reasonCode)) =
        .ok (receiptArtifact (unknownNotice job rawReceiptDigest occurredAt reasonCode)) := by
  have hvalid := validateReceipt_unknownNotice hjob hraw htime hreason
  have hascii := size_unknownNotice_le escapes_escapeCharAscii short_spaced hjob hraw htime hreason
  have hcanonical := size_unknownNotice_le escapes_escapeChar short_compact hjob hraw htime hreason
  constructor
  · refine sealReceipt_ok.mpr ⟨⟨?_, ?_⟩, rfl, hvalid, rfl⟩
    · exact List.length_pos_of_ne_nil (by simp [unknownNotice, dumpsAsciiSpaced, dumpsWith, utf8])
    · exact le_trans hascii (by decide)
  · exact sealReceipt_canonical rfl hvalid hcanonical

/-- The notice of a job that ends before it starts passes the checks of `receipts.py`. -/
lemma validateReceipt_terminalNotice {job : SealedJob} {outcome : TerminalOutcome}
    {reasonCode : String} (hjob : job.WellFormed) (houtcome : outcome.isExecuted = false)
    (hreason : isSafeId reasonCode = true) :
    validateReceipt (terminalNotice job outcome.value reasonCode) = .ok () := by
  have hcommon : validateCommon (terminalNotice job outcome.value reasonCode) false = .ok () :=
    validateCommon_ok hjob rfl rfl rfl rfl rfl rfl nofun
  have hreason' : (terminalNotice job outcome.value reasonCode).field "reason_code" =
    .str reasonCode := rfl
  have houtcome' : outcomeIn (terminalNotice job outcome.value reasonCode)
      ["rejected", "expired", "canceled", "prestart_failed"]
      "terminal notice has an invalid terminal_outcome" = .ok () := by
    cases outcome with
    | succeeded => cases houtcome
    | failed => cases houtcome
    | rejected => rfl
    | expired => rfl
    | canceled => rfl
    | prestartFailed => rfl
  change validateTerminalNotice (terminalNotice job outcome.value reasonCode) = .ok ()
  unfold validateTerminalNotice exact
  rw [require_of ⟨rfl, rfl⟩, hcommon, houtcome', hreason', receiptId_ok hreason]
  rfl

lemma size_terminalNotice_le {escape : Char → List Char} {sep : Separators}
    (hescape : Escapes escape) (hsep : sep.Short) {job : SealedJob} (outcome : TerminalOutcome)
    {reasonCode : String} (hjob : job.WellFormed) (hreason : isSafeId reasonCode = true) :
    sizeWith escape sep (terminalNotice job outcome.value reasonCode) ≤ 20000 := by
  have htext : ∀ {s : String}, IsShort s → sizeWith escape sep (.str s) ≤ 770 :=
    size_str_le hescape
  have hcons : ∀ {name : String} {value : Json} {rest : List (String × Json)} {c : Nat},
      (utf8 name.toList).length ≤ 64 → sizeWith escape sep value ≤ 770 →
      sizeWith escape sep (.obj rest) ≤ c →
      sizeWith escape sep (.obj ((name, value) :: rest)) ≤ 390 + 770 + c :=
    sizeWith_obj_cons_le hescape hsep
  refine le_trans (hcons (by decide) (htext (isShort_of_isDigest hjob.jobDigest)) <|
    hcons (by decide) (htext (isShort_of_isSafeId hjob.jobId)) <|
    hcons (by decide) (htext (by decide)) <|
    hcons (by decide) (htext (isShort_of_isSafeId hjob.operationId)) <|
    hcons (by decide) (htext (isShort_of_isSafeId hreason)) <|
    hcons (by decide) (htext (isShort_of_isSafeId hjob.replyTarget)) <|
    hcons (by decide) (htext (isShort_of_isSafeId hjob.requestId)) <|
    hcons (by decide) (htext (by decide)) <|
    hcons (by decide) (htext (@isShort_outcome (some outcome) _ rfl))
      sizeWith_obj_nil_le) ?_
  norm_num

/-- The notice of a job that ends before it starts is sealed, as it is written and as it is read
back. -/
lemma sealReceipt_terminalNotice {job : SealedJob} {outcome : TerminalOutcome} {reasonCode : String}
    (hjob : job.WellFormed) (houtcome : outcome.isExecuted = false)
    (hreason : isSafeId reasonCode = true) :
    sealReceipt (receiptDocument (terminalNotice job outcome.value reasonCode)) =
        .ok (receiptArtifact (terminalNotice job outcome.value reasonCode)) ∧
      sealReceipt (Document.canonical (terminalNotice job outcome.value reasonCode)) =
        .ok (receiptArtifact (terminalNotice job outcome.value reasonCode)) := by
  have hvalid := validateReceipt_terminalNotice hjob houtcome hreason
  have hspaced := size_terminalNotice_le escapes_escapeChar short_spaced outcome hjob hreason
  have hcanonical := size_terminalNotice_le escapes_escapeChar short_compact outcome hjob hreason
  constructor
  · refine sealReceipt_ok.mpr ⟨⟨?_, ?_⟩, rfl, hvalid, rfl⟩
    · exact List.length_pos_of_ne_nil (by simp [terminalNotice, dumpsSpaced, dumpsWith, utf8])
    · exact le_trans hspaced (by decide)
  · exact sealReceipt_canonical rfl hvalid hcanonical

/-- **What `_mark_unknown` seals.** -/
lemma sealUnknown_eq {job : SealedJob} {eventId occurredAt reasonCode failureType : String}
    (hjob : job.WellFormed) (hevent : isSafeId eventId = true)
    (htime : isRealTimestamp occurredAt = true) (hreason : isSafeId reasonCode = true)
    (hnote : (failureNote failureType reasonCode).length ≤ maxRawReceiptBytes) :
    ∃ rootStorageId, rawStorageId job.jobId eventId = .ok rootStorageId ∧
      isSafeId rootStorageId = true ∧
      sealUnknown job eventId occurredAt reasonCode failureType =
        .ok (unknownSealed job rootStorageId occurredAt reasonCode failureType) := by
  obtain ⟨rootStorageId, hroot, hsafe⟩ := rawStorageId_ok hjob.jobId hevent
  refine ⟨rootStorageId, hroot, hsafe, sealUnknown_ok.mpr ⟨rootStorageId, hroot, ?_, ?_⟩⟩
  · have hbytes : failureNote failureType reasonCode ≠ [] ∧
        (failureNote failureType reasonCode).length ≤ maxRawReceiptBytes :=
      ⟨failureNote_ne_nil _ _, hnote⟩
    unfold sealRawReceipt
    rw [require_of hbytes]
    have hpost : (unknownSealed job rootStorageId occurredAt reasonCode failureType).1.postInit =
        .ok () :=
      postInit_ok hjob.jobId hjob.jobDigest hsafe hbytes rfl
    exact except_bind_ok.mpr ⟨(), rfl, except_bind_ok.mpr ⟨(), hpost, rfl⟩⟩
  · exact (sealReceipt_unknownNotice hjob (isDigest_sha256Digest _) htime hreason).1

/-! ## Claiming -/

/-- The record of a claimed job. -/
def claimedRecord (job : SealedJob) (r : JobRecord) (event : String × String) : JobRecord :=
  updatedRecord r (claimEvent job r.revision event) .running 1 none none

/-- **A pending job is claimed** by a later event. -/
lemma claim_ok {s : Store} {jobId : String} {job : SealedJob} {r : JobRecord}
    {event : String × String} (hs : SystemInv s) (hk : Known s jobId job r)
    (hpending : r.state = .pending) (hevent : isSafeId event.1 = true)
    (htime : isRealTimestamp event.2 = true) (hlater : r.lastChangedAt ≤ event.2)
    (hfresh : ∀ e ∈ s.ledger, e.jobId = job.jobId → e.eventId ≠ event.1)
    (hroom : s.ledger.length < maxRowId) :
    Connection.compareAndAppend (claimEvent job r.revision event) s =
      (.ok (claimedRecord job r event), appended s r (claimedRecord job r event)
        (claimEvent job r.revision event)) := by
  have hid : job.jobId = r.jobId := hk.id.trans hk.recordId.symm
  have hlast : event.1 ≠ r.lastEventId := by
    obtain ⟨e, he, hsame⟩ := (hk.chain hs).lastEventId
    obtain ⟨hledger, hjob⟩ := List.mem_filter.mp he
    rw [← hsame]
    exact (hfresh e hledger ((of_decide_eq_true hjob).trans hk.id.symm)).symm
  have happly : applyTransition r (claimEvent job r.revision event) =
      .ok (claimedRecord job r event) := by
    refine applyTransition_ok.mpr ⟨⟨hk.valid, hevent, htime, hid, hk.digest, rfl, hlater, hlast⟩,
      .claim rfl hpending (hk.valid.pending hpending).1 rfl rfl rfl, ?_⟩
    exact ⟨hk.valid.jobId, hk.valid.jobDigest, .inr rfl, hevent, htime, rfl, nofun⟩
  refine compareAndAppend_ok.mpr ⟨r, ?_, happly, hfresh, hroom, rfl⟩
  change s.records.find? job.jobId = some r
  rw [hk.id]
  exact hk.found

/-! ## Marking -/

/-- The event fits the record, and nothing in the tables is in the way of its receipts. -/
structure Markable (s : Store) (job : SealedJob) (r : JobRecord) (event : String × String)
    (reasonCode failureType : String) : Prop where
  eventId : isSafeId event.1 = true
  time : isRealTimestamp event.2 = true
  later : r.lastChangedAt ≤ event.2
  fresh : ∀ e ∈ s.ledger, e.jobId = job.jobId → e.eventId ≠ event.1
  room : s.ledger.length < maxRowId
  rawFree : ∀ rootStorageId, rawStorageId job.jobId event.1 = .ok rootStorageId →
    ∀ row ∈ s.rawReceipts.rows, row.reference.rootStorageId ≠ rootStorageId
  receiptFree : s.receipts.find? (receiptDigestOf (unknownNotice job
    (noteDigest failureType reasonCode) event.2 reasonCode)) = none
  note : (failureNote failureType reasonCode).length ≤ maxRawReceiptBytes

/-- The record of a job whose outcome is unknown. -/
def unknownRecord (job : SealedJob) (r : JobRecord) (event : String × String) (reasonCode : String) :
    JobRecord :=
  updatedRecord r (markUnknownEvent job r event.1 event.2 reasonCode) .unknown 1 none
    (some reasonCode)

section marking

variable {s : Store} {jobId : String} {job : SealedJob} {r : JobRecord} {event : String × String}
    {reasonCode failureType recordReason : String}

/-- A running record moves to `UNKNOWN` at a later event. -/
lemma applyTransition_mark (hk : Known s jobId job r) (hrunning : r.state = .running)
    (hreason : isSafeId recordReason = true) (hs : SystemInv s)
    (h : Markable s job r event reasonCode failureType) :
    applyTransition r (markUnknownEvent job r event.1 event.2 recordReason) =
      .ok (unknownRecord job r event recordReason) := by
  have hcount := (hk.valid.running hrunning).1
  have hid : job.jobId = r.jobId := hk.id.trans hk.recordId.symm
  have hlast : event.1 ≠ r.lastEventId := by
    -- The last event of the record is a row of the ledger.
    obtain ⟨e, he, hevent⟩ := (hk.chain hs).lastEventId
    obtain ⟨hledger, hjob⟩ := List.mem_filter.mp he
    rw [← hevent]
    exact (h.fresh e hledger ((of_decide_eq_true hjob).trans hk.id.symm)).symm
  refine applyTransition_ok.mpr ⟨⟨hk.valid, h.eventId, h.time, hid, hk.digest, rfl, h.later, hlast⟩,
    .mark rfl hrunning hcount rfl recordReason rfl rfl, ?_⟩
  refine ⟨hk.valid.jobId, hk.valid.jobDigest, .inr rfl, h.eventId, h.time, rfl, ?_⟩
  intro reason hmem
  cases hmem
  exact hreason

/-- A running job has no receipts. -/
lemma unpublished_of_running (hs : SystemInv s) (hk : Known s jobId job r)
    (hrunning : r.state = .running) :
    s.rawReceipts.find? jobId = none ∧ s.receiptCurrent.find? jobId = none := by
  refine (hs.settled jobId).unpublished fun r' hr' => ?_
  rw [hk.found] at hr'
  cases hr'
  rw [hrunning]
  rfl

/-- A running job is marked as unknown, with a receipt whose reason may be another one than that of
the event. -/
lemma mark_ok_of_reasons (hs : SystemInv s) (hk : Known s jobId job r)
    (hrunning : r.state = .running) (hreason : isSafeId reasonCode = true)
    (hrecord : isSafeId recordReason = true)
    (h : Markable s job r event reasonCode failureType) :
    ∃ sealed s', sealUnknown job event.1 event.2 reasonCode failureType = .ok sealed ∧
      sealed.1.reference.rawReceiptDigest = noteDigest failureType reasonCode ∧
      Store.markClaimedExecutionUnknown (markUnknownEvent job r event.1 event.2 recordReason)
        sealed.1 sealed.2 s = (.ok (unknownRecord job r event recordReason), s') := by
  have hjob := hk.wellFormed
  have hrawDigest : isDigest (noteDigest failureType reasonCode) = true := isDigest_sha256Digest _
  obtain ⟨rootStorageId, hroot, hsafe, hsealed⟩ := sealUnknown_eq hjob h.eventId h.time hreason h.note
  obtain ⟨hnoRaw, hnoPointer⟩ := unpublished_of_running hs hk hrunning
  have happly := applyTransition_mark hk hrunning hrecord hs h
  set sealed := unknownSealed job rootStorageId event.2 reasonCode failureType with hsealedDef
  have hseal : sealReceipt (Document.canonical sealed.2.canonicalReceipt) = .ok sealed.2 :=
    (sealReceipt_unknownNotice hjob hrawDigest h.time hreason).2
  -- The raw receipt is stored, the record moves, and the notice is published.
  obtain ⟨rawReceipts, hinsRaw, -⟩ := Table.insert?_eq_some (t := s.rawReceipts) (r := sealed.1)
    (by rw [← hnoRaw, ← hk.id]; rfl)
  have hraw : insertRaw sealed.1 s = (.ok (), { s with rawReceipts := rawReceipts }) :=
    insertRaw_ok.mpr ⟨rawReceipts, h.rawFree rootStorageId hroot, hinsRaw, rfl⟩
  have happend : Connection.compareAndAppend (markUnknownEvent job r event.1 event.2 recordReason)
      { s with rawReceipts := rawReceipts } = (.ok (unknownRecord job r event recordReason),
        appended { s with rawReceipts := rawReceipts } r (unknownRecord job r event recordReason)
          (markUnknownEvent job r event.1 event.2 recordReason)) := by
    refine compareAndAppend_ok.mpr ⟨r, ?_, happly, h.fresh, h.room, rfl⟩
    change s.records.find? job.jobId = some r
    rw [hk.id]
    exact hk.found
  set s₂ := appended { s with rawReceipts := rawReceipts } r (unknownRecord job r event recordReason)
    (markUnknownEvent job r event.1 event.2 recordReason) with hs₂
  have hcurrent : s₂.currentReceipt? sealed.2.jobId = none := by
    have hpointer : s₂.receiptCurrent.find? sealed.2.jobId = none := by
      rw [← hnoPointer, ← hk.id]
      rfl
    unfold Store.currentReceipt?
    rw [hpointer]
    rfl
  have hvalid : validateReceiptPublication sealed.2 s₂ = .ok () := by
    have hread : s₂.readSealed sealed.2.jobId = .ok job := by
      have hold := hk.readSealed
      rw [← hk.id] at hold
      exact hold
    have hrecord : s₂.readRecord sealed.2.jobId = .ok (unknownRecord job r event recordReason) := by
      refine readRecord_ok.mpr ⟨?_, (applyTransition_ok.mp happly).2.2⟩
      have hfind := find?_of_compareAndAppend happend job.jobId
      exact hfind.trans (if_pos rfl)
    have hstored : s₂.rawReceipts.find? sealed.2.jobId = some sealed.1 :=
      (Table.find?_insert? hinsRaw _).trans (if_pos rfl)
    unfold validateReceiptPublication
    simp only [except_bind_ok, require_ok, exists_const]
    refine ⟨job, hread, _, hrecord, ⟨rfl, rfl, rfl, rfl⟩, rfl, fun _ => ?_, ?_⟩
    · rw [hstored]
      exact decide_eq_true rfl
    · exact (if_pos rfl).trans (require_of ⟨rfl, rfl⟩)
  obtain ⟨receipts, hinsReceipt, -⟩ := Table.insert?_eq_some (t := s₂.receipts)
    (r := receiptRow sealed.2) h.receiptFree
  obtain ⟨pointers, hinsPointer, -⟩ := Table.insert?_eq_some (t := s₂.receiptCurrent)
    (r := ⟨sealed.2.jobId, sealed.2.receiptDigest⟩) (by rw [← hnoPointer, ← hk.id]; rfl)
  have hins : insertReceipt sealed.2 s₂ =
      (.ok (), { s₂ with receipts := receipts, receiptCurrent := pointers }) := by
    refine insertReceipt_ok.mpr ⟨receipts, pointers, ?_, hinsReceipt, .inl ⟨hcurrent, hinsPointer⟩,
      rfl⟩
    intro row hrow
    rw [hcurrent] at hrow
    cases hrow
  refine ⟨sealed, _, hsealed, rfl, Store.markClaimedExecutionUnknown_ok.mpr ⟨?_, rfl,
    Store.finalizeClaimedExecution_ok.mpr ⟨verifyReceipt_ok.mpr hseal, ⟨rfl, rfl, rfl, rfl, rfl⟩,
      job, _, _, ?_, rfl, hraw, happend, hvalid, hins⟩⟩⟩
  · exact postInit_ok hjob.jobId hjob.jobDigest hsafe ⟨failureNote_ne_nil _ _, h.note⟩ rfl
  · have hread := hk.readSealed
    rw [← hk.id] at hread
    exact hread

/-- **A running job is marked as unknown** when the event fits and nothing is in the way. -/
theorem mark_ok (hs : SystemInv s) (hk : Known s jobId job r) (hrunning : r.state = .running)
    (hreason : isSafeId reasonCode = true) (h : Markable s job r event reasonCode failureType) :
    ∃ sealed s', sealUnknown job event.1 event.2 reasonCode failureType = .ok sealed ∧
      sealed.1.reference.rawReceiptDigest = noteDigest failureType reasonCode ∧
      Store.markClaimedExecutionUnknown (markUnknownEvent job r event.1 event.2 reasonCode)
        sealed.1 sealed.2 s = (.ok (unknownRecord job r event reasonCode), s') :=
  mark_ok_of_reasons hs hk hrunning hreason hreason h

end marking

/-! ## The end of an execution -/

/-- The end of an execution moves a running job to a final state, one revision further. -/
lemma finalize_moves {event : TransitionEvent} {raw : RawReceiptArtifact} {receipt : ReceiptArtifact}
    {s s' : Store} {record : JobRecord}
    (hkind : event.kind = .completeExecution ∨ event.kind = .markUnknown)
    (h : Store.finalizeClaimedExecution event raw receipt s = (.ok record, s')) :
    ∃ r, s.records.find? event.jobId = some r ∧ r.state.isFinal = false ∧
      s'.records.find? event.jobId = some record ∧ record.state.isFinal = true ∧
      record.revision = r.revision + 1 := by
  obtain ⟨-, -, job, s₁, s₂, -, -, hraw, happend, -, hins⟩ := Store.finalizeClaimedExecution_ok.mp h
  have hfind := find?_of_compareAndAppend happend event.jobId
  rw [if_pos rfl] at hfind
  obtain ⟨rawReceipts, -, -, rfl⟩ := insertRaw_ok.mp hraw
  obtain ⟨r, hr, happly, -, -, rfl⟩ := compareAndAppend_ok.mp happend
  obtain ⟨receipts, pointers, -, -, -, rfl⟩ := insertReceipt_ok.mp hins
  obtain ⟨-, -, hrevision, -⟩ := identity_of_transition happly
  obtain ⟨-, hmoves, -⟩ := applyTransition_ok.mp happly
  refine ⟨r, hr, ?_, hfind, ?_, hrevision⟩
  · cases hmoves with
    | complete _ hs => rw [hs]; rfl
    | mark _ hs => rw [hs]; rfl
    | claim hk | close hk | reconcile hk =>
        rw [hk] at hkind
        rcases hkind with hk' | hk'
        · cases hk'
        · cases hk'
  · cases hmoves with
    | complete _ _ _ _ _ _ _ _ hres => rw [hres]; rfl
    | mark _ _ _ _ _ _ hres => rw [hres]; rfl
    | claim hk | close hk | reconcile hk =>
        rw [hk] at hkind
        rcases hkind with hk' | hk'
        · cases hk'
        · cases hk'

/-! ## A claimed job -/

/-- An automatic job is admitted into the empty store. -/
lemma sealWithLineageAdmission_empty {job : SealedJob} {eventId occurredAt cutoff : String}
    {circuitEvent : TransitionEvent} {circuitNotice : ReceiptArtifact}
    {submission : SubmissionMetadata} {limits : SubmissionLimits} {policy : LineageFailurePolicy}
    {summary : LineageSummary} (hverify : verifyJob job = .ok ())
    (hnotice : verifyReceipt circuitNotice = .ok ())
    (hvalid : (pendingRecord job eventId occurredAt).Valid)
    (hsubmission : validateSubmission submission limits = .ok ())
    (hcutoff : secondsBefore submission.brokerReceivedAt limits.windowSeconds = .ok cutoff)
    (hsummary : Store.empty.lineageSummary job.lineageId submission.brokerReceivedAt policy =
      .ok summary)
    (hclosed : summary.technicalFailureCount < policy.maximumTechnicalFailures) :
    ∃ s', Store.sealWithLineageAdmission job eventId occurredAt circuitEvent circuitNotice submission
        limits policy Store.empty = (.ok (pendingRecord job eventId occurredAt, ⟨none, summary⟩), s') ∧
      s'.HoldsOnly job submission (pendingRecord job eventId occurredAt) := by
  obtain ⟨s₀, s', hjob, hrecord, hholds⟩ := admits_empty job submission eventId occurredAt
  have hlimits := enforceSubmissionLimits_empty job hsubmission hcutoff
  refine ⟨s', ?_, hholds⟩
  unfold Store.sealWithLineageAdmission
  simp only [Tx.bind_ok, Tx.ofExcept_ok, Tx.reads_ok, Tx.require_ok, Tx.readsOrRaise_ok,
    Tx.transaction_ok, Tx.pure_ok, Tx.ite_ok]
  exact ⟨(), _, ⟨hverify, rfl⟩, (), _, ⟨hnotice, rfl⟩, _, _,
    ⟨initialRecord_ok.mpr ⟨rfl, hvalid⟩, rfl⟩, (), _, ⟨hsubmission, rfl⟩, _, _, ⟨rfl, rfl⟩, (), _,
    ⟨rfl, rfl⟩, (), _, ⟨hlimits, rfl⟩, summary, _, ⟨hsummary, rfl⟩,
    .inr ⟨by omega, (), _, hjob, (), _, hrecord, rfl, rfl⟩⟩

/-- The record of the sample job when it is sealed. -/
def samplePending : JobRecord := pendingRecord sampleJob "event-1" "2026-01-01T00:00:00Z"

/-- The notice that goes with the sample job in case the circuit of its lineage is open. -/
def sampleNotice : ReceiptArtifact :=
  receiptArtifact (terminalNotice sampleJob "prestart_failed" "technical_failure_circuit_open")

/-- The seal of the sample job. -/
def sampleSeal : StoreWrite :=
  .sealWithLineageAdmission sampleJob "event-1" "2026-01-01T00:00:00Z"
    (closeEvent sampleJob ("event-0", "2026-01-01T00:00:00Z") .prestartFailed
      (some "technical_failure_circuit_open")) sampleNotice
    ⟨0, 0, 0, "2026-01-01T00:00:00Z"⟩ {} .standard

/-- The answer to it. -/
def sampleAdmission : JobRecord × SubmissionAdmission :=
  (samplePending, ⟨none, ⟨"lineage", "2026-01-01T00:00:00Z", 86400, 0, ⟨0, 0, 0, 0, 0, 0⟩, 0⟩⟩)

omit [UnicodeData] in
lemma seal_sampleNotice :
    let _ := UnicodeData.asciiOnly
    sealReceipt (receiptDocument (terminalNotice sampleJob "prestart_failed"
        "technical_failure_circuit_open")) = .ok sampleNotice ∧
      sealReceipt (Document.canonical sampleNotice.canonicalReceipt) = .ok sampleNotice := by
  intro _
  have hjob : sampleJob.WellFormed := wellFormed_of_seal seal_sampleManifest
  have hreason : isSafeId "technical_failure_circuit_open" = true := by decide
  have hnotice := @sealReceipt_terminalNotice _ sampleJob .prestartFailed
    "technical_failure_circuit_open" hjob rfl hreason
  have hvalue : TerminalOutcome.prestartFailed.value = "prestart_failed" := rfl
  rw [hvalue] at hnotice
  exact hnotice

omit [UnicodeData] in
/-- The sample job is sealed. -/
lemma sealed_sample :
    let _ := UnicodeData.asciiOnly
    ∃ s, sampleSeal.run Store.empty = (.ok sampleAdmission, s) ∧
      s.HoldsOnly sampleJob ⟨0, 0, 0, "2026-01-01T00:00:00Z"⟩ samplePending := by
  intro _
  have hjob : sampleJob.WellFormed := wellFormed_of_seal seal_sampleManifest
  have hverify : verifyJob sampleJob = .ok () := verifyJob_ok.mpr seal_sampleManifest
  have hnotice : verifyReceipt sampleNotice = .ok () := verifyReceipt_ok.mpr seal_sampleNotice.2
  have hvalid : samplePending.Valid :=
    valid_pendingRecord hjob (by decide) (by decide)
  have hsubmission : validateSubmission ⟨0, 0, 0, "2026-01-01T00:00:00Z"⟩ {} = .ok () := by
    decide
  have hcutoff : secondsBefore "2026-01-01T00:00:00Z" 3600 = .ok "2025-12-31T23:00:00Z" := by
    decide
  have hsummary : Store.empty.lineageSummary "lineage" "2026-01-01T00:00:00Z" .standard =
      .ok ⟨"lineage", "2026-01-01T00:00:00Z", 86400, 0, ⟨0, 0, 0, 0, 0, 0⟩, 0⟩ := by
    decide
  have hclosed : 0 < ({} : LineageFailurePolicy).maximumTechnicalFailures := by decide
  exact sealWithLineageAdmission_empty hverify hnotice hvalid hsubmission hcutoff hsummary hclosed

omit [UnicodeData] in
lemma admitted_sample : ∃ s, @ReachableBy UnicodeData.asciiOnly (fun c => c.isSystem = true) s ∧
    s.HoldsOnly sampleJob ⟨0, 0, 0, "2026-01-01T00:00:00Z"⟩ samplePending := by
  let _ := UnicodeData.asciiOnly
  obtain ⟨s, hrun, hholds⟩ := sealed_sample
  exact ⟨s, Reaches.tail .refl rfl (congrArg some (StoreWrite.after_of_ok hrun)), hholds⟩

lemma Store.HoldsOnly.known {s : Store} {job : SealedJob} {submission : SubmissionMetadata}
    {pending : JobRecord} (h : s.HoldsOnly job submission pending) (hs : SystemInv s)
    (hid : pending.jobId = job.jobId) : Known s job.jobId job pending := by
  have hfound : s.records.find? job.jobId = some pending := by
    rw [Table.find?_eq_some_iff, h.records]
    exact ⟨List.mem_singleton.mpr rfl, hid⟩
  have hrow : s.jobs.find? job.jobId = some ⟨job, submission⟩ := by
    rw [Table.find?_eq_some_iff, h.jobs]
    exact ⟨List.mem_singleton.mpr rfl, rfl⟩
  obtain ⟨job', hk⟩ := Known.of_record hs hfound
  obtain ⟨submission', hrow'⟩ := hk.row
  rw [hrow] at hrow'
  cases hrow'
  exact hk

/-- The claim of the sample job. -/
def sampleClaim : StoreWrite :=
  .compareAndAppend (claimEvent sampleJob 0 ("event-2", "2026-01-01T00:00:01Z"))

/-- The record of the claimed sample job. -/
def sampleClaimed : JobRecord :=
  claimedRecord sampleJob samplePending ("event-2", "2026-01-01T00:00:01Z")

/-- The store holds the sample job, claimed, and no receipts. -/
structure Store.HoldsClaimed (s : Store) : Prop where
  known : Known s "job" sampleJob sampleClaimed
  records : s.records.rows = [sampleClaimed]
  events : s.ledger.map (·.eventId) = ["event-1", "event-2"]
  rawReceipts : s.rawReceipts = Store.empty.rawReceipts
  receipts : s.receipts = Store.empty.receipts

omit [UnicodeData] in
/-- The sample job is claimed. -/
lemma claimed_sample {s : Store} {submission : SubmissionMetadata} :
    let _ := UnicodeData.asciiOnly
    SystemInv s → s.HoldsOnly sampleJob submission samplePending →
    sampleClaim.run s = (.ok sampleClaimed, sampleClaim.after s) ∧
      (sampleClaim.after s).HoldsClaimed := by
  intro _ hinv hholds
  have hk := hholds.known hinv rfl
  have hfresh : ∀ e ∈ s.ledger, e.jobId = sampleJob.jobId → e.eventId ≠ "event-2" := by
    rw [hholds.ledger]
    intro e he _
    rw [List.mem_singleton.mp he]
    decide
  have hroom : s.ledger.length < maxRowId := by
    rw [hholds.ledger]
    decide
  let event : String × String := ("event-2", "2026-01-01T00:00:01Z")
  have hclaim := @claim_ok _ s _ _ _ event hinv hk rfl (by decide) (by decide)
    (by decide) hfresh hroom
  have hrun : sampleClaim.run s = (.ok sampleClaimed, _) := Tx.transaction_ok.mpr hclaim
  have hafter := StoreWrite.after_of_ok hrun
  have hfind := find?_of_compareAndAppend hclaim "job"
  obtain ⟨r', hk', -⟩ := hk.later hinv (Store.LeadsTo.after (c := sampleClaim) rfl s)
  rw [hafter] at hk' ⊢
  obtain rfl : r' = sampleClaimed := Option.some.inj (hk'.found.symm.trans (hfind.trans (if_pos rfl)))
  refine ⟨hrun, hk', ?_, ?_, hholds.rawReceipts, hholds.receipts⟩
  · have hlen : (updatedRecords s samplePending sampleClaimed).rows.length = 1 := by
      unfold updatedRecords
      rw [Table.length_updateWhere, hholds.records]
      rfl
    obtain ⟨row, hrows⟩ := List.length_eq_one_iff.mp hlen
    have hmem : sampleClaimed ∈ (updatedRecords s samplePending sampleClaimed).rows :=
      Table.mem_of_find? hk'.found
    rw [hrows] at hmem
    rw [List.mem_singleton.mp hmem]
    exact hrows
  · change (s.ledger ++ [_]).map _ = _
    rw [hholds.ledger]
    rfl

omit [UnicodeData] in
lemma running_sample : ∃ s, @ReachableBy UnicodeData.asciiOnly (fun c => c.isSystem = true) s ∧
    @Store.HoldsClaimed UnicodeData.asciiOnly s := by
  let _ := UnicodeData.asciiOnly
  obtain ⟨s, hs, hholds⟩ := admitted_sample
  exact ⟨_, Reaches.tail hs rfl rfl, (claimed_sample (SystemInv.of_reachable hs) hholds).2⟩

/-- The event of the sample runs that ends the execution. -/
def sampleEnd : String × String := ("event-3", "2026-01-01T00:00:02Z")

/-- The outcome of the sample job can be marked as unknown. -/
lemma markable_sample {s : Store} (h : s.HoldsClaimed) {reasonCode failureType : String}
    (hnote : (failureNote failureType reasonCode).length ≤ maxRawReceiptBytes) :
    Markable s sampleJob sampleClaimed sampleEnd reasonCode failureType := by
  have hlen : s.ledger.length = 2 := by
    rw [← List.length_map (fun e : LedgerEntry => e.eventId), h.events]
    rfl
  refine ⟨by decide, by decide, by decide, ?_, ?_, ?_, ?_, hnote⟩
  · intro e he _ hevent
    have hmem : e.eventId ∈ ["event-1", "event-2"] := by
      rw [← h.events]
      exact List.mem_map.mpr ⟨e, he, rfl⟩
    rw [hevent] at hmem
    exact absurd hmem (by decide)
  · rw [hlen]
    decide
  · intro _ _ row hrow
    rw [h.rawReceipts] at hrow
    cases hrow
  · rw [h.receipts]
    rfl

end AgentRuntimeOps.RootActions
