import AgentRuntimeOps.Lib.JsonRoundTrip
import AgentRuntimeOps.Lib.JsonSize
import AgentRuntimeOps.RootActions.Receipts

/-!
# Sealing from bytes

`seal_typed_manifest` and `seal_receipt` as they are called: on bytes.  The bytes are decoded as
UTF-8 and JSON, and the value they spell is sealed as in `Contracts` and `Receipts`.

How many nested containers the interpreter's stack has room for, at a call of `json.loads` and at
one of `json.dumps`, is a parameter (`JsonDepth`); beyond it the call raises a `RecursionError`.
A value whose texts hold a lone surrogate has no canonical bytes.  The source finds that out at
the end of sealing, if no check rejects the value before; here it is the first check.

Sealing the canonical bytes of an accepted document again accepts it with the same result, unless
the newline that the canonical bytes end with makes them too long (`seal_canonical`).
-/

namespace AgentRuntimeOps.RootActions

open AgentRuntimeOps.Lib

/-- The nested containers that the stack has room for at a call of `json.loads` and at the call of
`json.dumps` that follows it. -/
structure JsonDepth where
  loads : Nat
  dumps : Nat

/-- The text of a name in an error message. -/
def keyText (key : List Nat) : String := String.ofList (key.map Char.ofNat)

/-- `json.loads(raw.decode("utf-8"), object_pairs_hook=_unique_object)` in its `try` statements:
`exn` is the class that the module raises, with one message for bytes that are not UTF-8 and one
for a text that is not JSON. -/
def loadsUnique (exn : String → Exn) (notUtf8 notJson : String) (limit : Nat) (raw : List UInt8) :
    Except Exn Scanned :=
  match decodeUtf8? raw with
  | none => .error (exn notUtf8)
  | some text =>
    match scan true limit text with
    | .ok value => .ok value
    | .error .malformed => .error (exn notJson)
    | .error .digits => .error (exn notJson)
    | .error (.duplicate key) => .error (exn ("duplicate JSON key: " ++ keyText key))
    | .error .recursion => .error Exn.recursionError
    | .error .fuel => .error ⟨.other "fuel", ""⟩

/-- `isinstance(value, dict)`. -/
def isObject : Scanned → Bool
  | .obj _ => true
  | _ => false

section sealing

variable [UnicodeData] [FloatData]

/-- What a module says about a document it cannot read. -/
structure DocumentErrors where
  exn : String → Exn
  maximum : Nat
  length : String
  notUtf8 : String
  notJson : String
  notObject : String

/-- The object that some bytes spell. -/
def parseObject (errors : DocumentErrors) (limit : Nat) (raw : List UInt8) : Except Exn Json := do
  require (0 < raw.length ∧ raw.length ≤ errors.maximum) (errors.exn errors.length)
  let value ← loadsUnique errors.exn errors.notUtf8 errors.notJson limit raw
  require (isObject value) (errors.exn errors.notObject)
  orRaise value.toJson? Exn.unicodeEncodeError

/-- The errors of `_parse_manifest`. -/
def manifestErrors : DocumentErrors where
  exn := Exn.manifestValidationError
  maximum := maxManifestBytes
  length := "manifest byte length is outside the allowed range"
  notUtf8 := "manifest must be UTF-8"
  notJson := "manifest is not valid JSON"
  notObject := "manifest must be an object"

/-- The errors of `seal_receipt`. -/
def receiptErrors : DocumentErrors where
  exn := Exn.receiptValidationError
  maximum := maxReceiptBytes
  length := "receipt byte length is outside the allowed range"
  notUtf8 := "receipt is not valid UTF-8 JSON"
  notJson := "receipt is not valid UTF-8 JSON"
  notObject := "receipt must be an object"

/-- The object that some bytes spell, sealed and written in canonical form. -/
def sealBytes {α : Type} (errors : DocumentErrors) (sealValue : Json → Except Exn α)
    (depth : JsonDepth) (raw : List UInt8) : Except Exn α := do
  let value ← parseObject errors depth.loads raw
  let artifact ← sealValue value
  require (value.nesting ≤ depth.dumps) Exn.recursionError
  return artifact

/-- The job of a manifest. -/
def sealedJobOf (manifest : Json) : Except Exn SealedJob := do
  let m ← validateManifest manifest
  return ⟨m.jobId, jobDigestOf manifest, m.operationId, m.operationVersion, m.requestId,
    m.lineageId, m.replyTarget, m.submittedAt, manifest⟩

/-- The artifact of a receipt. -/
def receiptArtifactOf (receipt : Json) : Except Exn ReceiptArtifact := do
  validateReceipt receipt
  return receiptArtifact receipt

/-- Source: `contracts.py`, `seal_typed_manifest`. -/
def sealManifestBytes := sealBytes manifestErrors sealedJobOf

/-- Source: `receipts.py`, `seal_receipt`. -/
def sealReceiptBytes := sealBytes receiptErrors receiptArtifactOf

/-! ## What bytes spell -/

/-- The JSON value that some bytes spell, each name of an object once, with room for any
nesting. -/
def decoded? (raw : List UInt8) : Option Json :=
  match decodeUtf8? raw with
  | none => none
  | some text =>
    match scan true (2 * text.length + 1) text with
    | .ok value => value.toJson?
    | .error _ => none

omit [UnicodeData] in
lemma decoded?_of_scan {raw : List UInt8} {text : List Char} {limit : Nat} {value : Scanned}
    (htext : decodeUtf8? raw = some text) (hscan : scan true limit text = .ok value) :
    decoded? raw = value.toJson? := by
  have hunlimited : scan true (2 * text.length + 1) text = .ok value := by
    rcases le_total limit (2 * text.length + 1) with hle | hle
    · rw [scan_mono hle (by rw [hscan]; exact nofun), hscan]
    · rw [← scan_mono hle (scan_ne_recursion le_rfl), hscan]
  unfold decoded?
  simp only [htext, hunlimited]

omit [UnicodeData] [FloatData] in
lemma loadsUnique_ok {exn : String → Exn} {notUtf8 notJson : String} {limit : Nat}
    {raw : List UInt8} {value : Scanned} :
    loadsUnique exn notUtf8 notJson limit raw = .ok value ↔
      ∃ text, decodeUtf8? raw = some text ∧ scan true limit text = .ok value := by
  unfold loadsUnique
  constructor
  · intro h
    split at h
    · cases h
    · next text htext =>
      refine ⟨text, htext, ?_⟩
      split at h
      all_goals first
        | (next hscan => cases h; exact hscan)
        | cases h
  · rintro ⟨text, htext, hscan⟩
    simp only [htext, hscan]

omit [UnicodeData] in
lemma isObject_toJson? {value : Scanned} {json : Json} (h : value.toJson? = some json) :
    isObject value = json.isObject := by
  cases value with
  | arr items =>
      obtain ⟨_, -, rfl⟩ := Option.map_eq_some_iff.mp h
      rfl
  | obj fields =>
      obtain ⟨_, -, rfl⟩ := Option.map_eq_some_iff.mp h
      rfl
  | str codes =>
      obtain ⟨_, -, rfl⟩ := Option.map_eq_some_iff.mp h
      rfl
  | _ =>
      cases h
      rfl

/-- A value that bytes spell, within the limits of the decoder. -/
structure Spells (limit : Nat) (raw : List UInt8) (value : Json) : Prop where
  decodes : decoded? raw = some value
  canonical : value.Canonical
  isObject : value.isObject = true
  nesting : value.nesting ≤ limit

omit [UnicodeData] in
lemma spells_of_parseObject {errors : DocumentErrors} {limit : Nat} {raw : List UInt8}
    {value : Json} (h : parseObject errors limit raw = .ok value) : Spells limit raw value := by
  unfold parseObject at h
  simp only [except_bind_ok, require_ok, exists_const, orRaise_ok, loadsUnique_ok] at h
  obtain ⟨-, scanned, ⟨text, htext, hscan⟩, hobject, hjson⟩ := h
  refine ⟨?_, canonical_of_toJson? (bounded_of_scan hscan) hjson, ?_, ?_⟩
  · rw [decoded?_of_scan htext hscan, hjson]
  · rw [← isObject_toJson? hjson, hobject]
  · exact (nesting_of_toJson? hjson).trans (nesting_of_scan hscan)

omit [UnicodeData] in
/-- The canonical bytes of an object spell it. -/
lemma parseObject_canonical {errors : DocumentErrors} {limit : Nat} {value : Json}
    (hcanonical : value.Canonical) (hobject : value.isObject = true)
    (hnesting : value.nesting ≤ limit) {blank : List Char} (hblank : IsBlank blank) :
    parseObject errors limit (utf8 (value.dumps ++ blank)) =
      if (utf8 (value.dumps ++ blank)).length ≤ errors.maximum then .ok value
      else .error (errors.exn errors.length) := by
  have hpos : 0 < (utf8 (value.dumps ++ blank)).length := by
    obtain ⟨c, tail, hhead, -, -⟩ := Scan.dumps_head hcanonical
    have hsize := Char.utf8Size_pos c
    rw [hhead, List.cons_append, length_utf8_cons]
    omega
  split_ifs with hle
  · have hread := scan_dumps hcanonical true limit hblank
    have hjson := toJson?_scanned hcanonical
    rw [if_pos hnesting] at hread
    unfold parseObject
    simp only [except_bind_ok, require_ok, exists_const, orRaise_ok, loadsUnique_ok]
    refine ⟨⟨hpos, hle⟩, value.scanned, ⟨_, decodeUtf8?_utf8 _, hread⟩, ?_, hjson⟩
    rw [isObject_toJson? hjson, hobject]
  · unfold parseObject require
    rw [if_neg (fun h => hle h.2)]
    rfl

/-! ## Sealing twice -/

omit [UnicodeData] [FloatData] in
lemma isBlank_newline : IsBlank ['\n'] := by
  unfold IsBlank
  decide

omit [UnicodeData] in
lemma sealBytes_ok {α : Type} {errors : DocumentErrors} {sealValue : Json → Except Exn α}
    {depth : JsonDepth} {raw : List UInt8} {artifact : α} :
    sealBytes errors sealValue depth raw = .ok artifact ↔
      ∃ value, parseObject errors depth.loads raw = .ok value ∧ sealValue value = .ok artifact ∧
        value.nesting ≤ depth.dumps := by
  unfold sealBytes
  simp only [except_bind_ok, require_ok, exists_const, except_pure_ok]
  constructor
  · rintro ⟨value, hparse, a, hseal, hdumps, rfl⟩
    exact ⟨value, hparse, hseal, hdumps⟩
  · rintro ⟨value, hparse, hseal, hdumps⟩
    exact ⟨value, hparse, artifact, hseal, hdumps, rfl⟩

omit [UnicodeData] in
/-- What a sealed document spells. -/
lemma spells_of_sealBytes {α : Type} {errors : DocumentErrors} {sealValue : Json → Except Exn α}
    {depth : JsonDepth} {raw : List UInt8} {artifact : α}
    (h : sealBytes errors sealValue depth raw = .ok artifact) :
    ∃ value, Spells depth.loads raw value ∧ sealValue value = .ok artifact ∧
      value.nesting ≤ depth.dumps := by
  obtain ⟨value, hparse, hseal, hdumps⟩ := sealBytes_ok.mp h
  exact ⟨value, spells_of_parseObject hparse, hseal, hdumps⟩

omit [UnicodeData] in
/-- **Sealing is idempotent up to the newline.** The canonical bytes of an accepted document are
accepted again, with the same result, exactly when there is room for one more byte than its compact
text has. -/
theorem seal_canonical {α : Type} {errors : DocumentErrors} {sealValue : Json → Except Exn α}
    {depth : JsonDepth} {raw : List UInt8} {artifact : α} {value : Json}
    (h : sealBytes errors sealValue depth raw = .ok artifact)
    (hvalue : decoded? raw = some value) :
    sealBytes errors sealValue depth (canonicalManifestBytes value) = .ok artifact ↔
      (utf8 value.dumps).length < errors.maximum := by
  obtain ⟨value', hspells, hseal, hdumps⟩ := spells_of_sealBytes h
  cases Option.some.inj (hspells.decodes.symm.trans hvalue)
  have hparse := @parseObject_canonical _ errors depth.loads value hspells.canonical
    hspells.isObject hspells.nesting _ isBlank_newline
  change parseObject errors depth.loads (canonicalManifestBytes value) = _ at hparse
  have hlength := length_canonicalManifestBytes value
  change (utf8 (value.dumps ++ ['\n'])).length = _ at hlength
  rw [sealBytes_ok, hparse, hlength]
  constructor
  · rintro ⟨value', hok, -, -⟩
    split_ifs at hok with hle
    exact hle
  · intro hlt
    rw [if_pos (Nat.succ_le_of_lt hlt)]
    exact ⟨value, rfl, hseal, hdumps⟩

omit [UnicodeData] in
/-- **Canonical bytes stand for a value.** Two accepted documents have the same canonical bytes
exactly when they spell the same value. -/
theorem canonical_eq_iff {α : Type} {errors : DocumentErrors} {sealValue : Json → Except Exn α}
    {depth : JsonDepth} {raw raw' : List UInt8} {artifact artifact' : α} {value value' : Json}
    (h : sealBytes errors sealValue depth raw = .ok artifact)
    (h' : sealBytes errors sealValue depth raw' = .ok artifact')
    (hvalue : decoded? raw = some value) (hvalue' : decoded? raw' = some value') :
    canonicalManifestBytes value = canonicalManifestBytes value' ↔
      decoded? raw = decoded? raw' := by
  obtain ⟨v, hspells, -, -⟩ := spells_of_sealBytes h
  obtain ⟨v', hspells', -, -⟩ := spells_of_sealBytes h'
  cases Option.some.inj (hspells.decodes.symm.trans hvalue)
  cases Option.some.inj (hspells'.decodes.symm.trans hvalue')
  rw [hvalue, hvalue']
  constructor
  · intro heq
    have htext := List.append_cancel_right (utf8_injective heq)
    rw [dumps_injective hspells.canonical hspells'.canonical htext]
  · intro heq
    rw [Option.some.inj heq]

omit [FloatData] in
lemma canonicalManifest_of_sealedJobOf {manifest : Json} {job : SealedJob}
    (h : sealedJobOf manifest = .ok job) : job.canonicalManifest = manifest := by
  unfold sealedJobOf at h
  simp only [except_bind_ok, except_pure_ok] at h
  obtain ⟨m, -, rfl⟩ := h
  rfl

omit [FloatData] in
lemma canonicalReceipt_of_receiptArtifactOf {receipt : Json} {artifact : ReceiptArtifact}
    (h : receiptArtifactOf receipt = .ok artifact) : artifact.canonicalReceipt = receipt := by
  unfold receiptArtifactOf at h
  simp only [except_bind_ok, except_pure_ok] at h
  obtain ⟨_, -, rfl⟩ := h
  rfl

lemma decoded?_of_sealManifestBytes {depth : JsonDepth} {raw : List UInt8} {job : SealedJob}
    (h : sealManifestBytes depth raw = .ok job) : decoded? raw = some job.canonicalManifest := by
  obtain ⟨value, hspells, hseal, -⟩ := spells_of_sealBytes h
  rw [canonicalManifest_of_sealedJobOf hseal]
  exact hspells.decodes

lemma decoded?_of_sealReceiptBytes {depth : JsonDepth} {raw : List UInt8}
    {artifact : ReceiptArtifact} (h : sealReceiptBytes depth raw = .ok artifact) :
    decoded? raw = some artifact.canonicalReceipt := by
  obtain ⟨value, hspells, hseal, -⟩ := spells_of_sealBytes h
  rw [canonicalReceipt_of_receiptArtifactOf hseal]
  exact hspells.decodes

/-- **Sealing is canonical, and idempotent where the newline fits.** -/
theorem seal_idempotent_iff (depth : JsonDepth) :
    (∀ raw job value, sealManifestBytes depth raw = .ok job → decoded? raw = some value →
      (sealManifestBytes depth (canonicalManifestBytes job.canonicalManifest) = .ok job ↔
        (utf8 value.dumps).length < maxManifestBytes)) ∧
    (∀ raw raw' job job', sealManifestBytes depth raw = .ok job →
      sealManifestBytes depth raw' = .ok job' →
      (canonicalManifestBytes job.canonicalManifest =
          canonicalManifestBytes job'.canonicalManifest ↔ decoded? raw = decoded? raw')) ∧
    (∀ raw artifact value, sealReceiptBytes depth raw = .ok artifact → decoded? raw = some value →
      (sealReceiptBytes depth (canonicalManifestBytes artifact.canonicalReceipt) = .ok artifact ↔
        (utf8 value.dumps).length < maxReceiptBytes)) ∧
    (∀ raw raw' artifact artifact', sealReceiptBytes depth raw = .ok artifact →
      sealReceiptBytes depth raw' = .ok artifact' →
      (canonicalManifestBytes artifact.canonicalReceipt =
          canonicalManifestBytes artifact'.canonicalReceipt ↔ decoded? raw = decoded? raw')) := by
  refine ⟨?_, ?_, ?_, ?_⟩
  · intro raw job value h hvalue
    cases Option.some.inj ((decoded?_of_sealManifestBytes h).symm.trans hvalue)
    exact seal_canonical h hvalue
  · intro raw raw' job job' h h'
    exact canonical_eq_iff h h' (decoded?_of_sealManifestBytes h) (decoded?_of_sealManifestBytes h')
  · intro raw artifact value h hvalue
    cases Option.some.inj ((decoded?_of_sealReceiptBytes h).symm.trans hvalue)
    exact seal_canonical h hvalue
  · intro raw raw' artifact artifact' h h'
    exact canonical_eq_iff h h' (decoded?_of_sealReceiptBytes h) (decoded?_of_sealReceiptBytes h')

end sealing

/-! ## Documents that seal -/

lemma plain_sampleManifest : sampleManifest.plain = true := by decide

/-- Sealing the canonical bytes of the sample manifest. -/
lemma sealManifestBytes_sampleManifest :
    @sealManifestBytes UnicodeData.asciiOnly FloatData.zero ⟨900, 900⟩
      (canonicalManifestBytes sampleManifest) = .ok sampleJob := by
  let _ := UnicodeData.asciiOnly
  let _ := FloatData.zero
  have hvalid : @validateManifest UnicodeData.asciiOnly sampleManifest =
      .ok ⟨"job", "nas.observe_groupware_runtime", 1, "request", "lineage", "reply",
        "2026-01-01T00:00:00Z"⟩ := by decide
  have hjob : sealedJobOf sampleManifest = .ok sampleJob := by
    unfold sealedJobOf
    rw [hvalid]
    rfl
  have hnesting : sampleManifest.nesting ≤ 900 := by decide
  refine sealBytes_ok.mpr ⟨sampleManifest, ?_, hjob, hnesting⟩
  refine (parseObject_canonical (canonical_of_plain plain_sampleManifest) rfl hnesting
    isBlank_newline).trans (if_pos ?_)
  exact length_sampleManifest

/-- A notice that a job was rejected. -/
def sampleReceipt : Json := .obj [
  ("job_digest", .str "sha256:0000000000000000000000000000000000000000000000000000000000000000"),
  ("job_id", .str "job"),
  ("kind", .str "terminal_notice"),
  ("operation_id", .str "nas.observe_groupware_runtime"),
  ("reason_code", .str "reason"),
  ("reply_target", .str "reply"),
  ("request_id", .str "request"),
  ("schema", .str receiptSchema),
  ("terminal_outcome", .str "rejected")]

lemma plain_sampleReceipt : sampleReceipt.plain = true := by decide

lemma sealReceiptBytes_sampleReceipt :
    @sealReceiptBytes UnicodeData.asciiOnly FloatData.zero ⟨900, 900⟩
      (canonicalManifestBytes sampleReceipt) = .ok (receiptArtifact sampleReceipt) := by
  let _ := UnicodeData.asciiOnly
  let _ := FloatData.zero
  have hvalid : @validateReceipt UnicodeData.asciiOnly sampleReceipt = .ok () := by decide
  have hartifact : receiptArtifactOf sampleReceipt = .ok (receiptArtifact sampleReceipt) := by
    unfold receiptArtifactOf
    rw [hvalid]
    rfl
  have hnesting : sampleReceipt.nesting ≤ 900 := by decide
  refine sealBytes_ok.mpr ⟨sampleReceipt, ?_, hartifact, hnesting⟩
  refine (parseObject_canonical (canonical_of_plain plain_sampleReceipt) rfl hnesting
    isBlank_newline).trans (if_pos ?_)
  exact (by decide +kernel : (canonicalManifestBytes sampleReceipt).length ≤ maxReceiptBytes)

/-- Both documents seal again, and each has the canonical bytes of its value. -/
theorem seal_idempotent_sample :
    ∃ (u : UnicodeData) (f : FloatData),
      @sealManifestBytes u f ⟨900, 900⟩ (canonicalManifestBytes sampleJob.canonicalManifest) =
        .ok sampleJob ∧
      @sealReceiptBytes u f ⟨900, 900⟩
        (canonicalManifestBytes (receiptArtifact sampleReceipt).canonicalReceipt) =
          .ok (receiptArtifact sampleReceipt) ∧
      (canonicalManifestBytes sampleJob.canonicalManifest =
          canonicalManifestBytes sampleJob.canonicalManifest ↔
        @decoded? f (canonicalManifestBytes sampleManifest) =
          @decoded? f (canonicalManifestBytes sampleManifest)) ∧
      (canonicalManifestBytes (receiptArtifact sampleReceipt).canonicalReceipt =
          canonicalManifestBytes (receiptArtifact sampleReceipt).canonicalReceipt ↔
        @decoded? f (canonicalManifestBytes sampleReceipt) =
          @decoded? f (canonicalManifestBytes sampleReceipt)) := by
  let u := UnicodeData.asciiOnly
  let f := FloatData.zero
  have hjob := sealManifestBytes_sampleManifest
  have hreceipt := sealReceiptBytes_sampleReceipt
  have hmanifestValue := decoded?_of_sealManifestBytes hjob
  have hreceiptValue := decoded?_of_sealReceiptBytes hreceipt
  obtain ⟨h₁, h₂, h₃, h₄⟩ := seal_idempotent_iff ⟨900, 900⟩
  refine ⟨u, f, ?_, ?_, h₂ _ _ _ _ hjob hjob, h₄ _ _ _ _ hreceipt hreceipt⟩
  · refine (h₁ _ _ _ hjob hmanifestValue).mpr ?_
    exact (by decide +kernel : (utf8 sampleManifest.dumps).length < maxManifestBytes)
  · refine (h₃ _ _ _ hreceipt hreceiptValue).mpr ?_
    exact (by decide +kernel : (utf8 sampleReceipt.dumps).length < maxReceiptBytes)

/-! ## A document that does not

The manifest below consists of quotation marks, which take two bytes each; its compact text has
exactly the bytes that a manifest may have. -/

/-- The manifest of the sample with another review. -/
def sampleManifestWith (review : Json) : Json := .obj [
  ("expected_pre_state", .obj [("digest", .null), ("kind", .str "none")]),
  ("job_id", .str "job"),
  ("operation_id", .str "nas.observe_groupware_runtime"),
  ("operation_version", .int 1),
  ("parameters", .obj [("slot", .str "a")]),
  ("registry_version", .str registryVersion),
  ("request", .obj [("lineage_id", .str "lineage"), ("reply_target", .str "reply"),
    ("request_id", .str "request"), ("submitted_at", .str "2026-01-01T00:00:00Z")]),
  ("review", review),
  ("schema", .str manifestSchema)]

lemma validateManifest_sampleManifestWith {review : Json}
    (h : @validateReview UnicodeData.asciiOnly review = .ok ()) :
    @validateManifest UnicodeData.asciiOnly (sampleManifestWith review) =
      .ok ⟨"job", "nas.observe_groupware_runtime", 1, "request", "lineage", "reply",
        "2026-01-01T00:00:00Z"⟩ := by
  let _ := UnicodeData.asciiOnly
  have hid : ∀ s ∈ ["job", "nas.observe_groupware_runtime", "request", "lineage", "reply"],
      ∀ field, safeId (.str s) field = .ok s := by
    intro s hs field
    have hall : ∀ s ∈ ["job", "nas.observe_groupware_runtime", "request", "lineage", "reply"],
      isSafeId s = true := by decide
    exact safeIdWith_ok.mpr ⟨hall s hs, rfl⟩
  unfold validateManifest
  simp only [except_bind_ok, require_ok, exists_const, except_pure_ok]
  refine ⟨(), rfl, rfl, rfl, "job", hid _ (by decide) _, "nas.observe_groupware_runtime",
    hid _ (by decide) _, (), rfl, "request", hid _ (by decide) _, "lineage", hid _ (by decide) _,
    "reply", hid _ (by decide) _, "2026-01-01T00:00:00Z", ?_, (), ?_, (), h, (), ?_, rfl⟩
  · exact (by decide : @safeTimestamp UnicodeData.asciiOnly (.str "2026-01-01T00:00:00Z")
      "request.submitted_at" = .ok "2026-01-01T00:00:00Z")
  · rfl
  · exact (by decide : (validateOperation "nas.observe_groupware_runtime" (.int 1)
      (.obj [("slot", .str "a")])).mapError (fun exc => Exn.manifestValidationError exc.message) =
        .ok ())

/-- A text of `k` quotation marks. -/
def quotes (k : Nat) : String := String.ofList (List.replicate k '"')

lemma safeText_quotes [UnicodeData] {k : Nat} (hpos : 0 < k) (hle : k ≤ 512) (field : String) :
    safeText (.str (quotes k)) field = .ok (quotes k) := by
  have hlist : (quotes k).toList = List.replicate k '"' := String.toList_ofList
  apply safeTextWith_ok
  · intro hempty
    have hnil := congrArg String.toList hempty
    rw [hlist] at hnil
    have hzero := congrArg List.length hnil
    rw [List.length_replicate] at hzero
    change k = 0 at hzero
    omega
  · rw [hlist, List.all_replicate]
    rw [if_neg (by omega)]
    decide
  · rw [hlist, List.length_replicate]
    exact hle

lemma quotes_injective {j k : Nat} (h : quotes j = quotes k) : j = k := by
  have hlist := congrArg String.toList h
  unfold quotes at hlist
  rw [String.toList_ofList, String.toList_ofList] at hlist
  have hlen := congrArg List.length hlist
  rwa [List.length_replicate, List.length_replicate] at hlen

/-- Each quotation mark is escaped. -/
lemma sizeWith_quotes (k : Nat) :
    Json.sizeWith Json.escapeChar Json.compact (.str (quotes k)) = 2 * k + 2 := by
  have hbody : ∀ k, (utf8 ((List.replicate k '"').flatMap Json.escapeChar)).length = 2 * k := by
    intro k
    induction k with
    | zero => rfl
    | succ k ih =>
        rw [List.replicate_succ, List.flatMap_cons, utf8_append, List.length_append, ih]
        change 2 + 2 * k = _
        omega
  unfold Json.sizeWith quotes
  rw [Json.dumpsWith, Json.dumpsString, String.toList_ofList, List.cons_append, length_utf8_cons,
    utf8_append, List.length_append, hbody]
  change 1 + (2 * k + 1) = _
  omega

/-- The lengths of the texts of one list. -/
def longLengths : List Nat := (List.range 32).map (481 + ·)

/-- A list of 32 distinct texts. -/
def longItems : List Json := longLengths.map fun k => .str (quotes k)

lemma textListWith_longItems [UnicodeData] {least : Nat} (hleast : least ≤ 32) (field : String) :
    textListWith least (.arr longItems) field = .ok () := by
  have hlen : longItems.length = 32 := by
    unfold longItems longLengths
    simp
  unfold textListWith
  simp only [except_bind_ok, require_ok, exists_const, requireEach_ok]
  refine ⟨⟨by omega, by omega⟩, ?_, ?_⟩
  · rintro ⟨item, index⟩ hmem
    have hitem := List.mem_of_getElem? (List.mem_zipIdx_iff_getElem?.mp hmem)
    obtain ⟨k, hk, rfl⟩ := List.mem_map.mp hitem
    have hrange : 0 < k ∧ k ≤ 512 :=
      (by decide : ∀ k ∈ longLengths, 0 < k ∧ k ≤ 512) k hk
    rw [safeText_quotes hrange.1 hrange.2]
    rfl
  · refine List.Nodup.map ?_ (by decide)
    intro j k h
    exact quotes_injective (Json.str.inj h)

/-- A review with the given lists of texts and the given texts. -/
def sampleReviewWith (items purpose baseline consequence : Json) : Json := .obj [
  ("changes", items),
  ("premises", .arr [.obj [("anchor", .null), ("basis", .str "unknown"), ("claim", .str "p"),
    ("falsifier", .str "f")]]),
  ("purpose", purpose),
  ("recovery", items),
  ("risk_delta", .obj [("added", items), ("baseline", baseline),
    ("maximum_consequence", consequence), ("removed", .arr [])]),
  ("targets", items)]

lemma validateReview_sampleReviewWith {items : Json} {purpose baseline consequence : String}
    (hitems : ∀ least ≤ 1, ∀ field, @textListWith UnicodeData.asciiOnly least items field = .ok ())
    (htext : ∀ s ∈ [purpose, baseline, consequence], ∀ field,
      @safeText UnicodeData.asciiOnly (.str s) field 512 = .ok s) :
    @validateReview UnicodeData.asciiOnly
      (sampleReviewWith items (.str purpose) (.str baseline) (.str consequence)) = .ok () := by
  let _ := UnicodeData.asciiOnly
  have hdiscard : ∀ s ∈ [purpose, baseline, consequence], ∀ field,
      discard (safeText (.str s) field) = .ok () := by
    intro s hs field
    rw [htext s hs]
    rfl
  unfold validateReview
  simp only [except_bind_ok]
  refine ⟨(), rfl, (), hdiscard purpose (by simp) _, (), ?_, (), hitems 1 le_rfl _,
    (), hitems 1 le_rfl _, (), hitems 1 le_rfl _, (), rfl, (), hdiscard baseline (by simp) _,
    (), hitems 0 (by decide) _, (), rfl, hdiscard consequence (by simp) _⟩
  exact (by decide : @validatePremises UnicodeData.asciiOnly (.arr [.obj [("anchor", .null),
    ("basis", .str "unknown"), ("claim", .str "p"), ("falsifier", .str "f")]]) = .ok ())

/-- The compact text of a manifest with such a review, split into the parts that vary. -/
lemma size_sampleManifestWith (items purpose baseline consequence : Json) :
    ∃ n, (utf8 (sampleManifestWith
        (sampleReviewWith items purpose baseline consequence)).dumps).length =
      n + 4 * Json.sizeWith Json.escapeChar Json.compact items +
        Json.sizeWith Json.escapeChar Json.compact purpose +
        Json.sizeWith Json.escapeChar Json.compact baseline +
        Json.sizeWith Json.escapeChar Json.compact consequence ∧
      (utf8 (sampleManifestWith (sampleReviewWith .null .null .null .null)).dumps).length =
        n + 28 := by
  have hnull := Json.sizeWith_null Json.escapeChar Json.compact
  refine ⟨(utf8 (sampleManifestWith (sampleReviewWith .null .null .null .null)).dumps).length - 28,
    ?_⟩
  have hdumps : ∀ v : Json,
      (utf8 v.dumps).length = Json.sizeWith Json.escapeChar Json.compact v := fun _ => rfl
  rw [hdumps, hdumps]
  unfold sampleManifestWith sampleReviewWith
  rw [Json.sizeWith_obj_compact _ (List.cons_ne_nil _ _),
    Json.sizeWith_obj_compact _ (List.cons_ne_nil _ _)]
  simp only [List.map_cons, List.map_nil, List.sum_cons, List.sum_nil]
  rw [Json.sizeWith_obj_compact _ (List.cons_ne_nil ("changes", items) _),
    Json.sizeWith_obj_compact _ (List.cons_ne_nil ("changes", Json.null) _)]
  simp only [List.map_cons, List.map_nil, List.sum_cons, List.sum_nil]
  rw [Json.sizeWith_obj_compact _ (List.cons_ne_nil ("added", items) _),
    Json.sizeWith_obj_compact _ (List.cons_ne_nil ("added", Json.null) _)]
  simp only [List.map_cons, List.map_nil, List.sum_cons, List.sum_nil, hnull]
  omega

/-- A manifest whose compact text fills the limit exactly. -/
def longManifest : Json := sampleManifestWith (sampleReviewWith (.arr longItems)
  (.str (quotes 467)) (.str (quotes 512)) (.str (quotes 512)))

lemma size_longItems :
    Json.sizeWith Json.escapeChar Json.compact (.arr longItems) = 31873 := by
  have hne : longItems ≠ [] := by
    unfold longItems longLengths
    simp
  rw [Json.sizeWith_arr _ hne]
  unfold longItems
  rw [List.map_map]
  simp only [Function.comp_def, sizeWith_quotes]
  decide

lemma size_longManifest : (utf8 longManifest.dumps).length = maxManifestBytes := by
  obtain ⟨n, hsize, hnull⟩ := size_sampleManifestWith (.arr longItems) (.str (quotes 467))
    (.str (quotes 512)) (.str (quotes 512))
  have hbase : (utf8 (sampleManifestWith (sampleReviewWith .null .null .null .null)).dumps).length =
      620 := by decide +kernel
  unfold longManifest
  rw [hsize, size_longItems, sizeWith_quotes, sizeWith_quotes]
  unfold maxManifestBytes
  omega

/-- The job of a manifest that differs from the sample in its review. -/
def sampleJobWith (manifest : Json) : SealedJob :=
  { sampleJob with jobDigest := jobDigestOf manifest, canonicalManifest := manifest }

lemma sealedJobOf_sampleManifestWith {review : Json}
    (h : @validateReview UnicodeData.asciiOnly review = .ok ()) :
    @sealedJobOf UnicodeData.asciiOnly (sampleManifestWith review) =
      .ok (sampleJobWith (sampleManifestWith review)) := by
  unfold sealedJobOf
  rw [validateManifest_sampleManifestWith h]
  rfl

lemma validateReview_longReview : @validateReview UnicodeData.asciiOnly
    (sampleReviewWith (.arr longItems) (.str (quotes 467)) (.str (quotes 512))
      (.str (quotes 512))) = .ok () := by
  refine validateReview_sampleReviewWith ?_ ?_
  · intro least hle field
    exact @textListWith_longItems UnicodeData.asciiOnly least (by omega) field
  · intro s hs field
    simp only [List.mem_cons, List.not_mem_nil, or_false] at hs
    rcases hs with rfl | rfl | rfl
    · exact @safeText_quotes UnicodeData.asciiOnly 467 (by decide) (by decide) field
    · exact @safeText_quotes UnicodeData.asciiOnly 512 (by decide) (by decide) field
    · exact @safeText_quotes UnicodeData.asciiOnly 512 (by decide) (by decide) field

lemma plain_longManifest : longManifest.plain = true := by decide

lemma nesting_longManifest : longManifest.nesting ≤ 900 := by decide +kernel

/-- A manifest that fills the limit is accepted, but its canonical bytes are not. -/
theorem seal_canonical_rejected :
    ∃ (u : UnicodeData) (f : FloatData) (raw : List UInt8) (job : SealedJob),
      @sealManifestBytes u f ⟨900, 900⟩ raw = .ok job ∧
      @sealManifestBytes u f ⟨900, 900⟩ (canonicalManifestBytes job.canonicalManifest) =
        .error (Exn.manifestValidationError
          "manifest byte length is outside the allowed range") := by
  let _ := UnicodeData.asciiOnly
  let _ := FloatData.zero
  have hcanonical : longManifest.Canonical := canonical_of_plain plain_longManifest
  have hparse : ∀ {blank : List Char}, IsBlank blank →
      parseObject manifestErrors 900 (utf8 (longManifest.dumps ++ blank)) = _ := fun hblank =>
    parseObject_canonical hcanonical rfl nesting_longManifest hblank
  have hjob : sealedJobOf longManifest = .ok (sampleJobWith longManifest) :=
    sealedJobOf_sampleManifestWith validateReview_longReview
  refine ⟨UnicodeData.asciiOnly, FloatData.zero, utf8 (longManifest.dumps ++ []),
    sampleJobWith longManifest, ?_, ?_⟩
  · refine sealBytes_ok.mpr ⟨longManifest, ?_, hjob, nesting_longManifest⟩
    have hempty : IsBlank [] := rfl
    refine (hparse hempty).trans (if_pos ?_)
    rw [List.append_nil, size_longManifest]
    exact le_rfl
  · have hlong := hparse isBlank_newline
    have hlength := length_canonicalManifestBytes longManifest
    rw [if_neg] at hlong
    · change sealBytes manifestErrors sealedJobOf ⟨900, 900⟩
        (utf8 (longManifest.dumps ++ ['\n'])) = _
      unfold sealBytes
      rw [hlong]
      rfl
    · change ¬ (canonicalManifestBytes longManifest).length ≤ maxManifestBytes
      rw [hlength, size_longManifest]
      omega

end AgentRuntimeOps.RootActions
