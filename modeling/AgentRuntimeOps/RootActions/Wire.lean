import AgentRuntimeOps.RootActions.Protocol

/-!
# What a client sends

`protocol.py` on the side of a client.  The broker reads a request as it was sent, and seals the
manifest to the job that the client sealed, unless the newline at its end does not fit
(`requests_received`).
-/

namespace AgentRuntimeOps.RootActions

open AgentRuntimeOps.Lib

/-! ## Requests -/

/-- The nested containers that the stack of a client has room for. -/
structure ClientDepth where
  /-- Inside `seal_typed_manifest`. -/
  sealing : JsonDepth
  /-- `canonical_json` of the request. -/
  request : Nat

/-- The frame of a request. -/
def requestFrame (limit : Nat) (value : Json) : Except Exn (List UInt8) := do
  require (value.nesting ≤ limit) Exn.recursionError
  encodeFrame maxBrokerRequestBytes (canonicalManifestBytes value)

/-- A request to submit a manifest. -/
def submitValue (manifest : Json) : Json := .obj [
  ("manifest", manifest),
  ("method", .str "submit"),
  ("schema", .str brokerRequestSchema)]

/-- A request for a receipt. -/
def retrieveValue (jobId jobDigest requestId replyTarget : String) : Json := .obj [
  ("job_digest", .str jobDigest),
  ("job_id", .str jobId),
  ("method", .str "retrieve"),
  ("reply_target", .str replyTarget),
  ("request_id", .str requestId),
  ("schema", .str brokerRequestSchema)]

variable [UnicodeData] [FloatData]

/-- Source: `protocol.py`, `submit_request`. -/
def submitRequest (depth : ClientDepth) (rawManifest : List UInt8) : Except Exn (List UInt8) := do
  let job ← sealManifestBytes depth.sealing rawManifest
  requestFrame depth.request (submitValue job.canonicalManifest)

/-- Source: `protocol.py`, `retrieve_request`. -/
def retrieveRequest (depth : ClientDepth) (jobId jobDigest requestId replyTarget : String) :
    Except Exn (List UInt8) :=
  requestFrame depth.request (retrieveValue jobId jobDigest requestId replyTarget)

/-! ## Reading them -/

/-- The broker has room for a manifest, and for the request around it. -/
structure ParseDepth.Holds (depth : ParseDepth) (manifest : Json) : Prop where
  loads : manifest.nesting + 1 ≤ depth.request.loads
  dumps : manifest.nesting + 1 ≤ depth.request.dumps
  sealingLoads : manifest.nesting ≤ depth.sealing.loads
  sealingDumps : manifest.nesting ≤ depth.sealing.dumps
  again : manifest.nesting ≤ depth.manifest

section reading

variable {depth : ParseDepth} {limit : Nat} {value : Json} {frame : List UInt8}

/-- **A request is read as it was sent.** -/
lemma parseRequestFrame_requestFrame (hcanonical : value.Canonical)
    (hobject : value.isObject = true)
    (hschema : value.get? "schema" = some (.str brokerRequestSchema))
    (hloads : value.nesting ≤ depth.request.loads) (hdumps : value.nesting ≤ depth.request.dumps)
    (h : requestFrame limit value = .ok frame) :
    parseRequestFrame depth frame = parseMethod depth value := by
  unfold requestFrame encodeFrame at h
  simp only [except_bind_ok, require_ok, exists_const, except_pure_ok] at h
  obtain ⟨-, ⟨hne, hle⟩, rfl⟩ := h
  exact parseRequestFrame_of_payload (decodeFrame_packLength hne hle (by decide))
    (parsePayload_canonical hcanonical hobject hschema hloads hdumps)

omit [UnicodeData] in
lemma canonical_submitValue {manifest : Json} (h : manifest.Canonical) :
    (submitValue manifest).Canonical := by
  apply canonicalFields_of_keys
  · change List.Pairwise (· < ·) ["manifest", "method", "schema"]
    decide
  · simp only [List.forall_mem_cons, List.not_mem_nil, false_implies, implies_true, and_true]
    exact ⟨h, trivial, trivial⟩

omit [UnicodeData] in
lemma canonical_retrieveValue (jobId jobDigest requestId replyTarget : String) :
    (retrieveValue jobId jobDigest requestId replyTarget).Canonical := by
  apply canonicalFields_of_keys
  · change List.Pairwise (· < ·)
      ["job_digest", "job_id", "method", "reply_target", "request_id", "schema"]
    decide
  · simp only [List.forall_mem_cons, List.not_mem_nil, false_implies, implies_true, and_true]
    exact ⟨trivial, trivial, trivial, trivial, trivial, trivial⟩

omit [UnicodeData] [FloatData] in
lemma nesting_submitValue (manifest : Json) :
    (submitValue manifest).nesting = manifest.nesting + 1 := by
  simp [submitValue, Json.nesting, Json.nestingFields]

/-- The manifest of a request is sealed again, unless it has become too long. -/
lemma parseSubmit_submitValue {manifest : Json} {job : SealedJob} (hcanonical : manifest.Canonical)
    (hobject : manifest.isObject = true) (hseal : sealedJobOf manifest = .ok job)
    (hholds : depth.Holds manifest) :
    parseSubmit depth (submitValue manifest) =
      (if (canonicalManifestBytes manifest).length ≤ maxManifestBytes then
        .ok (.submit (canonicalManifestBytes manifest))
      else .error (Exn.manifestValidationError
        "manifest byte length is outside the allowed range")) ∧
    ((canonicalManifestBytes manifest).length ≤ maxManifestBytes →
      sealManifestBytes depth.sealing (canonicalManifestBytes manifest) = .ok job) := by
  have hparse := @parseObject_canonical _ manifestErrors depth.sealing.loads manifest hcanonical
    hobject hholds.sealingLoads _ isBlank_newline
  have hsealed : (canonicalManifestBytes manifest).length ≤ maxManifestBytes →
      sealManifestBytes depth.sealing (canonicalManifestBytes manifest) = .ok job := fun hle =>
    sealBytes_ok.mpr ⟨manifest, hparse.trans (if_pos hle), hseal, hholds.sealingDumps⟩
  refine ⟨?_, hsealed⟩
  unfold parseSubmit
  rw [require_of (by rfl)]
  change (require (manifest.isObject = true) _ >>= fun _ => _) = _
  rw [require_of hobject]
  change (require (manifest.nesting ≤ depth.manifest) _ >>= fun _ => _) = _
  rw [require_of hholds.again]
  change (discard (sealManifestBytes depth.sealing (canonicalManifestBytes manifest)) >>=
      fun _ => pure _) = _
  split_ifs with hle
  · rw [hsealed hle]
    rfl
  · have hlong := hparse.trans (if_neg hle)
    have hreject : sealManifestBytes depth.sealing (canonicalManifestBytes manifest) =
        .error (Exn.manifestValidationError
          "manifest byte length is outside the allowed range") := by
      unfold sealManifestBytes sealBytes canonicalManifestBytes
      rw [hlong]
      rfl
    rw [hreject]
    rfl

end reading

/-- **What a client sends is what the broker reads.**  The frame of a manifest is parsed to the
canonical manifest, which seals to the job that the client has sealed.  Only if the newline at its
end is one byte too much, it is rejected. -/
theorem requests_received (client : ClientDepth) (broker : ParseDepth) :
    (∀ raw frame, submitRequest client raw = .ok frame →
      ∃ job, sealManifestBytes client.sealing raw = .ok job ∧
        (broker.Holds job.canonicalManifest →
          parseRequestFrame broker frame =
              (if (utf8 job.canonicalManifest.dumps).length < maxManifestBytes then
                .ok (.submit (canonicalManifestBytes job.canonicalManifest))
              else .error (Exn.manifestValidationError
                "manifest byte length is outside the allowed range")) ∧
          ((utf8 job.canonicalManifest.dumps).length < maxManifestBytes →
            sealManifestBytes broker.sealing (canonicalManifestBytes job.canonicalManifest) =
              .ok job))) ∧
    ∀ jobId jobDigest requestId replyTarget frame,
      retrieveRequest client jobId jobDigest requestId replyTarget = .ok frame →
      1 ≤ broker.request.loads → 1 ≤ broker.request.dumps →
      parseRequestFrame broker frame =
        if isSafeId jobId ∧ isSafeId requestId ∧ isSafeId replyTarget ∧ isDigest jobDigest then
          .ok (.retrieve jobId jobDigest requestId replyTarget)
        else .error (Exn.brokerProtocolError "retrieve request identity is invalid") := by
  constructor
  · intro raw frame h
    obtain ⟨job, hjob, hframe⟩ := except_bind_ok.mp h
    obtain ⟨manifest, hspells, hseal, -⟩ := spells_of_sealBytes hjob
    refine ⟨job, hjob, ?_⟩
    rw [canonicalManifest_of_sealedJobOf hseal] at hframe ⊢
    intro hholds
    have hlength : (canonicalManifestBytes manifest).length ≤ maxManifestBytes ↔
        (utf8 manifest.dumps).length < maxManifestBytes := by
      unfold canonicalManifestBytes
      rw [utf8_append, List.length_append]
      exact Nat.lt_iff_add_one_le.symm
    obtain ⟨hparse, hsealed⟩ :=
      parseSubmit_submitValue hspells.canonical hspells.isObject hseal hholds
    rw [parseRequestFrame_requestFrame (canonical_submitValue hspells.canonical) rfl rfl
      (by rw [nesting_submitValue]; exact hholds.loads)
      (by rw [nesting_submitValue]; exact hholds.dumps) hframe]
    simp only [hlength] at hparse hsealed
    exact ⟨hparse, hsealed⟩
  · intro jobId jobDigest requestId replyTarget frame h hloads hdumps
    rw [parseRequestFrame_requestFrame (canonical_retrieveValue _ _ _ _) rfl rfl hloads hdumps h]
    change parseRetrieve _ = _
    unfold parseRetrieve
    rw [require_of (by rfl)]
    change (require (isSafeId jobId ∧ isSafeId requestId ∧ isSafeId replyTarget ∧
      isDigest jobDigest) _ >>= fun _ => pure _) = _
    split_ifs with hids
    · rw [require_of hids]
      rfl
    · unfold require
      rw [if_neg hids]
      rfl

omit [UnicodeData] [FloatData] in
/-- The sample manifest is sent, and read. -/
theorem requests_received_sample :
    ∃ (u : UnicodeData) (f : FloatData) (frame : List UInt8),
      @submitRequest u f ⟨⟨900, 900⟩, 900⟩ (canonicalManifestBytes sampleManifest) = .ok frame ∧
      @parseRequestFrame u f ⟨⟨900, 900⟩, 900, ⟨900, 900⟩⟩ frame =
        .ok (.submit (canonicalManifestBytes sampleManifest)) := by
  let u := UnicodeData.asciiOnly
  let f := FloatData.zero
  have hframe : submitRequest ⟨⟨900, 900⟩, 900⟩ (canonicalManifestBytes sampleManifest) =
      .ok (packLength (canonicalManifestBytes (submitValue sampleManifest)).length ++
        canonicalManifestBytes (submitValue sampleManifest)) := by
    have hlength : canonicalManifestBytes (submitValue sampleManifest) ≠ [] ∧
        (canonicalManifestBytes (submitValue sampleManifest)).length ≤ maxBrokerRequestBytes := by
      decide +kernel
    refine except_bind_ok.mpr ⟨sampleJob, sealManifestBytes_sampleManifest, ?_⟩
    exact except_bind_ok.mpr ⟨(), require_of (by decide),
      except_bind_ok.mpr ⟨(), require_of hlength, rfl⟩⟩
  obtain ⟨job, hjob, hreceived⟩ := (requests_received ⟨⟨900, 900⟩, 900⟩
    ⟨⟨900, 900⟩, 900, ⟨900, 900⟩⟩).1 _ _ hframe
  cases hjob.symm.trans sealManifestBytes_sampleManifest
  obtain ⟨hparse, -⟩ := hreceived ⟨by decide, by decide, by decide, by decide, by decide⟩
  rw [if_pos (by decide +kernel)] at hparse
  exact ⟨u, f, _, hframe, hparse⟩

end AgentRuntimeOps.RootActions
