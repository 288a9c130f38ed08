import AgentRuntimeOps.RootActions.Sealing

/-!
# Request frames

`protocol.py` as the listener uses it: a frame is a length and a payload, and the payload is the
canonical JSON text of a request.  `RootActionUnixListener.serve_forever` closes a connection and
goes on when serving it raises a `ValueError`; anything else ends the loop.

The parser leaves that family in two ways.  A JSON text or value that nests deeper than the stack
allows raises a `RecursionError`; and a list or a dictionary where a set is asked for a member, the
method of a request or the basis of a premise, raises a `TypeError`.  `parse_fails_closed_iff` says
that these are the only ways.
-/

namespace AgentRuntimeOps.RootActions

open AgentRuntimeOps.Lib

/-- Source: `protocol.py`, `BROKER_REQUEST_SCHEMA`. -/
def brokerRequestSchema : String := "agent-runtime-root-action-broker-request/v1"

/-- Source: `protocol.py`, `MAX_BROKER_REQUEST_BYTES`. -/
def maxBrokerRequestBytes : Nat := 512 * 1024

/-- `struct.unpack("!I", …)`. -/
def unpackLength (a b c d : UInt8) : Nat :=
  a.toNat * 16777216 + b.toNat * 65536 + c.toNat * 256 + d.toNat

/-- `struct.pack("!I", …)`. -/
def packLength (n : Nat) : List UInt8 :=
  [UInt8.ofNat (n / 16777216), UInt8.ofNat (n / 65536), UInt8.ofNat (n / 256), UInt8.ofNat n]

/-- Source: `protocol.py`, `encode_frame`. -/
def encodeFrame (maximum : Nat) (payload : List UInt8) : Except Exn (List UInt8) := do
  require (payload ≠ [] ∧ payload.length ≤ maximum)
    (Exn.brokerProtocolError "frame payload byte length is invalid")
  return packLength payload.length ++ payload

/-- Source: `protocol.py`, `decode_frame`. -/
def decodeFrame (maximum : Nat) (frame : List UInt8) : Except Exn (List UInt8) :=
  match frame with
  | a :: b :: c :: d :: payload => do
    require (1 ≤ unpackLength a b c d ∧ unpackLength a b c d ≤ maximum ∧
        payload.length = unpackLength a b c d)
      (Exn.brokerProtocolError "frame length does not match one bounded payload")
    return payload
  | _ => .error (Exn.brokerProtocolError "frame is truncated")

lemma unpackLength_packLength {n : Nat} (h : n < 4294967296) :
    unpackLength (UInt8.ofNat (n / 16777216)) (UInt8.ofNat (n / 65536)) (UInt8.ofNat (n / 256))
      (UInt8.ofNat n) = n := by
  unfold unpackLength
  simp only [UInt8.toNat_ofNat']
  omega

/-- A frame is decoded to its payload. -/
lemma decodeFrame_packLength {maximum : Nat} {payload : List UInt8} (hne : payload ≠ [])
    (hle : payload.length ≤ maximum) (hmaximum : maximum < 4294967296) :
    decodeFrame maximum (packLength payload.length ++ payload) = .ok payload := by
  have hpos : 1 ≤ payload.length := List.length_pos_iff.mpr hne
  have hlength := unpackLength_packLength (show payload.length < 4294967296 by omega)
  change (require _ _ >>= fun _ => pure payload) = _
  rw [hlength, require_of ⟨hpos, hle, rfl⟩]
  rfl

/-- The nested containers that the stack has room for, at the calls of one parse. -/
structure ParseDepth where
  /-- `json.loads` and `canonical_json` of the request. -/
  request : JsonDepth
  /-- `canonical_json` of the manifest in it. -/
  manifest : Nat
  /-- Inside `seal_typed_manifest`. -/
  sealing : JsonDepth

/-- Source: `protocol.py`, `canonical_json`, of a value that was read; it returns the value that
the bytes stand for. -/
def canonicalJson [FloatData] (limit : Nat) (value : Scanned) : Except Exn Json := do
  require (value.nesting ≤ limit) Exn.recursionError
  orRaise value.toJson? Exn.unicodeEncodeError

/-- What `parse_request_frame` returns: the method and its values. -/
inductive ParsedRequest where
  | submit (rawManifest : List UInt8)
  | retrieve (jobId jobDigest requestId replyTarget : String)
  | authStatus
  | authBootstrapCreate
  | registrationBegin (bootstrapToken role label : String)
  | registrationFinish (bootstrapToken ceremonyId : String) (browserCredential : Json)
  | approvalBegin (jobId jobDigest : String)
  | approvalFinish (ceremonyId : String) (browserCredential : Json)

/-- `_BOOTSTRAP_TOKEN_RE.fullmatch`: `[A-Za-z0-9_-]{43}`. -/
def isBootstrapToken (s : String) : Bool :=
  s.toList.all (fun c => c.isAlphanum || c == '_' || c == '-') && decide (s.toList.length = 43)

/-- Source: `protocol.py`, `_CREDENTIAL_ROLES`. -/
def credentialRoles : List String := ["approval", "recovery"]

/-- Source: `protocol.py`, `_CREDENTIAL_LABELS`. -/
def credentialLabels : List String :=
  ["office_windows_hello", "remote_phone_passkey", "recovery_fido2"]

section parse

variable [UnicodeData] [FloatData] (depth : ParseDepth)

/-- A text field that matches a pattern. -/
def matches? (value : Json) (name : String) (pattern : String → Bool) : Bool :=
  (value.field name).text?.any pattern

/-- The `submit` branch of `parse_request_frame`. -/
def parseSubmit (value : Json) : Except Exn ParsedRequest := do
  require (value.keys = ["manifest", "method", "schema"])
    (Exn.brokerProtocolError "submit request field set is invalid")
  let manifest := value.field "manifest"
  require (manifest.isObject) (Exn.brokerProtocolError "submit manifest must be an object")
  require (manifest.nesting ≤ depth.manifest) Exn.recursionError
  let canonicalManifest := canonicalManifestBytes manifest
  discard (sealManifestBytes depth.sealing canonicalManifest)
  return .submit canonicalManifest

/-- The `retrieve` branch. -/
def parseRetrieve (value : Json) : Except Exn ParsedRequest := do
  require (value.keys = ["job_digest", "job_id", "method", "reply_target", "request_id", "schema"])
    (Exn.brokerProtocolError "retrieve request field set is invalid")
  require (matches? value "job_id" isSafeId ∧ matches? value "request_id" isSafeId ∧
      matches? value "reply_target" isSafeId ∧ matches? value "job_digest" isDigest)
    (Exn.brokerProtocolError "retrieve request identity is invalid")
  return .retrieve (value.textField "job_id") (value.textField "job_digest")
    (value.textField "request_id") (value.textField "reply_target")

/-- The branch of `auth_status` and `auth_bootstrap_create`. -/
def parseAuthEmpty (value : Json) : Except Exn ParsedRequest := do
  require (value.keys = ["method", "schema"])
    (Exn.brokerProtocolError "authorization request field set is invalid")
  return if value.field "method" = .str "auth_status" then .authStatus else .authBootstrapCreate

/-- The `auth_registration_begin` branch. -/
def parseRegistrationBegin (value : Json) : Except Exn ParsedRequest := do
  require (value.keys = ["bootstrap_token", "label", "method", "role", "schema"])
    (Exn.brokerProtocolError "registration begin field set is invalid")
  require (matches? value "bootstrap_token" isBootstrapToken ∧
      matches? value "role" (· ∈ credentialRoles) ∧ matches? value "label" (· ∈ credentialLabels))
    (Exn.brokerProtocolError "registration begin fields are invalid")
  return .registrationBegin (value.textField "bootstrap_token") (value.textField "role")
    (value.textField "label")

/-- The `auth_registration_finish` branch. -/
def parseRegistrationFinish (value : Json) : Except Exn ParsedRequest := do
  require (value.keys = ["bootstrap_token", "ceremony_id", "credential", "method", "schema"])
    (Exn.brokerProtocolError "registration finish field set is invalid")
  require (matches? value "bootstrap_token" isBootstrapToken ∧
      matches? value "ceremony_id" isSafeId ∧ (value.field "credential").isObject)
    (Exn.brokerProtocolError "registration finish fields are invalid")
  return .registrationFinish (value.textField "bootstrap_token") (value.textField "ceremony_id")
    (value.field "credential")

/-- The `auth_approval_begin` branch. -/
def parseApprovalBegin (value : Json) : Except Exn ParsedRequest := do
  require (value.keys = ["job_digest", "job_id", "method", "schema"])
    (Exn.brokerProtocolError "approval begin field set is invalid")
  require (matches? value "job_id" isSafeId ∧ matches? value "job_digest" isDigest)
    (Exn.brokerProtocolError "approval begin identity is invalid")
  return .approvalBegin (value.textField "job_id") (value.textField "job_digest")

/-- The `auth_approval_finish` branch. -/
def parseApprovalFinish (value : Json) : Except Exn ParsedRequest := do
  require (value.keys = ["ceremony_id", "credential", "method", "schema"])
    (Exn.brokerProtocolError "approval finish field set is invalid")
  require (matches? value "ceremony_id" isSafeId ∧ (value.field "credential").isObject)
    (Exn.brokerProtocolError "approval finish fields are invalid")
  return .approvalFinish (value.textField "ceremony_id") (value.field "credential")

/-- The branches of `parse_request_frame` that ask a set for the method, and those after them. -/
def parseAuth (value : Json) : Except Exn ParsedRequest := do
  let method := value.field "method"
  requireHashable method
  if method = .str "auth_status" ∨ method = .str "auth_bootstrap_create" then parseAuthEmpty value
  else if method = .str "auth_registration_begin" then parseRegistrationBegin value
  else if method = .str "auth_registration_finish" then parseRegistrationFinish value
  else if method = .str "auth_approval_begin" then parseApprovalBegin value
  else if method = .str "auth_approval_finish" then parseApprovalFinish value
  else .error (Exn.brokerProtocolError "broker request method is unsupported")

/-- The branches of `parse_request_frame`. -/
def parseMethod (value : Json) : Except Exn ParsedRequest :=
  let method := value.field "method"
  if method = .str "submit" then parseSubmit depth value
  else if method = .str "retrieve" then parseRetrieve value
  else parseAuth value

/-- The value of a request payload: canonical, and of the supported schema. -/
def parsePayload (payload : List UInt8) : Except Exn Json := do
  let scanned ← loadsUnique Exn.brokerProtocolError "broker request is not UTF-8 JSON"
    "broker request is not UTF-8 JSON" depth.request.loads payload
  require (isObject scanned) (Exn.brokerProtocolError "broker request must be canonical JSON")
  let value ← canonicalJson depth.request.dumps scanned
  require (payload = canonicalManifestBytes value)
    (Exn.brokerProtocolError "broker request must be canonical JSON")
  require (value.get? "schema" = some (.str brokerRequestSchema))
    (Exn.brokerProtocolError "broker request schema is unsupported")
  return value

/-- Source: `protocol.py`, `parse_request_frame`. -/
def parseRequestFrame (frame : List UInt8) : Except Exn ParsedRequest := do
  let payload ← decodeFrame maxBrokerRequestBytes frame
  let value ← parsePayload depth payload
  parseMethod depth value

end parse

/-! ## Failing closed -/

/-- What `x` raises is a `ValueError`, which the serve loop survives. -/
def FailsClosed {α : Type} (x : Except Exn α) : Prop := OnlyRaises (fun e => e.isValueError = true) x

/-- A list or a dictionary: a value without a hash. -/
def Container : Json → Prop
  | .arr _ => True
  | .obj _ => True
  | _ => False

instance (value : Json) : Decidable (Container value) :=
  match value with
  | .arr _ => .isTrue trivial
  | .obj _ => .isTrue trivial
  | .null => .isFalse id
  | .bool _ => .isFalse id
  | .int _ => .isFalse id
  | .float _ => .isFalse id
  | .str _ => .isFalse id

section closed

variable [UnicodeData]

omit [UnicodeData] in
lemma failsClosed_requireHashable {value : Json} :
    FailsClosed (requireHashable value) ↔ ¬ Container value := by
  unfold FailsClosed
  cases value with
  | arr items =>
      rw [requireHashable, onlyRaises_error]
      exact ⟨fun h => absurd h (by decide), fun h => absurd trivial h⟩
  | obj fields =>
      rw [requireHashable, onlyRaises_error]
      exact ⟨fun h => absurd h (by decide), fun h => absurd trivial h⟩
  | _ => exact ⟨fun _ => id, fun _ => onlyRaises_ok⟩

omit [UnicodeData] in
lemma failsClosed_require {c : Prop} [Decidable c] {e : Exn} (h : e.isValueError = true) :
    FailsClosed (require c e) := onlyRaises_require.mpr (.inr h)

omit [UnicodeData] in
lemma failsClosed_orRaise {α : Type} {x : Option α} {e : Exn} (h : e.isValueError = true) :
    FailsClosed (orRaise x e) := onlyRaises_orRaise.mpr fun _ => h

omit [UnicodeData] in
lemma failsClosed_bind {α β : Type} {x : Except Exn α} {f : α → Except Exn β}
    (hx : FailsClosed x) (hf : ∀ a, x = .ok a → FailsClosed (f a)) : FailsClosed (x >>= f) :=
  onlyRaises_bind.mpr ⟨hx, hf⟩

omit [UnicodeData] in
lemma failsClosed_discard {α : Type} {x : Except Exn α} (h : FailsClosed x) :
    FailsClosed (discard x) := by
  intro e he
  cases x with
  | ok a => cases he
  | error e' =>
      cases he
      exact h _ rfl

omit [UnicodeData] in
lemma failsClosed_requireEach {α : Type} {check : α → Except Exn Unit} {items : List α}
    (h : ∀ a ∈ items, FailsClosed (check a)) : FailsClosed (requireEach check items) := by
  induction items with
  | nil => exact onlyRaises_ok
  | cons a rest ih =>
      rw [requireEach]
      exact failsClosed_bind (h a List.mem_cons_self)
        fun _ _ => ih fun b hb => h b (List.mem_cons_of_mem _ hb)

omit [UnicodeData] in
/-- A loop of checks fails closed when each check does that is reached. -/
lemma onlyRaises_requireEach {α ε : Type} {p : ε → Prop} {check : α → Except ε Unit}
    {items : List α} :
    OnlyRaises p (requireEach check items) ↔ ∀ before a after, items = before ++ a :: after →
      (∀ b ∈ before, check b = .ok ()) → OnlyRaises p (check a) := by
  induction items with
  | nil =>
      refine ⟨?_, fun _ => onlyRaises_ok⟩
      intro _ before a after h
      cases before
      · cases h
      · cases h
  | cons a rest ih =>
      rw [requireEach, onlyRaises_bind]
      constructor
      · rintro ⟨hfirst, hrest⟩ before b after heq hbefore
        cases before with
        | nil =>
            cases heq
            exact hfirst
        | cons c before =>
            cases heq
            have ha := hbefore a List.mem_cons_self
            exact ih.mp (hrest () ha) before b after rfl
              fun d hd => hbefore d (List.mem_cons_of_mem _ hd)
      · intro h
        refine ⟨h [] a rest rfl (List.forall_mem_nil _), ?_⟩
        intro _ ha
        rw [ih]
        intro before b after heq hbefore
        refine h (a :: before) b after (by rw [heq]; rfl) ?_
        intro c hc
        rcases List.mem_cons.mp hc with rfl | hc
        · exact ha
        · exact hbefore c hc

omit [UnicodeData] in
lemma failsClosed_exactKeys (value : Json) (expected : List String) (field : String) :
    FailsClosed (exactKeys value expected field) :=
  failsClosed_bind (failsClosed_require rfl) fun _ _ => failsClosed_require rfl

lemma failsClosed_safeText (value : Json) (field : String) (maximum : Nat) :
    FailsClosed (safeText value field maximum) :=
  failsClosed_bind (failsClosed_orRaise rfl) fun _ _ =>
    failsClosed_bind (failsClosed_require rfl) fun _ _ =>
      failsClosed_bind (failsClosed_require rfl) fun _ _ =>
        failsClosed_bind (failsClosed_require rfl) fun _ _ => onlyRaises_pure

lemma failsClosed_safeId (value : Json) (field : String) : FailsClosed (safeId value field) :=
  failsClosed_bind (failsClosed_safeText _ _ _) fun _ _ =>
    failsClosed_bind (failsClosed_require rfl) fun _ _ => onlyRaises_pure

lemma failsClosed_safeTimestamp (value : Json) (field : String) :
    FailsClosed (safeTimestamp value field) :=
  failsClosed_bind (failsClosed_safeText _ _ _) fun _ _ =>
    failsClosed_bind (failsClosed_require rfl) fun _ _ =>
      failsClosed_bind (failsClosed_require rfl) fun _ _ => onlyRaises_pure

lemma failsClosed_textListWith (least : Nat) (value : Json) (field : String) :
    FailsClosed (textListWith least value field) := by
  unfold textListWith
  split
  · refine failsClosed_bind (failsClosed_require rfl) fun _ _ => ?_
    refine failsClosed_bind (failsClosed_requireEach fun _ _ => ?_) fun _ _ =>
      failsClosed_require rfl
    exact failsClosed_discard (failsClosed_safeText _ _ _)
  · exact onlyRaises_error.mpr rfl

lemma failsClosed_validateAnchor (anchor : Json) (field : String) :
    FailsClosed (validateAnchor anchor field) :=
  failsClosed_bind (failsClosed_exactKeys _ _ _) fun _ _ =>
    failsClosed_bind (failsClosed_discard (failsClosed_safeText _ _ _)) fun _ _ =>
      failsClosed_discard (failsClosed_safeText _ _ _)

omit [UnicodeData] in
lemma failsClosed_validateExpectedPreState (value : Json) :
    FailsClosed (validateExpectedPreState value) := by
  refine failsClosed_bind (failsClosed_exactKeys _ _ _) fun _ _ => ?_
  simp only
  split_ifs
  · exact failsClosed_require rfl
  · exact failsClosed_require rfl
  · exact onlyRaises_error.mpr rfl

/-- A premise whose basis is looked up in the set of bases, although it has no hash. -/
structure UnhashableBasis (premise : Json) (index : Nat) : Prop where
  keys : exactKeys premise ["anchor", "basis", "claim", "falsifier"]
    ("review.premises[" ++ toString index ++ "]") = .ok ()
  claim : ∃ s, safeText (premise.field "claim")
    ("review.premises[" ++ toString index ++ "].claim") = .ok s
  basis : Container (premise.field "basis")

lemma failsClosed_validatePremise {premise : Json} {index : Nat} :
    FailsClosed (validatePremise premise index) ↔ ¬ UnhashableBasis premise index := by
  have hfield : "review.premises[" ++ toString index ++ "]" ++ ".claim" =
      "review.premises[" ++ toString index ++ "].claim" := by
    rw [String.append_assoc]
    rfl
  constructor
  · rintro h ⟨hkeys, ⟨s, hclaim⟩, hbasis⟩
    unfold validatePremise FailsClosed at h
    rw [onlyRaises_bind] at h
    have hclosed := h.2 () hkeys
    rw [onlyRaises_bind, hfield, hclaim] at hclosed
    have hbind := hclosed.2 () rfl
    rw [onlyRaises_bind] at hbind
    exact failsClosed_requireHashable.mp hbind.1 hbasis
  · intro h
    refine failsClosed_bind (failsClosed_exactKeys _ _ _) fun _ hkeys => ?_
    refine failsClosed_bind (failsClosed_discard (failsClosed_safeText _ _ _)) fun _ hclaim => ?_
    refine failsClosed_bind ?_ fun _ _ => ?_
    · rw [failsClosed_requireHashable]
      intro hbasis
      refine h ⟨hkeys, ?_, hbasis⟩
      rw [hfield] at hclaim
      cases hsafe : safeText (premise.field "claim")
        ("review.premises[" ++ toString index ++ "].claim") with
      | ok s => exact ⟨s, rfl⟩
      | error e =>
          rw [hsafe] at hclaim
          cases hclaim
    · refine failsClosed_bind (failsClosed_require rfl) fun _ _ => ?_
      refine failsClosed_bind (failsClosed_discard (failsClosed_safeText _ _ _)) fun _ _ => ?_
      simp only
      split_ifs
      · exact failsClosed_validateAnchor _ _
      · exact failsClosed_require rfl
      · exact onlyRaises_ok
      · exact failsClosed_validateAnchor _ _

/-- The premises of a review lead to one whose basis has no hash. -/
def UnhashablePremise (premises : Json) : Prop :=
  ∃ before premise after, premises = .arr (before ++ premise :: after) ∧
    (before ++ premise :: after).length ≤ 8 ∧
    (∀ p ∈ before.zipIdx, validatePremise p.1 p.2 = .ok ()) ∧
    UnhashableBasis premise before.length

omit [UnicodeData] in
lemma zipIdx_append_cons {α : Type} (front : List α) (a : α) (tail : List α) :
    (front ++ a :: tail).zipIdx =
      front.zipIdx ++ (a, front.length) :: tail.zipIdx (front.length + 1) := by
  rw [List.zipIdx_append, List.zipIdx_cons, Nat.zero_add]

omit [UnicodeData] in
lemma zipIdx_split {α : Type} {items : List α} {before : List (α × Nat)} {p : α × Nat}
    {after : List (α × Nat)} (h : items.zipIdx = before ++ p :: after) :
    ∃ front tail, items = front ++ p.1 :: tail ∧ before = front.zipIdx ∧ p.2 = front.length := by
  have hlen : before.length < items.length := by
    have hall := congrArg List.length h
    rw [List.length_zipIdx, List.length_append, List.length_cons] at hall
    omega
  have hitems : items = items.take before.length ++ items[before.length] ::
      items.drop (before.length + 1) := by
    rw [← List.drop_eq_getElem_cons hlen, List.take_append_drop]
  have hfront : (items.take before.length).length = before.length := by
    rw [List.length_take]
    omega
  rw [hitems, zipIdx_append_cons] at h
  obtain ⟨hbefore, hrest⟩ := List.append_inj h (by rw [List.length_zipIdx, hfront])
  obtain ⟨rfl, -⟩ := List.cons.inj hrest
  exact ⟨_, _, hitems, hbefore.symm, rfl⟩

lemma failsClosed_validatePremises {premises : Json} :
    FailsClosed (validatePremises premises) ↔ ¬ UnhashablePremise premises := by
  cases premises with
  | arr items =>
      unfold validatePremises FailsClosed
      rw [onlyRaises_bind, onlyRaises_requireEach]
      constructor
      · rintro ⟨-, h⟩ ⟨before, premise, after, heq, hlen, hbefore, hbasis⟩
        cases heq
        have hsize : before ++ premise :: after ≠ [] ∧ (before ++ premise :: after).length ≤ 8 :=
          ⟨by simp, hlen⟩
        have hclosed := h () (require_of hsize) _ _ _ (zipIdx_append_cons before premise after)
          hbefore
        exact failsClosed_validatePremise.mp hclosed hbasis
      · intro h
        refine ⟨failsClosed_require rfl, ?_⟩
        intro _ hsize before p after heq hbefore
        obtain ⟨front, tail, rfl, rfl, hindex⟩ := zipIdx_split heq
        refine failsClosed_validatePremise.mpr fun hbasis => ?_
        rw [require_ok] at hsize
        rw [hindex] at hbasis
        exact h ⟨front, p.1, tail, rfl, hsize.2, hbefore, hbasis⟩
  | _ =>
      refine ⟨?_, fun _ => onlyRaises_error.mpr rfl⟩
      rintro - ⟨_, _, _, heq, -⟩
      cases heq

/-- The checks of `_validate_manifest` that come before the premises. -/
def beforePremises (manifest : Json) : Except Exn Unit := do
  exactKeys manifest ["expected_pre_state", "job_id", "operation_id", "operation_version",
    "parameters", "registry_version", "request", "review", "schema"] "manifest"
  require (manifest.field "schema" = .str manifestSchema)
    (Exn.manifestValidationError "manifest.schema is not supported")
  require (manifest.field "registry_version" = .str registryVersion)
    (Exn.manifestValidationError "manifest.registry_version is not supported")
  discard (safeId (manifest.field "job_id") "job_id")
  discard (safeId (manifest.field "operation_id") "operation_id")
  let request := manifest.field "request"
  exactKeys request ["lineage_id", "reply_target", "request_id", "submitted_at"] "request"
  discard (safeId (request.field "request_id") "request.request_id")
  discard (safeId (request.field "lineage_id") "request.lineage_id")
  discard (safeId (request.field "reply_target") "request.reply_target")
  discard (safeTimestamp (request.field "submitted_at") "request.submitted_at")
  validateExpectedPreState (manifest.field "expected_pre_state")
  let review := manifest.field "review"
  exactKeys review ["changes", "premises", "purpose", "recovery", "risk_delta", "targets"] "review"
  discard (safeText (review.field "purpose") "review.purpose")

omit [UnicodeData] in
lemma discard_ok {α : Type} {x : Except Exn α} {u : Unit} :
    discard x = .ok u ↔ ∃ a, x = .ok a := by
  cases x with
  | ok a => exact ⟨fun _ => ⟨a, rfl⟩, fun _ => rfl⟩
  | error e => exact ⟨nofun, fun ⟨_, h⟩ => nomatch h⟩

/-- A manifest fails closed unless its premises are reached and one of them has a basis without a
hash. -/
lemma failsClosed_validateManifest {manifest : Json} :
    FailsClosed (validateManifest manifest) ↔ (beforePremises manifest = .ok () →
      ¬ UnhashablePremise ((manifest.field "review").field "premises")) := by
  constructor
  · intro h hbefore
    unfold beforePremises at hbefore
    simp only [except_bind_ok, discard_ok, require_ok, exists_const] at hbefore
    obtain ⟨_, hkeys, hschema, hregistry, ⟨jobId, hjob⟩, ⟨operationId, hoperation⟩, _, hrequest,
      ⟨requestId, hrid⟩, ⟨lineageId, hlid⟩, ⟨replyTarget, hreply⟩, ⟨submittedAt, htime⟩, _, hpre, _,
      hreview, purpose, hpurpose⟩ := hbefore
    unfold validateManifest FailsClosed at h
    simp only [onlyRaises_bind] at h
    have hclosed := (((((((((((((h.2 _ hkeys).2 () (require_of hschema)).2 ()
      (require_of hregistry)).2 _ hjob).2 _ hoperation).2 _ hrequest).2 _ hrid).2 _ hlid).2 _
      hreply).2 _ htime).2 _ hpre).1))
    unfold validateReview at hclosed
    simp only [onlyRaises_bind] at hclosed
    have hpremises := ((hclosed.2 _ hreview).2 () (discard_ok.mpr ⟨purpose, hpurpose⟩)).1
    exact failsClosed_validatePremises.mp hpremises
  · intro h
    refine failsClosed_bind (failsClosed_exactKeys _ _ _) fun _ hkeys => ?_
    refine failsClosed_bind (failsClosed_require rfl) fun _ hschema => ?_
    refine failsClosed_bind (failsClosed_require rfl) fun _ hregistry => ?_
    refine failsClosed_bind (failsClosed_safeId _ _) fun jobId hjob => ?_
    refine failsClosed_bind (failsClosed_safeId _ _) fun operationId hoperation => ?_
    refine failsClosed_bind (failsClosed_exactKeys _ _ _) fun _ hrequest => ?_
    refine failsClosed_bind (failsClosed_safeId _ _) fun requestId hrid => ?_
    refine failsClosed_bind (failsClosed_safeId _ _) fun lineageId hlid => ?_
    refine failsClosed_bind (failsClosed_safeId _ _) fun replyTarget hreply => ?_
    refine failsClosed_bind (failsClosed_safeTimestamp _ _) fun submittedAt htime => ?_
    refine failsClosed_bind (failsClosed_validateExpectedPreState _) fun _ hpre => ?_
    refine failsClosed_bind ?_ fun _ _ => ?_
    · refine failsClosed_bind (failsClosed_exactKeys _ _ _) fun _ hreview => ?_
      refine failsClosed_bind (failsClosed_discard (failsClosed_safeText _ _ _))
        fun _ hpurpose => ?_
      have hbefore : beforePremises manifest = .ok () := by
        unfold beforePremises
        simp only [except_bind_ok, discard_ok, exists_const]
        exact ⟨_, hkeys, _, hschema, _, hregistry, ⟨jobId, hjob⟩, ⟨operationId, hoperation⟩, _,
          hrequest, ⟨requestId, hrid⟩, ⟨lineageId, hlid⟩, ⟨replyTarget, hreply⟩,
          ⟨submittedAt, htime⟩, _, hpre, _, hreview, discard_ok.mp hpurpose⟩
      refine failsClosed_bind (failsClosed_validatePremises.mpr (h hbefore)) fun _ _ => ?_
      refine failsClosed_bind (failsClosed_textListWith _ _ _) fun _ _ => ?_
      refine failsClosed_bind (failsClosed_textListWith _ _ _) fun _ _ => ?_
      refine failsClosed_bind (failsClosed_textListWith _ _ _) fun _ _ => ?_
      refine failsClosed_bind (failsClosed_exactKeys _ _ _) fun _ _ => ?_
      refine failsClosed_bind (failsClosed_discard (failsClosed_safeText _ _ _)) fun _ _ => ?_
      refine failsClosed_bind (failsClosed_textListWith _ _ _) fun _ _ => ?_
      refine failsClosed_bind (failsClosed_textListWith _ _ _) fun _ _ => ?_
      exact failsClosed_discard (failsClosed_safeText _ _ _)
    · exact failsClosed_bind (onlyRaises_mapError fun _ => rfl) fun _ _ => onlyRaises_pure

variable [FloatData]

omit [UnicodeData] [FloatData] in
/-- Reading bytes fails closed unless the text opens too many containers. -/
lemma failsClosed_loadsUnique {exn : String → Exn} (hexn : ∀ m, (exn m).isValueError = true)
    {notUtf8 notJson : String} {limit : Nat} {raw : List UInt8} :
    FailsClosed (loadsUnique exn notUtf8 notJson limit raw) ↔
      ∀ text, decodeUtf8? raw = some text → openContainers true text ≤ limit := by
  unfold loadsUnique FailsClosed
  cases hraw : decodeUtf8? raw with
  | none => simp [hexn]
  | some text =>
      have hfuel : scan true limit text ≠ .error .fuel := scan_ne_fuel
      have hrecursion := @openContainers_le_iff true limit text
      simp only [Option.some.injEq, forall_eq']
      rw [hrecursion]
      cases hscan : scan true limit text with
      | ok value => simp
      | error e =>
          cases e with
          | fuel => exact absurd hscan hfuel
          | recursion =>
              rw [onlyRaises_error]
              exact ⟨fun h => absurd h (by decide), fun h => absurd rfl h⟩
          | malformed => simp [hexn]
          | digits => simp [hexn]
          | duplicate key => simp [hexn]

omit [UnicodeData] in
lemma failsClosed_canonicalJson {limit : Nat} {value : Scanned} :
    FailsClosed (canonicalJson limit value) ↔ value.nesting ≤ limit := by
  unfold canonicalJson FailsClosed
  rw [onlyRaises_bind, onlyRaises_require]
  constructor
  · rintro ⟨hle | hrec, -⟩
    · exact hle
    · exact absurd hrec (by decide)
  · intro hle
    exact ⟨.inl hle, fun _ _ => failsClosed_orRaise rfl⟩

/-- What makes sealing a manifest that is not too long fail closed. -/
structure SealsClosed (depth : JsonDepth) (manifest : Json) : Prop where
  loads : manifest.nesting ≤ depth.loads
  basis : beforePremises manifest = .ok () →
    ¬ UnhashablePremise ((manifest.field "review").field "premises")
  dumps : (∃ m, validateManifest manifest = .ok m) → manifest.nesting ≤ depth.dumps

/-- Sealing the canonical bytes of a manifest. -/
lemma failsClosed_sealManifestBytes {depth : JsonDepth} {manifest : Json}
    (hcanonical : manifest.Canonical) (hobject : manifest.isObject = true) :
    FailsClosed (sealManifestBytes depth (canonicalManifestBytes manifest)) ↔
      ((canonicalManifestBytes manifest).length ≤ maxManifestBytes →
        SealsClosed depth manifest) := by
  have hscan := scan_dumps hcanonical true depth.loads isBlank_newline
  have hdecode : decodeUtf8? (canonicalManifestBytes manifest) = some (manifest.dumps ++ ['\n']) :=
    decodeUtf8?_utf8 _
  have hopen : openContainers true (manifest.dumps ++ ['\n']) ≤ depth.loads ↔
      manifest.nesting ≤ depth.loads := by
    rw [openContainers_le_iff, hscan]
    split_ifs with hle
    · exact ⟨fun _ => hle, fun _ => nofun⟩
    · exact ⟨fun h => absurd rfl h, fun h => absurd h hle⟩
  have hparse := @parseObject_canonical _ manifestErrors depth.loads manifest hcanonical hobject
  constructor
  · intro h hsize
    unfold sealManifestBytes sealBytes FailsClosed at h
    rw [onlyRaises_bind] at h
    have hloads : manifest.nesting ≤ depth.loads := by
      have hread := h.1
      unfold parseObject at hread
      rw [onlyRaises_bind] at hread
      have hpos : 0 < (canonicalManifestBytes manifest).length ∧
          (canonicalManifestBytes manifest).length ≤ manifestErrors.maximum := by
        refine ⟨?_, hsize⟩
        rw [length_canonicalManifestBytes]
        exact Nat.succ_pos _
      have hbind := hread.2 () (require_of hpos)
      rw [onlyRaises_bind] at hbind
      exact hopen.mp ((failsClosed_loadsUnique (fun _ => rfl)).mp hbind.1 _ hdecode)
    have hvalue : parseObject manifestErrors depth.loads (canonicalManifestBytes manifest) =
        .ok manifest := (hparse hloads isBlank_newline).trans (if_pos hsize)
    have hseal := h.2 manifest hvalue
    rw [onlyRaises_bind] at hseal
    refine ⟨hloads, ?_, ?_⟩
    · have hjob := hseal.1
      unfold sealedJobOf at hjob
      rw [onlyRaises_bind] at hjob
      exact failsClosed_validateManifest.mp hjob.1
    · rintro ⟨m, hm⟩
      have hjob : ∃ job, sealedJobOf manifest = .ok job := by
        unfold sealedJobOf
        rw [hm]
        exact ⟨_, rfl⟩
      obtain ⟨job, hjob⟩ := hjob
      have hdumps := hseal.2 job hjob
      rw [onlyRaises_bind, onlyRaises_require] at hdumps
      rcases hdumps.1 with hle | hrec
      · exact hle
      · exact absurd hrec (by decide)
  · intro h
    by_cases hsize : (canonicalManifestBytes manifest).length ≤ maxManifestBytes
    · obtain ⟨hloads, hbasis, hdumps⟩ := h hsize
      have hvalue : parseObject manifestErrors depth.loads (canonicalManifestBytes manifest) =
          .ok manifest := (hparse hloads isBlank_newline).trans (if_pos hsize)
      refine failsClosed_bind ?_ fun value hok => ?_
      · rw [hvalue]
        exact onlyRaises_ok
      · cases hvalue.symm.trans hok
        refine failsClosed_bind ?_ fun job hjob => ?_
        · exact failsClosed_bind (failsClosed_validateManifest.mpr hbasis) fun _ _ => onlyRaises_pure
        · have hle : manifest.nesting ≤ depth.dumps := by
            unfold sealedJobOf at hjob
            rw [except_bind_ok] at hjob
            obtain ⟨m, hm, -⟩ := hjob
            exact hdumps ⟨m, hm⟩
          rw [require_of hle]
          exact onlyRaises_ok
    · -- A manifest that is too long is rejected before it is read.
      have hreject : parseObject manifestErrors depth.loads (canonicalManifestBytes manifest) =
          .error (Exn.manifestValidationError
            "manifest byte length is outside the allowed range") := by
        unfold parseObject require
        rw [if_neg (fun hboth => hsize hboth.2)]
        rfl
      unfold sealManifestBytes sealBytes
      rw [hreject]
      exact onlyRaises_error.mpr rfl

/-- A payload that is the canonical text of a request. -/
structure IsRequest (payload : List UInt8) (value : Json) : Prop where
  decodes : decoded? payload = some value
  isObject : value.isObject = true
  canonical : payload = canonicalManifestBytes value
  schema : value.get? "schema" = some (.str brokerRequestSchema)

/-- A payload that drives the parser into none of the operations that raise another class. -/
structure Harmless (depth : ParseDepth) (payload : List UInt8) : Prop where
  /-- The text opens no more containers than `json.loads` can. -/
  loads : ∀ text, decodeUtf8? payload = some text →
    openContainers true text ≤ depth.request.loads
  /-- The object it spells nests no deeper than `json.dumps` can. -/
  dumps : ∀ text value, decodeUtf8? payload = some text →
    scan true depth.request.loads text = .ok value → isObject value = true →
    value.nesting ≤ depth.request.dumps
  /-- The method of a request is no list and no dictionary. -/
  method : ∀ value, IsRequest payload value → ¬ Container (value.field "method")
  /-- The manifest of a request nests no deeper than `json.dumps` can. -/
  manifest : ∀ value, IsRequest payload value → value.field "method" = .str "submit" →
    value.keys = ["manifest", "method", "schema"] → (value.field "manifest").isObject = true →
    (value.field "manifest").nesting ≤ depth.manifest
  /-- Where it is not too long, sealing it fails closed. -/
  sealing : ∀ value, IsRequest payload value → value.field "method" = .str "submit" →
    value.keys = ["manifest", "method", "schema"] → (value.field "manifest").isObject = true →
    (canonicalManifestBytes (value.field "manifest")).length ≤ maxManifestBytes →
    SealsClosed depth.sealing (value.field "manifest")

variable {depth : ParseDepth} {payload : List UInt8}

omit [UnicodeData] in
lemma parsePayload_ok {value : Json} (h : parsePayload depth payload = .ok value) :
    IsRequest payload value ∧ value.Canonical := by
  unfold parsePayload canonicalJson at h
  simp only [except_bind_ok, require_ok, exists_const, orRaise_ok, loadsUnique_ok,
    except_pure_ok] at h
  obtain ⟨scanned, ⟨text, htext, hscan⟩, hobject, value', ⟨-, hjson⟩, hpayload, hschema, rfl⟩ := h
  refine ⟨⟨?_, ?_, hpayload, hschema⟩, canonical_of_toJson? (bounded_of_scan hscan) hjson⟩
  · rw [decoded?_of_scan htext hscan, hjson]
  · rw [← isObject_toJson? hjson, hobject]

omit [UnicodeData] in
/-- A request is read where the stack allows it. -/
lemma parsePayload_of_isRequest {value : Json} (h : IsRequest payload value)
    (hloads : ∀ text, decodeUtf8? payload = some text →
      openContainers true text ≤ depth.request.loads)
    (hdumps : ∀ text value, decodeUtf8? payload = some text →
      scan true depth.request.loads text = .ok value → isObject value = true →
      value.nesting ≤ depth.request.dumps) :
    parsePayload depth payload = .ok value := by
  have hdecodes := h.decodes
  unfold decoded? at hdecodes
  split at hdecodes
  · cases hdecodes
  · next text htext =>
    split at hdecodes
    · next scanned hscan =>
      have hread : scan true depth.request.loads text = .ok scanned := by
        have hne := openContainers_le_iff.mp (hloads text htext)
        rcases le_total depth.request.loads (2 * text.length + 1) with hle | hle
        · rw [← scan_mono hle hne, hscan]
        · rw [scan_mono hle (scan_ne_recursion le_rfl), hscan]
      have hobject : isObject scanned = true := by
        rw [isObject_toJson? hdecodes]
        exact h.isObject
      unfold parsePayload canonicalJson
      simp only [except_bind_ok, require_ok, exists_const, orRaise_ok, loadsUnique_ok,
        except_pure_ok]
      exact ⟨scanned, ⟨text, htext, hread⟩, hobject, value,
        ⟨hdumps text scanned htext hread hobject, hdecodes⟩, h.canonical, h.schema, rfl⟩
    · cases hdecodes

omit [UnicodeData] in
/-- The canonical bytes of a request are read back. -/
lemma parsePayload_canonical {value : Json} (hcanonical : value.Canonical)
    (hobject : value.isObject = true)
    (hschema : value.get? "schema" = some (.str brokerRequestSchema))
    (hloads : value.nesting ≤ depth.request.loads) (hdumps : value.nesting ≤ depth.request.dumps) :
    parsePayload depth (canonicalManifestBytes value) = .ok value := by
  have hread := scan_dumps hcanonical true depth.request.loads isBlank_newline
  have hjson := toJson?_scanned hcanonical
  rw [if_pos hloads] at hread
  unfold parsePayload canonicalJson
  simp only [except_bind_ok, require_ok, exists_const, orRaise_ok, loadsUnique_ok, except_pure_ok]
  refine ⟨value.scanned, ⟨_, decodeUtf8?_utf8 _, hread⟩, ?_, value, ⟨?_, hjson⟩, rfl, hschema, rfl⟩
  · rw [isObject_toJson? hjson, hobject]
  · rw [nesting_scanned]
    exact hdumps

lemma failsClosed_parseSubmit {value : Json} (hcanonical : value.Canonical) :
    FailsClosed (parseSubmit depth value) ↔
      (value.keys = ["manifest", "method", "schema"] → (value.field "manifest").isObject = true →
        (value.field "manifest").nesting ≤ depth.manifest ∧
        ((canonicalManifestBytes (value.field "manifest")).length ≤ maxManifestBytes →
          SealsClosed depth.sealing (value.field "manifest"))) := by
  have hmanifest := canonical_field hcanonical "manifest"
  constructor
  · intro h hkeys hobject
    unfold parseSubmit FailsClosed at h
    simp only [onlyRaises_bind, onlyRaises_require] at h
    obtain ⟨hnesting, hseal⟩ := (h.2 () (require_of hkeys)).2 () (require_of hobject)
    have hle : (value.field "manifest").nesting ≤ depth.manifest := by
      rcases hnesting with hle | hrec
      · exact hle
      · exact absurd hrec (by decide)
    refine ⟨hle, (failsClosed_sealManifestBytes hmanifest hobject).mp ?_⟩
    intro e he
    have hdiscard := (hseal () (require_of hle)).1
    rw [he] at hdiscard
    exact hdiscard e rfl
  · intro h
    refine failsClosed_bind (failsClosed_require rfl) fun _ hkeys => ?_
    refine failsClosed_bind (failsClosed_require rfl) fun _ hobject => ?_
    rw [require_ok] at hkeys hobject
    obtain ⟨hle, hseal⟩ := h hkeys hobject
    rw [require_of hle]
    refine failsClosed_bind onlyRaises_ok fun _ _ => ?_
    refine failsClosed_bind (failsClosed_discard ?_) fun _ _ => onlyRaises_pure
    exact (failsClosed_sealManifestBytes hmanifest hobject).mpr hseal

omit [UnicodeData] [FloatData] in
/-- A branch that checks a field set and some fields. -/
lemma failsClosed_branch {c d : Prop} [Decidable c] [Decidable d] {message message' : String}
    {request : ParsedRequest} :
    FailsClosed (do
      require c (Exn.brokerProtocolError message)
      require d (Exn.brokerProtocolError message')
      return request) :=
  failsClosed_bind (failsClosed_require rfl) fun _ _ =>
    failsClosed_bind (failsClosed_require rfl) fun _ _ => onlyRaises_pure

omit [UnicodeData] [FloatData] in
lemma failsClosed_parseAuth {value : Json} :
    FailsClosed (parseAuth value) ↔ ¬ Container (value.field "method") := by
  constructor
  · intro h
    unfold parseAuth FailsClosed at h
    rw [onlyRaises_bind] at h
    exact failsClosed_requireHashable.mp h.1
  · intro h
    refine failsClosed_bind (failsClosed_requireHashable.mpr h) fun _ _ => ?_
    split_ifs
    · exact failsClosed_bind (failsClosed_require rfl) fun _ _ => onlyRaises_pure
    · exact failsClosed_branch
    · exact failsClosed_branch
    · exact failsClosed_branch
    · exact failsClosed_branch
    · exact onlyRaises_error.mpr rfl

/-- The parser fails closed on a payload exactly when the payload is harmless. -/
lemma failsClosed_payload :
    FailsClosed (parsePayload depth payload >>= parseMethod depth) ↔ Harmless depth payload := by
  constructor
  · intro h
    unfold FailsClosed at h
    rw [onlyRaises_bind] at h
    obtain ⟨hpayload, hmethod⟩ := h
    unfold parsePayload at hpayload
    rw [onlyRaises_bind] at hpayload
    have hloads := (failsClosed_loadsUnique (fun _ => rfl)).mp hpayload.1
    have hdumps : ∀ text value, decodeUtf8? payload = some text →
        scan true depth.request.loads text = .ok value → isObject value = true →
        value.nesting ≤ depth.request.dumps := by
      intro text value htext hscan hobject
      have hobj := hpayload.2 value (loadsUnique_ok.mpr ⟨text, htext, hscan⟩)
      rw [onlyRaises_bind] at hobj
      have hcanonical := hobj.2 () (require_of hobject)
      rw [onlyRaises_bind] at hcanonical
      exact failsClosed_canonicalJson.mp hcanonical.1
    have hread : ∀ value, IsRequest payload value → parsePayload depth payload = .ok value :=
      fun value hvalue => parsePayload_of_isRequest hvalue hloads hdumps
    have hsubmit : ∀ value, IsRequest payload value → value.field "method" = .str "submit" →
        FailsClosed (parseSubmit depth value) := by
      intro value hvalue hm
      have hclosed := hmethod value (hread value hvalue)
      unfold parseMethod at hclosed
      rwa [if_pos hm] at hclosed
    refine ⟨hloads, hdumps, ?_, ?_, ?_⟩
    · intro value hvalue hcontainer
      have hclosed := hmethod value (hread value hvalue)
      have hne : ∀ s, value.field "method" ≠ .str s := by
        intro s heq
        rw [heq] at hcontainer
        exact hcontainer
      unfold parseMethod at hclosed
      rw [if_neg (hne _), if_neg (hne _)] at hclosed
      exact failsClosed_parseAuth.mp hclosed hcontainer
    · intro value hvalue hm hkeys hobject
      have hcanonical := (parsePayload_ok (hread value hvalue)).2
      exact ((failsClosed_parseSubmit hcanonical).mp (hsubmit value hvalue hm) hkeys hobject).1
    · intro value hvalue hm hkeys hobject
      have hcanonical := (parsePayload_ok (hread value hvalue)).2
      exact ((failsClosed_parseSubmit hcanonical).mp (hsubmit value hvalue hm) hkeys hobject).2
  · intro h
    refine failsClosed_bind ?_ fun value hvalue => ?_
    · refine failsClosed_bind ((failsClosed_loadsUnique (fun _ => rfl)).mpr h.loads)
        fun scanned hscanned => ?_
      obtain ⟨text, htext, hscan⟩ := loadsUnique_ok.mp hscanned
      refine failsClosed_bind (failsClosed_require rfl) fun _ hobject => ?_
      rw [require_ok] at hobject
      refine failsClosed_bind (failsClosed_canonicalJson.mpr (h.dumps text scanned htext hscan hobject))
        fun _ _ => ?_
      exact failsClosed_bind (failsClosed_require rfl) fun _ _ =>
        failsClosed_bind (failsClosed_require rfl) fun _ _ => onlyRaises_pure
    · obtain ⟨hrequest, hcanonical⟩ := parsePayload_ok hvalue
      unfold parseMethod
      simp only
      split_ifs with hm
      · refine (failsClosed_parseSubmit hcanonical).mpr fun hkeys hobject => ?_
        exact ⟨h.manifest value hrequest hm hkeys hobject,
          h.sealing value hrequest hm hkeys hobject⟩
      · exact failsClosed_branch
      · exact failsClosed_parseAuth.mpr (h.method value hrequest)

/-- A frame with a request in it is parsed by its method. -/
lemma parseRequestFrame_of_payload {frame : List UInt8} {value : Json}
    (hframe : decodeFrame maxBrokerRequestBytes frame = .ok payload)
    (hvalue : parsePayload depth payload = .ok value) :
    parseRequestFrame depth frame = parseMethod depth value := by
  unfold parseRequestFrame
  rw [hframe]
  change (parsePayload depth payload >>= parseMethod depth) = _
  rw [hvalue]
  rfl

/-- **The parser fails closed on harmless payloads, and on no others.** Whatever it raises is a
`ValueError`, which the serve loop survives, exactly when the payload of the frame, if it has one,
is harmless. -/
theorem parse_fails_closed_iff (depth : ParseDepth) (frame : List UInt8) :
    (∀ e, parseRequestFrame depth frame = .error e → e.isValueError = true) ↔
      ∀ payload, decodeFrame maxBrokerRequestBytes frame = .ok payload → Harmless depth payload := by
  have hframe : FailsClosed (decodeFrame maxBrokerRequestBytes frame) := by
    unfold decodeFrame
    split
    · exact failsClosed_bind (failsClosed_require rfl) fun _ _ => onlyRaises_pure
    · exact onlyRaises_error.mpr rfl
  change FailsClosed (parseRequestFrame depth frame) ↔ _
  unfold parseRequestFrame FailsClosed
  rw [onlyRaises_bind]
  constructor
  · rintro ⟨-, h⟩ payload hpayload
    exact failsClosed_payload.mp (h payload hpayload)
  · intro h
    exact ⟨hframe, fun payload hpayload => failsClosed_payload.mpr (h payload hpayload)⟩

end closed

/-- A request whose method is a list. -/
def listMethodRequest : Json :=
  .obj [("method", .arr []), ("schema", .str brokerRequestSchema)]

/-- The frame of a request whose method is a list raises a `TypeError`. -/
theorem list_method_raises :
    ∃ (u : UnicodeData) (f : FloatData),
      @parseRequestFrame u f ⟨⟨900, 900⟩, 900, ⟨900, 900⟩⟩
          (packLength 69 ++ canonicalManifestBytes listMethodRequest) =
        .error (Exn.typeError "unhashable type: 'list'") := by
  let _ := UnicodeData.asciiOnly
  let _ := FloatData.zero
  have hlength : (canonicalManifestBytes listMethodRequest).length = 69 := by decide
  have hcanonical : listMethodRequest.Canonical := canonical_of_plain (by decide)
  have hnesting : listMethodRequest.nesting ≤ 900 := by decide
  have hframe : decodeFrame maxBrokerRequestBytes
      (packLength 69 ++ canonicalManifestBytes listMethodRequest) =
        .ok (canonicalManifestBytes listMethodRequest) := by
    have hne : canonicalManifestBytes listMethodRequest ≠ [] := by
      intro hnil
      rw [hnil] at hlength
      cases hlength
    have hdecode := @decodeFrame_packLength maxBrokerRequestBytes _ hne
      (by rw [hlength]; decide) (by decide)
    rwa [hlength] at hdecode
  have hpayload : parsePayload ⟨⟨900, 900⟩, 900, ⟨900, 900⟩⟩
      (canonicalManifestBytes listMethodRequest) = .ok listMethodRequest :=
    parsePayload_canonical hcanonical rfl rfl hnesting hnesting
  have hmethod : listMethodRequest.field "method" = .arr [] := rfl
  have hauth : parseAuth listMethodRequest = .error (Exn.typeError "unhashable type: 'list'") := by
    unfold parseAuth
    rw [hmethod]
    rfl
  have hparse : parseMethod ⟨⟨900, 900⟩, 900, ⟨900, 900⟩⟩ listMethodRequest =
      .error (Exn.typeError "unhashable type: 'list'") := by
    unfold parseMethod
    rw [hmethod, if_neg nofun, if_neg nofun, hauth]
  exact ⟨UnicodeData.asciiOnly, FloatData.zero,
    (parseRequestFrame_of_payload hframe hpayload).trans hparse⟩

end AgentRuntimeOps.RootActions
