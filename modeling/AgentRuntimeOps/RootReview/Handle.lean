import AgentRuntimeOps.Lib.Base64
import AgentRuntimeOps.Lib.JsonEq
import AgentRuntimeOps.RootActions.Basic

/-!
# Review handles

`RootReviewHandle` as a text: canonical JSON in unpadded URL-safe base64, with its digest.
`decode` compares the bytes with the canonical JSON of what they say, but not the base64 with the
base64 of the bytes.
-/

namespace AgentRuntimeOps.RootReview

open AgentRuntimeOps.Lib
open RootActions (isDigest isLowerAlnum)

/-! ## Handles -/

structure RootReviewHandle where
  agentSession : String
  agentPane : String
  agentPanePid : Int
  requestSha256 : String
  transcriptDevice : Int
  transcriptInode : Int
  transcriptOffset : Int
deriving DecidableEq, Repr

/-- How a call that reads or writes a handle fails. -/
inductive HandleError where
  /-- `RootReviewError("root_review_handle_invalid")` -/
  | invalid
  /-- An integer of more digits than `int` converts from or to a text. -/
  | digits
  | recursion
  /-- A text of the JSON value holds a lone surrogate: it is refused, or cannot be encoded. -/
  | surrogate
deriving DecidableEq, Repr

def handleSchema : String := "agent-runtime-root-review-handle/v2"

namespace RootReviewHandle

/-- The JSON object of a handle, by sorted name. -/
def toJson (h : RootReviewHandle) : Json := .obj [
  ("agent_pane", .str h.agentPane),
  ("agent_pane_pid", .int h.agentPanePid),
  ("agent_session", .str h.agentSession),
  ("request_sha256", .str h.requestSha256),
  ("schema", .str handleSchema),
  ("transcript_device", .int h.transcriptDevice),
  ("transcript_inode", .int h.transcriptInode),
  ("transcript_offset", .int h.transcriptOffset)]

/-- The integers of the handle can be written. -/
def Fits (h : RootReviewHandle) : Prop :=
  IntFits h.agentPanePid ∧ IntFits h.transcriptDevice ∧ IntFits h.transcriptInode ∧
    IntFits h.transcriptOffset

instance (h : RootReviewHandle) : Decidable h.Fits :=
  inferInstanceAs (Decidable (_ ≤ _ ∧ _ ≤ _ ∧ _ ≤ _ ∧ _ ≤ _))

end RootReviewHandle

/-- `_canonical_json(value)`, of a value that can be written. -/
def canonicalJson (value : Json) : List UInt8 := utf8 (value.dumps ++ ['\n'])

/-- `RootReviewHandle.encode` -/
def RootReviewHandle.encode (h : RootReviewHandle) : Except HandleError (List Char) := do
  require h.Fits .digits
  let payload := canonicalJson h.toJson
  let body := (Base64.encode payload).rdropWhile (· = '=')
  return "rr1.".toList ++ body ++ '.' :: hexdigest payload

/-! ## Reading a handle -/

/-- `_AGENT_SLUG_RE.fullmatch`: `[a-z0-9](?:[a-z0-9-]{0,30}[a-z0-9])?`. -/
def isAgentSlug (s : String) : Bool :=
  match s.toList with
  | [] => false
  | c :: rest => isLowerAlnum c && (rest.isEmpty || (rest.length ≤ 31 &&
      rest.dropLast.all (fun c => isLowerAlnum c || c == '-') && rest.getLast?.any isLowerAlnum))

/-- `_PANE_RE.fullmatch`: `%[0-9]+`. -/
def isPane (s : String) : Bool :=
  match s.toList with
  | '%' :: digits => !digits.isEmpty && digits.all Char.isDigit
  | _ => false

/-- `_HANDLE_RE.fullmatch`, with the body and the digest between the dots. -/
def splitHandle (raw : List Char) : Option (List Char × List Char) :=
  let body := (raw.drop 4).takeWhile (Base64.alphabet.contains ·)
  let digest := (raw.drop 4).drop (body.length + 1)
  if raw = "rr1.".toList ++ body ++ '.' :: digest ∧ body ≠ [] ∧ digest.length = 64 ∧
      digest.all isHexDigit then
    some (body, digest)
  else none

/-- The checks of the fields, on the value. -/
def handleOf (value : Json) : Option RootReviewHandle :=
  match value.get? "agent_session", value.get? "agent_pane", value.get? "agent_pane_pid",
    value.get? "request_sha256", value.get? "transcript_device", value.get? "transcript_inode",
    value.get? "transcript_offset" with
  | some (.str session), some (.str pane), some (.int pid), some (.str sha), some (.int device),
      some (.int inode), some (.int offset) =>
    if isAgentSlug session ∧ isPane pane ∧ 0 < pid ∧ isDigest sha ∧ 0 ≤ device ∧ 0 ≤ inode ∧
        0 ≤ offset then
      some ⟨session, pane, pid, sha, device, inode, offset⟩
    else none
  | _, _, _, _, _, _, _ => none

def expectedKeys : List String := [
  "agent_pane", "agent_pane_pid", "agent_session", "request_sha256", "schema",
  "transcript_device", "transcript_inode", "transcript_offset"]

section handles

variable [FloatData]

/-- `json.loads(payload.decode("utf-8"))`, with at most `limit` open containers. -/
def loadHandle (limit : Nat) (payload : List UInt8) : Except HandleError Scanned :=
  match decodeUtf8? payload with
  | none => .error .invalid
  | some text =>
    match scan false limit text with
    | .ok value => .ok value
    | .error .recursion => .error .recursion
    | .error _ => .error .invalid

/-- `RootReviewHandle.decode` -/
def RootReviewHandle.decode (limit : Nat) (raw : List Char) :
    Except HandleError RootReviewHandle := do
  let (body, expectedDigest) ← orRaise (splitHandle raw) .invalid
  let payload ← orRaise (Base64.decode (body ++ Base64.padding body.length)) .invalid
  let scanned ← loadHandle limit payload
  require (hexdigest payload = expectedDigest) .invalid
  let value ← orRaise scanned.toJson? .surrogate
  require (value.isObject ∧ value.keys = expectedKeys ∧
    value.get? "schema" = some (.str handleSchema) ∧ payload = canonicalJson value) .invalid
  orRaise (handleOf value) .invalid

/-- The fields of the handle satisfy the checks of `decode`. -/
def RootReviewHandle.Valid (h : RootReviewHandle) : Prop :=
  isAgentSlug h.agentSession = true ∧ isPane h.agentPane = true ∧ 0 < h.agentPanePid ∧
    isDigest h.requestSha256 = true ∧ 0 ≤ h.transcriptDevice ∧ 0 ≤ h.transcriptInode ∧
    0 ≤ h.transcriptOffset

/-- The base64 of the text has no stray bits. -/
def CleanHandle (raw : List Char) : Prop :=
  Base64.Clean ((raw.drop 4).takeWhile (Base64.alphabet.contains ·))

end handles

/-! ## The text of a handle -/

lemma splitHandle_eq_some_iff {raw body digest : List Char} :
    splitHandle raw = some (body, digest) ↔
      raw = "rr1.".toList ++ body ++ '.' :: digest ∧ body ≠ [] ∧
        (∀ c ∈ body, c ∈ Base64.alphabet) ∧ digest.length = 64 ∧
        digest.all isHexDigit = true := by
  have hcontains : ∀ {c}, Base64.alphabet.contains c = true ↔ c ∈ Base64.alphabet :=
    List.contains_iff_mem
  constructor
  · intro h
    unfold splitHandle at h
    dsimp only at h
    split_ifs at h with hraw
    cases h
    exact ⟨hraw.1, hraw.2.1, fun c hc => hcontains.mp (List.mem_takeWhile_imp hc), hraw.2.2⟩
  · rintro ⟨rfl, hne, halphabet, hlength, hhex⟩
    have htake : ("rr1.".toList ++ body ++ '.' :: digest).drop 4 = body ++ '.' :: digest := by
      rw [List.append_assoc]
      exact List.drop_left' (by decide)
    have hbody : (body ++ '.' :: digest).takeWhile (Base64.alphabet.contains ·) = body := by
      rw [List.takeWhile_append_of_pos fun c hc => hcontains.mpr (halphabet c hc),
        List.takeWhile_cons_of_neg (by decide), List.append_nil]
    unfold splitHandle
    dsimp only
    rw [htake, hbody, List.drop_append, List.drop_of_length_le (by omega), List.nil_append,
      show body.length + 1 - body.length = 1 by omega, List.drop_one, List.tail_cons]
    exact if_pos ⟨rfl, hne, hlength, hhex⟩

lemma cleanHandle_iff {raw body digest : List Char} (h : splitHandle raw = some (body, digest)) :
    CleanHandle raw ↔ Base64.Clean body := by
  unfold splitHandle at h
  dsimp only at h
  split_ifs at h
  cases h
  exact Iff.rfl

lemma encode_ok_iff {h : RootReviewHandle} {raw : List Char} :
    h.encode = .ok raw ↔ h.Fits ∧ raw = "rr1.".toList ++ Base64.body (canonicalJson h.toJson) ++
      '.' :: hexdigest (canonicalJson h.toJson) := by
  unfold RootReviewHandle.encode
  simp only [except_bind_ok, require_ok, exists_const, Base64.rdropWhile_encode]
  exact and_congr_right fun _ => except_pure_ok.trans eq_comm

section handles

variable [FloatData]

lemma canonical_toJson_iff {h : RootReviewHandle} : h.toJson.Canonical ↔ h.Fits := by
  constructor
  · intro hcanonical
    obtain ⟨-, -, -, hpid, -, -, -, -, -, -, -, hdevice, -, hinode, -, hoffset, -⟩ := hcanonical
    exact ⟨hpid, hdevice, hinode, hoffset⟩
  · rintro ⟨hpid, hdevice, hinode, hoffset⟩
    refine canonicalFields_of_keys (show expectedKeys.Pairwise (· < ·) by decide) ?_
    simp only [List.forall_mem_cons]
    exact ⟨trivial, hpid, trivial, trivial, trivial, hdevice, hinode, hoffset,
      fun _ h => absurd h List.not_mem_nil⟩

omit [FloatData] in
/-- The value that was checked is the object of the handle. -/
lemma handleOf_eq_some {value : Json} {h : RootReviewHandle} (hobject : value.isObject = true)
    (hkeys : value.keys = expectedKeys)
    (hschema : value.get? "schema" = some (.str handleSchema)) (h' : handleOf value = some h) :
    value = h.toJson ∧ h.Valid := by
  have hvalue := Json.eq_obj_of_keys hobject hkeys (by decide)
  unfold handleOf at h'
  split at h'
  case h_1 session pane pid sha device inode offset hsession hpane hpid hsha hdevice hinode
      hoffset =>
    split_ifs at h' with hvalid
    cases h'
    refine ⟨?_, hvalid⟩
    rw [hvalue]
    unfold expectedKeys Json.field
    simp only [List.map_cons, List.map_nil, hsession, hpane, hpid, hsha, hdevice, hinode, hoffset,
      hschema, Option.getD_some]
    rfl
  case h_2 => exact nomatch h'

omit [FloatData] in
lemma handleOf_toJson {h : RootReviewHandle} (hvalid : h.Valid) : handleOf h.toJson = some h := by
  exact if_pos hvalid

/-- What an accepted text is made of. -/
lemma decode_ok {limit : Nat} {raw : List Char} {h : RootReviewHandle}
    (hok : RootReviewHandle.decode limit raw = .ok h) :
    h.Valid ∧ h.Fits ∧ ∃ body, splitHandle raw = some (body, hexdigest (canonicalJson h.toJson)) ∧
      Base64.decode (body ++ Base64.padding body.length) = some (canonicalJson h.toJson) := by
  unfold RootReviewHandle.decode at hok
  obtain ⟨⟨body, digest⟩, hsplit, hok⟩ := except_bind_ok.mp hok
  obtain ⟨payload, hpayload, hok⟩ := except_bind_ok.mp hok
  obtain ⟨scanned, hscanned, hok⟩ := except_bind_ok.mp hok
  obtain ⟨_, hdigest, hok⟩ := except_bind_ok.mp hok
  obtain ⟨value, hvalue, hok⟩ := except_bind_ok.mp hok
  obtain ⟨_, hchecks, hok⟩ := except_bind_ok.mp hok
  obtain ⟨hobject, hkeys, hschema, hcanonical⟩ := require_ok.mp hchecks
  obtain ⟨rfl, hvalid⟩ := handleOf_eq_some hobject hkeys hschema (orRaise_ok.mp hok)
  have hdigest := require_ok.mp hdigest
  subst hdigest hcanonical
  have hbounded : scanned.Bounded := by
    unfold loadHandle at hscanned
    split at hscanned
    · exact nomatch hscanned
    · split at hscanned
      · next hscan =>
          cases hscanned
          exact bounded_of_scan hscan
      · exact nomatch hscanned
      · exact nomatch hscanned
  exact ⟨hvalid, canonical_toJson_iff.mp (canonical_of_toJson? hbounded (orRaise_ok.mp hvalue)),
    body, orRaise_ok.mp hsplit, orRaise_ok.mp hpayload⟩

/-- Any base64 of the canonical JSON of a handle that can be written is accepted. -/
lemma decode_of_body {limit : Nat} (hlimit : 0 < limit) {h : RootReviewHandle} {body : List Char}
    (hvalid : h.Valid) (hfits : h.Fits) (halphabet : ∀ c ∈ body, c ∈ Base64.alphabet)
    (hbytes : Base64.decode (body ++ Base64.padding body.length) =
      some (canonicalJson h.toJson)) :
    RootReviewHandle.decode limit
      ("rr1.".toList ++ body ++ '.' :: hexdigest (canonicalJson h.toJson)) = .ok h := by
  set payload := canonicalJson h.toJson with hpayload
  have hsplit : splitHandle ("rr1.".toList ++ body ++ '.' :: hexdigest payload) =
      some (body, hexdigest payload) := by
    refine splitHandle_eq_some_iff.mpr
      ⟨rfl, fun hnil => ?_, halphabet, length_hexdigest _, hexdigest_all _⟩
    rw [hnil] at hbytes
    have hempty : payload = [] := (Option.some.inj hbytes).symm
    have happend : payload = utf8 h.toJson.dumps ++ utf8 ['\n'] := utf8_append _ _
    rw [happend] at hempty
    exact absurd (List.append_eq_nil_iff.mp hempty).2 (by decide)
  have hload : loadHandle limit payload = .ok h.toJson.scanned := by
    have hnesting : h.toJson.nesting ≤ limit := by
      refine le_trans ?_ hlimit
      exact le_of_eq (by rfl)
    have hblank : IsBlank ['\n'] := rfl
    have hscan := scan_dumps (canonical_toJson_iff.mpr hfits) false limit hblank
    rw [if_pos hnesting] at hscan
    unfold loadHandle
    rw [hpayload, canonicalJson, decodeUtf8?_utf8]
    dsimp only
    rw [hscan]
  have hkeys : h.toJson.isObject = true ∧ h.toJson.keys = expectedKeys ∧
      h.toJson.get? "schema" = some (.str handleSchema) ∧ payload = canonicalJson h.toJson :=
    ⟨rfl, rfl, rfl, hpayload⟩
  unfold RootReviewHandle.decode
  refine except_bind_ok.mpr ⟨_, orRaise_ok.mpr hsplit, ?_⟩
  refine except_bind_ok.mpr ⟨payload, orRaise_ok.mpr hbytes, ?_⟩
  refine except_bind_ok.mpr ⟨_, hload, ?_⟩
  refine except_bind_ok.mpr ⟨(), require_of rfl, ?_⟩
  refine except_bind_ok.mpr
    ⟨_, orRaise_ok.mpr (toJson?_scanned (canonical_toJson_iff.mpr hfits)), ?_⟩
  exact except_bind_ok.mpr
    ⟨(), require_of hkeys, orRaise_ok.mpr (handleOf_toJson hvalid)⟩

/-- What is written for a handle is accepted. -/
lemma decode_encode {limit : Nat} (hlimit : 0 < limit) {h : RootReviewHandle} {raw : List Char}
    (hvalid : h.Valid) (hraw : h.encode = .ok raw) : RootReviewHandle.decode limit raw = .ok h := by
  obtain ⟨hfits, rfl⟩ := encode_ok_iff.mp hraw
  exact decode_of_body hlimit hvalid hfits (fun c hc => Base64.mem_alphabet_of_mem_body hc)
    (Base64.decode_body _)

/-- A handle is read back from its text exactly if its integers can be written, and the handle that
a text is read as has that text exactly if the text has no stray bits. -/
theorem handle_round_trip {limit : Nat} (hlimit : 0 < limit) :
    (∀ h : RootReviewHandle, h.Valid →
      ((h.encode >>= RootReviewHandle.decode limit) = .ok h ↔ h.Fits)) ∧
    (∀ raw h, RootReviewHandle.decode limit raw = .ok h →
      (h.encode = .ok raw ↔ CleanHandle raw)) ∧
    ∀ raw raw' h, RootReviewHandle.decode limit raw = .ok h →
      RootReviewHandle.decode limit raw' = .ok h → CleanHandle raw → CleanHandle raw' →
      raw = raw' := by
  have hback : ∀ raw h, RootReviewHandle.decode limit raw = .ok h →
      (h.encode = .ok raw ↔ CleanHandle raw) := by
    intro raw h hok
    obtain ⟨-, hfits, body, hsplit, hbytes⟩ := decode_ok hok
    obtain ⟨hraw, -, halphabet, -, -⟩ := splitHandle_eq_some_iff.mp hsplit
    rw [cleanHandle_iff hsplit, ← Base64.body_eq_iff halphabet hbytes, encode_ok_iff,
      and_iff_right hfits, hraw]
    constructor
    · intro heq
      exact (List.append_cancel_left (List.append_cancel_right heq)).symm
    · intro heq
      rw [heq]
  refine ⟨fun h hvalid => ⟨fun hok => ?_, fun hfits => ?_⟩, hback,
    fun raw raw' h hok hok' hclean hclean' => ?_⟩
  · obtain ⟨raw, hraw, -⟩ := except_bind_ok.mp hok
    exact (encode_ok_iff.mp hraw).1
  · obtain ⟨raw, hraw⟩ : ∃ raw, h.encode = .ok raw := ⟨_, encode_ok_iff.mpr ⟨hfits, rfl⟩⟩
    exact except_bind_ok.mpr ⟨raw, hraw, decode_encode hlimit hvalid hraw⟩
  · have hraw := (hback raw h hok).mpr hclean
    rw [(hback raw' h hok').mpr hclean'] at hraw
    exact (Except.ok.inj hraw).symm

/-- Every handle is read back from its text, and every text is the text of the handle that it is
read as. -/
def HandlesCanonical (limit : Nat) : Prop :=
  (∀ h : RootReviewHandle, h.Valid → (h.encode >>= RootReviewHandle.decode limit) = .ok h) ∧
    ∀ raw h, RootReviewHandle.decode limit raw = .ok h → h.encode = .ok raw

end handles

/-! ## A text with stray bits -/

def sampleHandle : RootReviewHandle where
  agentSession := "a"
  agentPane := "%0"
  agentPanePid := 7
  requestSha256 := "sha256:0000000000000000000000000000000000000000000000000000000000000000"
  transcriptDevice := 1
  transcriptInode := 2
  transcriptOffset := 0

/-- The base64 of the handle, with `h` for `g` at its end. -/
def strayBody : List Char := (Base64.body (canonicalJson sampleHandle.toJson)).dropLast ++ ['h']

/-- The text with the other last character is accepted too. -/
theorem stray_text_accepted : ¬ @HandlesCanonical FloatData.zero 1 := by
  rintro ⟨-, hcanonical⟩
  have halphabet : ∀ c ∈ strayBody, c ∈ Base64.alphabet := by
    intro c hc
    rcases List.mem_append.mp hc with hc | hc
    · exact Base64.mem_alphabet_of_mem_body (List.mem_of_mem_dropLast hc)
    · rw [List.mem_singleton.mp hc]
      decide
  have hbytes : Base64.decode (strayBody ++ Base64.padding strayBody.length) =
      some (canonicalJson sampleHandle.toJson) := by decide +kernel
  have hread := @decode_of_body FloatData.zero 1 Nat.one_pos sampleHandle strayBody
    (by unfold RootReviewHandle.Valid; decide) (by decide) halphabet hbytes
  have hwritten := (encode_ok_iff.mp (hcanonical _ _ hread)).2
  have hbody : strayBody = Base64.body (canonicalJson sampleHandle.toJson) :=
    List.append_cancel_left (List.append_cancel_right hwritten)
  exact absurd hbody (by decide +kernel)

/-- One open container is enough. -/
theorem handle_round_trip_one :
    0 < 1 ∧ (∀ h : RootReviewHandle, h.Valid →
      ((h.encode >>= @RootReviewHandle.decode FloatData.zero 1) = .ok h ↔ h.Fits)) ∧
    (∀ raw h, @RootReviewHandle.decode FloatData.zero 1 raw = .ok h →
      (h.encode = .ok raw ↔ CleanHandle raw)) ∧
    ∀ raw raw' h, @RootReviewHandle.decode FloatData.zero 1 raw = .ok h →
      @RootReviewHandle.decode FloatData.zero 1 raw' = .ok h → CleanHandle raw →
      CleanHandle raw' → raw = raw' :=
  ⟨Nat.one_pos, @handle_round_trip FloatData.zero 1 Nat.one_pos⟩

end AgentRuntimeOps.RootReview
