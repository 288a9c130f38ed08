import Mathlib
import AgentRuntimeOps.Lib.Sha256
import AgentRuntimeOps.Lib.Calendar
import AgentRuntimeOps.Lib.Checks
import AgentRuntimeOps.Lib.Json

/-!
# Exceptions and the text formats of root actions

Every module of `root_actions` restates the same three regular expressions: safe identifiers,
`sha256:` digests and RFC 3339 UTC timestamps.  They are modelled once here, together with the
exception classes the modules raise.

Strings are compared as the source compares them: by code points, from the left.
-/

namespace AgentRuntimeOps.RootActions

open AgentRuntimeOps.Lib

/-! ## Exceptions -/

/-- The exception classes that the root-action modules raise or tell apart. -/
inductive ExnClass where
  | stateTransitionError
  | replayBlocked
  | staleRevision
  | assertionError
  | storageConflict
  | storageNotFound
  | manifestValidationError
  | registryValidationError
  | receiptValidationError
  | observationValidationError
  | projectionError
  | publicProjectionError
  | brokerContractError
  | submissionRejected
  | rootActionWorkerError
  | rootActionListenerError
  | webAuthnAuthorizationError
  | brokerProtocolError
  | valueError
  | unicodeEncodeError
  | typeError
  | recursionError
  | keyError
  | overflowError
  | operationalError
  /-- A class from outside these modules, by its name: a handler, a publisher, a verifier. -/
  | other (name : String)
  deriving DecidableEq, Repr

/-- `type(exc).__name__`. -/
def ExnClass.name : ExnClass → String
  | stateTransitionError => "StateTransitionError"
  | replayBlocked => "ReplayBlocked"
  | staleRevision => "StaleRevision"
  | assertionError => "AssertionError"
  | storageConflict => "StorageConflict"
  | storageNotFound => "StorageNotFound"
  | manifestValidationError => "ManifestValidationError"
  | registryValidationError => "RegistryValidationError"
  | receiptValidationError => "ReceiptValidationError"
  | observationValidationError => "ObservationValidationError"
  | projectionError => "ProjectionError"
  | publicProjectionError => "PublicProjectionError"
  | brokerContractError => "BrokerContractError"
  | submissionRejected => "SubmissionRejected"
  | rootActionWorkerError => "RootActionWorkerError"
  | rootActionListenerError => "RootActionListenerError"
  | webAuthnAuthorizationError => "WebAuthnAuthorizationError"
  | brokerProtocolError => "BrokerProtocolError"
  | unicodeEncodeError => "UnicodeEncodeError"
  | typeError => "TypeError"
  | recursionError => "RecursionError"
  | valueError => "ValueError"
  | keyError => "KeyError"
  | overflowError => "OverflowError"
  | operationalError => "OperationalError"
  | other name => name

/-- An exception: its class and its message. -/
structure Exn where
  cls : ExnClass
  message : String
  deriving DecidableEq, Repr

namespace Exn

/-- `isinstance(exc, ValueError)`, for the classes whose bases are known. -/
def isValueError (e : Exn) : Bool :=
  match e.cls with
  | .stateTransitionError | .replayBlocked | .staleRevision | .manifestValidationError
  | .registryValidationError | .receiptValidationError | .observationValidationError
  | .projectionError | .brokerContractError | .submissionRejected | .webAuthnAuthorizationError
  | .brokerProtocolError | .valueError | .unicodeEncodeError => true
  | _ => false

/-- `isinstance(exc, KeyError)`. -/
def isKeyError (e : Exn) : Bool :=
  match e.cls with
  | .storageNotFound | .keyError => true
  | _ => false

def stateTransitionError (message : String) : Exn := ⟨.stateTransitionError, message⟩
def replayBlocked (message : String) : Exn := ⟨.replayBlocked, message⟩
def staleRevision (message : String) : Exn := ⟨.staleRevision, message⟩
def storageConflict (message : String) : Exn := ⟨.storageConflict, message⟩
def storageNotFound (message : String) : Exn := ⟨.storageNotFound, message⟩
def manifestValidationError (message : String) : Exn := ⟨.manifestValidationError, message⟩
def registryValidationError (message : String) : Exn := ⟨.registryValidationError, message⟩
def receiptValidationError (message : String) : Exn := ⟨.receiptValidationError, message⟩
def observationValidationError (message : String) : Exn := ⟨.observationValidationError, message⟩
def projectionError (message : String) : Exn := ⟨.projectionError, message⟩
def publicProjectionError (message : String) : Exn := ⟨.publicProjectionError, message⟩
def brokerContractError (message : String) : Exn := ⟨.brokerContractError, message⟩
def submissionRejected (message : String) : Exn := ⟨.submissionRejected, message⟩
def rootActionWorkerError (message : String) : Exn := ⟨.rootActionWorkerError, message⟩
def webAuthnAuthorizationError (message : String) : Exn := ⟨.webAuthnAuthorizationError, message⟩
def brokerProtocolError (message : String) : Exn := ⟨.brokerProtocolError, message⟩
def valueError (message : String) : Exn := ⟨.valueError, message⟩
def typeError (message : String) : Exn := ⟨.typeError, message⟩

/-- The stack has no room for a further container of a JSON value. -/
def recursionError : Exn := ⟨.recursionError, "maximum recursion depth exceeded"⟩

/-- A text with a lone surrogate has no UTF-8 encoding. -/
def unicodeEncodeError : Exn := ⟨.unicodeEncodeError, "surrogates not allowed"⟩

end Exn

/-! ## Identifiers and digests -/

/-- A character of `[a-z0-9]`. -/
def isLowerAlnum (c : Char) : Bool := c.isLower || c.isDigit

/-- A character of `[a-z0-9._:-]`. -/
def isIdChar (c : Char) : Bool := isLowerAlnum c || c == '.' || c == '_' || c == ':' || c == '-'

/-- `_SAFE_ID_RE.fullmatch`: `[a-z0-9][a-z0-9._:-]{0,127}`. -/
def isSafeId (s : String) : Bool :=
  match s.toList with
  | [] => false
  | c :: rest => isLowerAlnum c && rest.all isIdChar && decide (rest.length ≤ 127)

/-- `_DIGEST_RE.fullmatch`: `sha256:[0-9a-f]{64}`. -/
def isDigest (s : String) : Bool :=
  s.toList.take 7 == "sha256:".toList && (s.toList.drop 7).all isHexDigit &&
    decide (s.toList.length = 71)

/-- The digest text of a message: `"sha256:" + hashlib.sha256(message).hexdigest()`. -/
def sha256Digest (message : List UInt8) : String :=
  String.ofList ("sha256:".toList ++ hexdigest message)

lemma isDigest_sha256Digest (message : List UInt8) : isDigest (sha256Digest message) = true := by
  have hlen := length_hexdigest message
  have hall := hexdigest_all message
  unfold isDigest sha256Digest
  rw [String.toList_ofList]
  have htake : ("sha256:".toList ++ hexdigest message).take 7 = "sha256:".toList := by
    rw [List.take_append_of_le_length (by decide)]
    decide
  have hdrop : ("sha256:".toList ++ hexdigest message).drop 7 = hexdigest message :=
    List.drop_left' (by decide)
  have hlength : ("sha256:".toList ++ hexdigest message).length = 71 := by
    rw [List.length_append, hlen]
    decide
  rw [htake, hdrop, hall, hlength]
  decide

/-- A domain-separated message: an ASCII tag, a zero byte and a payload. -/
def tagged (tag : String) (payload : List UInt8) : List UInt8 :=
  utf8 tag.toList ++ 0 :: payload

lemma isSafeId_ne_empty {s : String} (h : isSafeId s = true) : s ≠ "" := by
  rintro rfl
  exact absurd h (by decide)

/-! ## Public texts

`contracts.py` and `receipts.py` check texts with the same functions, each raising its own
exception class; here the exception is a parameter. -/

/-- What `unicodedata` says about texts outside ASCII. -/
class UnicodeData where
  /-- `unicodedata.normalize("NFC", text) == text`. -/
  isNFC : String → Bool
  /-- The category of the character starts with `C`, or is `Zl` or `Zp`. -/
  isControl : Char → Bool

/-- `unicodedata.normalize("NFC", text) == text`; ASCII text is normalized. -/
def isNormalized [UnicodeData] (s : String) : Bool :=
  s.toList.all (fun c => decide (c.toNat < 0x80)) || UnicodeData.isNFC s

/-- The category of the character starts with `C`, or is `Zl` or `Zp`. -/
def isControlChar [UnicodeData] (c : Char) : Bool :=
  if c.toNat < 0x80 then decide (c.toNat < 0x20) || c.toNat == 0x7f else UnicodeData.isControl c

/-- `_safe_text`: a bounded, normalized text without control characters. -/
def safeTextWith [UnicodeData] (exn : String → Exn) (value : Json) (field : String)
    (maximum : Nat) : Except Exn String := do
  let text ← orRaise value.text? (exn (field ++ " must be a bounded non-empty string"))
  require (text ≠ "" ∧ (utf8 text.toList).length ≤ maximum)
    (exn (field ++ " must be a bounded non-empty string"))
  require (isNormalized text) (exn (field ++ " must use NFC-normalized Unicode"))
  require (text.toList.any isControlChar = false) (exn (field ++ " contains a control character"))
  return text

/-- `_safe_id`. -/
def safeIdWith [UnicodeData] (exn : String → Exn) (value : Json) (field : String) :
    Except Exn String := do
  let text ← safeTextWith exn value field 128
  require (isSafeId text) (exn (field ++ " must be a safe identifier"))
  return text

/-- What a membership test in a set needs of the value: lists and dictionaries have no hash. -/
def requireHashable : Json → Except Exn Unit
  | .arr _ => .error (Exn.typeError "unhashable type: 'list'")
  | .obj _ => .error (Exn.typeError "unhashable type: 'dict'")
  | _ => .ok ()

/-! ## Timestamps -/

/-- `_TIMESTAMP_RE.fullmatch`: an RFC 3339 UTC timestamp of a year `20..`, with the fields in range
each for itself. -/
def isTimestamp (s : String) : Bool :=
  match s.toList with
  | [a, b, y₁, y₂, s₁, m₁, m₂, s₂, d₁, d₂, t, h₁, h₂, s₃, i₁, i₂, s₄, c₁, c₂, z] =>
    a == '2' && b == '0' && y₁.isDigit && y₂.isDigit && s₁ == '-' &&
      ((m₁ == '0' && '1' ≤ m₂ && m₂ ≤ '9') || (m₁ == '1' && '0' ≤ m₂ && m₂ ≤ '2')) && s₂ == '-' &&
      ((d₁ == '0' && '1' ≤ d₂ && d₂ ≤ '9') || ((d₁ == '1' || d₁ == '2') && d₂.isDigit) ||
        (d₁ == '3' && (d₂ == '0' || d₂ == '1'))) && t == 'T' &&
      (((h₁ == '0' || h₁ == '1') && h₂.isDigit) || (h₁ == '2' && '0' ≤ h₂ && h₂ ≤ '3')) &&
      s₃ == ':' && ('0' ≤ i₁ && i₁ ≤ '5' && i₂.isDigit) && s₄ == ':' &&
      ('0' ≤ c₁ && c₁ ≤ '5' && c₂.isDigit) && z == 'Z'
  | _ => false

/-- A timestamp that matches the regular expression and names a real date. -/
def isRealTimestamp (s : String) : Bool := isTimestamp s && (DateTime.strptime s).isSome

/-- The year of a timestamp that matches the regular expression is at least 2000. -/
lemma year_of_isTimestamp {s : String} {t : DateTime} (h : isTimestamp s = true)
    (ht : DateTime.strptime s = some t) : 2000 ≤ t.year := by
  obtain ⟨rest, hyear⟩ := DateTime.year_of_strptime ht
  unfold isTimestamp at h
  split at h
  · next a b y₁ y₂ s₁ m₁ m₂ s₂ d₁ d₂ t' h₁ h₂ s₃ i₁ i₂ s₄ c₁ c₂ z heq =>
    rw [heq] at hyear
    simp only [Bool.and_eq_true, beq_iff_eq] at h
    have ha : a = '2' := by tauto
    simp only [DateTime.readYear] at hyear
    split_ifs at hyear
    obtain ⟨hyear, -⟩ := Prod.mk.inj (Option.some.inj hyear)
    have htwo : DateTime.digitValue '2' = 2 := by decide
    rw [ha, htwo] at hyear
    omega
  · exact absurd h (by decide)

/-- The seconds of the calendar before the year 2000: no window that ends later reaches back
further than this. -/
def longestWindow : Nat := 63082281600

/-- A point in time of a year from 2000 on. -/
lemma toSeconds_of_year {t : DateTime} (h : 2000 ≤ t.year) : longestWindow ≤ t.toSeconds := by
  have hdays : 730119 ≤ DateTime.daysBeforeYear t.year := by
    unfold DateTime.daysBeforeYear
    omega
  unfold longestWindow
  unfold DateTime.toSeconds
  omega

/-- `(strptime(value) - timedelta(seconds=seconds)).strftime(…)`; `none` where the value is not a
timestamp, and an `OverflowError` where the result lies before the calendar. -/
def secondsBefore (value : String) (seconds : Nat) : Except Exn String :=
  match DateTime.strptime value with
  | none => .error (Exn.valueError "time data does not match format")
  | some t =>
    if seconds ≤ t.toSeconds then .ok (DateTime.ofSeconds (t.toSeconds - seconds)).strftime
    else .error ⟨.overflowError, "date value out of range"⟩

/-- `(strptime(value) + timedelta(seconds=seconds)).strftime(…)`. -/
def secondsAfter (value : String) (seconds : Nat) : Except Exn String :=
  match DateTime.strptime value with
  | none => .error (Exn.valueError "time data does not match format")
  | some t =>
    if t.toSeconds + seconds < DateTime.toSeconds ⟨10000, 1, 1, 0, 0, 0⟩ then
      .ok (DateTime.ofSeconds (t.toSeconds + seconds)).strftime
    else .error ⟨.overflowError, "date value out of range"⟩

/-- `_timestamp` and `_safe_timestamp`. -/
def timestampWith [UnicodeData] (exn : String → Exn) (value : Json) (field : String) :
    Except Exn String := do
  let text ← safeTextWith exn value field 20
  require (isTimestamp text) (exn (field ++ " must be an RFC3339 UTC second timestamp"))
  require ((DateTime.strptime text).isSome)
    (exn (field ++ " must be a real RFC3339 UTC second timestamp"))
  return text

lemma secondsBefore_ok {value : String} {seconds : Nat} (h : isRealTimestamp value = true)
    (hs : seconds ≤ longestWindow) : ∃ cutoff, secondsBefore value seconds = .ok cutoff := by
  unfold isRealTimestamp at h
  rw [Bool.and_eq_true, Option.isSome_iff_exists] at h
  obtain ⟨hre, t, ht⟩ := h
  have hyear := toSeconds_of_year (year_of_isTimestamp hre ht)
  refine ⟨(DateTime.ofSeconds (t.toSeconds - seconds)).strftime, ?_⟩
  unfold secondsBefore
  rw [ht]
  exact if_pos (by omega)

/-! ## Which texts pass -/

/-- A character of a safe identifier or a timestamp: printable ASCII. -/
def isPrintableAscii (c : Char) : Bool := decide (0x20 ≤ c.toNat ∧ c.toNat < 0x7f)

lemma utf8_length_of_printable {text : List Char} (h : text.all isPrintableAscii = true) :
    (utf8 text).length = text.length := by
  refine length_utf8_of_ascii fun c hc => ?_
  have hprintable := of_decide_eq_true (List.all_eq_true.mp h c hc)
  omega

/-- A short text of printable ASCII characters is safe. -/
lemma safeTextWith_ok [UnicodeData] {exn : String → Exn} {s field : String} {maximum : Nat}
    (hne : s ≠ "") (hascii : s.toList.all isPrintableAscii = true)
    (hlen : s.toList.length ≤ maximum) : safeTextWith exn (.str s) field maximum = .ok s := by
  have hbytes := utf8_length_of_printable hascii
  rw [List.all_eq_true] at hascii
  have hnorm : isNormalized s = true := by
    unfold isNormalized
    rw [Bool.or_eq_true]
    left
    rw [List.all_eq_true]
    intro c hc
    have hlt := of_decide_eq_true (hascii c hc)
    exact decide_eq_true (by omega)
  have hcontrol : s.toList.any isControlChar = false := by
    rw [List.any_eq_false]
    intro c hc
    have hlt := of_decide_eq_true (hascii c hc)
    unfold isControlChar
    rw [if_pos (by omega)]
    simp
    omega
  unfold safeTextWith
  simp only [except_bind_ok, require_ok, exists_const, orRaise_ok, except_pure_ok]
  exact ⟨s, rfl, ⟨hne, by omega⟩, hnorm, hcontrol, rfl⟩

lemma isPrintableAscii_of_isIdChar {c : Char} (h : isIdChar c = true) :
    isPrintableAscii c = true := by
  unfold isIdChar isLowerAlnum at h
  simp only [Bool.or_eq_true, beq_iff_eq] at h
  unfold isPrintableAscii
  apply decide_eq_true
  rcases h with (((((h | h) | rfl) | rfl) | rfl) | rfl)
  · simp only [Char.isLower, Bool.and_eq_true, decide_eq_true_eq, ge_iff_le,
      UInt32.le_iff_toNat_le] at h
    have h₁ : 97 ≤ c.toNat := h.1
    have h₂ : c.toNat ≤ 122 := h.2
    omega
  · simp only [Char.isDigit, Bool.and_eq_true, decide_eq_true_eq, ge_iff_le,
      UInt32.le_iff_toNat_le] at h
    have h₁ : 48 ≤ c.toNat := h.1
    have h₂ : c.toNat ≤ 57 := h.2
    omega
  · decide
  · decide
  · decide
  · decide

/-- What a safe identifier consists of. -/
lemma isSafeId_chars {s : String} (h : isSafeId s = true) :
    s.toList.all isIdChar = true ∧ s.toList.length ≤ 128 := by
  unfold isSafeId at h
  split at h
  · cases h
  · next c rest heq =>
    rw [heq]
    simp only [Bool.and_eq_true, decide_eq_true_eq] at h
    obtain ⟨⟨hc, hrest⟩, hlen⟩ := h
    refine ⟨?_, by rw [List.length_cons]; omega⟩
    rw [List.all_cons, Bool.and_eq_true]
    refine ⟨?_, hrest⟩
    unfold isIdChar
    simp [hc]

lemma isSafeId_printable {s : String} (h : isSafeId s = true) :
    s.toList.all isPrintableAscii = true := by
  have hchars := (isSafeId_chars h).1
  rw [List.all_eq_true] at hchars ⊢
  intro c hc
  exact isPrintableAscii_of_isIdChar (hchars c hc)

/-- `_safe_id` accepts exactly the safe identifiers. -/
lemma safeIdWith_ok [UnicodeData] {exn : String → Exn} {s s' field : String} :
    safeIdWith exn (.str s) field = .ok s' ↔ isSafeId s = true ∧ s = s' := by
  unfold safeIdWith
  simp only [except_bind_ok, require_ok, exists_const, except_pure_ok]
  constructor
  · rintro ⟨text, htext, hsafe, rfl⟩
    unfold safeTextWith at htext
    simp only [except_bind_ok, require_ok, exists_const, orRaise_ok, except_pure_ok] at htext
    obtain ⟨t, ht, -, -, -, rfl⟩ := htext
    cases ht
    exact ⟨hsafe, rfl⟩
  · rintro ⟨hsafe, rfl⟩
    have hlen := (isSafeId_chars hsafe).2
    exact ⟨s, safeTextWith_ok (isSafeId_ne_empty hsafe) (isSafeId_printable hsafe) hlen, hsafe, rfl⟩

end AgentRuntimeOps.RootActions
