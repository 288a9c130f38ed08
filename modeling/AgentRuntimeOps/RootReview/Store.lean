import AgentRuntimeOps.Lib.Crash
import AgentRuntimeOps.Lib.Sha256
import AgentRuntimeOps.RootReview.Card

/-!
# The calls on the request file

`RootReviewStore`: `publish`, `wait` and `resolve`.  Each call reads the request file and the
transcript, and `publish` and `resolve` replace the request file if it is still the one that was
read.

A handle is given as what `RootReviewHandle.decode` makes of its text, `none` where that raises.
-/

namespace AgentRuntimeOps.RootReview

open AgentRuntimeOps.Lib

/-! ## What is read -/

/-- `_sha256` -/
def digest (raw : List UInt8) : List Char := hexdigest raw

/-- `FileIdentity` -/
structure FileIdentity where
  device : Nat
  inode : Nat
  size : Nat
  deriving DecidableEq, Repr

/-- `RootReviewAssignment`, but for the paths. -/
structure Assignment where
  agentSession : String
  agentPane : String
  agentPanePid : Nat
  deriving DecidableEq, Repr

/-- `RootReviewHandle` -/
structure Handle where
  agentSession : String
  agentPane : String
  agentPanePid : Nat
  requestSha256 : List Char
  transcriptDevice : Nat
  transcriptInode : Nat
  transcriptOffset : Nat
  deriving DecidableEq, Repr

/-- The request file: its text, and the offset in the handle of the card that it is. -/
structure Stored where
  inode : Nat
  text : List UInt8
  offset : Option Nat
  deriving DecidableEq, Repr

/-- A replacement of the request file: the new text with the offset in the handle of the card that
it is, what the last check read, and the handle of the call. -/
structure Replacement where
  text : List UInt8
  offset : Option Nat
  checked : List UInt8 × FileIdentity
  handle : Option Handle

/-! ## Operations -/

/-- The steps the calls are made of. -/
inductive Op where
  /-- `_discover_assignment` -/
  | discover
  /-- `_read_request` -/
  | readRequest
  /-- `_transcript_identity` -/
  | statTranscript
  /-- `_read_transcript_append`, from this offset of the transcript with this identity. -/
  | readAppend (offset : Nat) (expected : FileIdentity)
  /-- Whether time remains, in `wait`. -/
  | remaining
  | sleep
  /-- The random bytes of `secrets.token_hex(16)`. -/
  | tokenHex
  /-- The temporary file, written and synchronised. -/
  | writeTemporary (text : List UInt8)
  /-- `os.replace` -/
  | replace (replacement : Replacement)
  /-- `os.fsync` of the directory. -/
  | syncDirectory

/-- What an operation answers. -/
@[reducible] def Op.Res : Op → Type
  | .discover => Assignment
  | .readRequest => List UInt8 × FileIdentity
  | .statTranscript => FileIdentity
  | .readAppend .. => List UInt8
  | .remaining => Bool
  | .sleep => Unit
  | .tokenHex => Vector UInt8 16
  | .writeTemporary _ => Unit
  | .replace _ => Unit
  | .syncDirectory => Unit

/-- A computation of a call. -/
abbrev Run (α : Type) : Type := Program Op Op.Res Raised α

/-- One operation. -/
abbrev Op.run (op : Op) : Run op.Res := Program.perform op

/-! ## The calls -/

/-- What a call returns. -/
inductive Result where
  /-- `pending`, by `publish`. -/
  | published (handle : Handle) (command : Text)
  /-- `transcript_appended` -/
  | appended (handle : Handle) (appended : List UInt8)
  /-- `pending`, by `wait`. -/
  | pending (handle : Handle)
  /-- `no_pending` -/
  | resolved (handle : Handle) (published appended : List UInt8)

/-- `_validate_handle`, of a handle that is decoded. -/
def validateHandle (handle : Option Handle) (assignment : Assignment) (request : List UInt8)
    (transcript : FileIdentity) : Except Raised Handle :=
  match handle with
  | none => .error (.rootReview "root_review_handle_invalid")
  | some handle =>
      if handle.agentSession ≠ assignment.agentSession ∨
          handle.agentPane ≠ assignment.agentPane ∨
          handle.agentPanePid ≠ assignment.agentPanePid ∨
          handle.requestSha256 ≠ digest request ∨
          handle.transcriptDevice ≠ transcript.device ∨
          handle.transcriptInode ≠ transcript.inode ∨
          transcript.size < handle.transcriptOffset then
        .error (.rootReview "root_review_handle_stale_or_mismatched")
      else .ok handle

/-- The checks of `publish` on what was read: the handle of the card that may be replaced. -/
def checkPrevious (previous : Option (Option Handle)) (assignment : Assignment)
    (request : List UInt8) (transcript : FileIdentity) : Except Raised (Option Handle) :=
  match previous with
  | none =>
      if isNoPending request = false then .error (.rootReview "root_review_pending_card_exists")
      else .ok none
  | some handle => do
      let handle ← validateHandle handle assignment request transcript
      if transcript.size ≤ handle.transcriptOffset then
        .error (.rootReview "root_review_transcript_unchanged")
      else .ok (some handle)

/-- The `try` of `_replace_request`. -/
def replaceChecked (text : List UInt8) (expectedIdentity : FileIdentity)
    (expectedSha256 : List Char) (offset : Option Nat) (handle : Option Handle) :
    Run (List UInt8) := do
  (Op.writeTemporary text).run
  let again ← Op.readRequest.run
  if again.2 ≠ expectedIdentity ∨ digest again.1 ≠ expectedSha256 then
    throw (.rootReview "root_review_request_changed_before_publish")
  else
    (Op.replace { text := text, offset := offset, checked := again, handle := handle }).run
    Op.syncDirectory.run
    let published ← Op.readRequest.run
    if published.1 ≠ text then
      throw (.rootReview "root_review_request_publish_mismatch")
    else
      return published.1

/-- `_replace_request`; the temporary file that it removes in the end is read by nobody. -/
def replaceRequest (text : List UInt8) (expectedIdentity : FileIdentity)
    (expectedSha256 : List Char) (offset : Option Nat) (handle : Option Handle) :
    Run (List UInt8) := do
  let current ← Op.readRequest.run
  if current.2 ≠ expectedIdentity ∨ digest current.1 ≠ expectedSha256 then
    throw (.rootReview "root_review_request_changed_before_publish")
  else
    tryCatch (replaceChecked text expectedIdentity expectedSha256 offset handle) fun e =>
      match e with
      | .outside => throw (.rootReview "root_review_request_publish_failed")
      | e => throw e

/-- The handle of a card. -/
def Handle.of (assignment : Assignment) (published : List UInt8) (transcript : FileIdentity) :
    Handle where
  agentSession := assignment.agentSession
  agentPane := assignment.agentPane
  agentPanePid := assignment.agentPanePid
  requestSha256 := digest published
  transcriptDevice := transcript.device
  transcriptInode := transcript.inode
  transcriptOffset := transcript.size

/-- `publish` -/
def publish (purpose command : Text) (previous : Option (Option Handle)) : Run Result := do
  let purpose ← Program.ofExcept (safeSingleLine purpose "purpose" 240)
  let command ← Program.ofExcept (safeCommand command)
  let assignment ← Op.discover.run
  let request ← Op.readRequest.run
  let transcript ← Op.statTranscript.run
  let handle ← Program.ofExcept (checkPrevious previous assignment request.1 transcript)
  let random ← Op.tokenHex.run
  let text ← Program.ofExcept (requestBytes purpose command (tokenHex random))
  let published ←
    replaceRequest text request.2 (digest request.1) (some transcript.size) handle
  return .published (Handle.of assignment published transcript) command

/-- One round of `wait`: its result, unless the transcript is unchanged. -/
def poll (handle : Option Handle) : Run (Handle × Option Result) := do
  let assignment ← Op.discover.run
  let request ← Op.readRequest.run
  let transcript ← Op.statTranscript.run
  let handle ← Program.ofExcept (validateHandle handle assignment request.1 transcript)
  if handle.transcriptOffset < transcript.size then
    let appended ← (Op.readAppend handle.transcriptOffset transcript).run
    return (handle, some (.appended handle appended))
  else
    return (handle, none)

/-- The loop of `wait`, with at most so many further rounds before the deadline. -/
def waitRounds (handle : Option Handle) : Nat → Run Result
  | 0 => do
      let (handle, result) ← poll handle
      return result.getD (.pending handle)
  | rounds + 1 => do
      let (valid, result) ← poll handle
      match result with
      | some result => return result
      | none =>
          if !(← Op.remaining.run) then
            return .pending valid
          else
            Op.sleep.run
            waitRounds handle rounds

/-- `wait`, with times that are finite numbers, or `none`. -/
def wait (handle : Option Handle) (timeoutSeconds pollIntervalSeconds : Option ℚ) (rounds : Nat) :
    Run Result :=
  match timeoutSeconds, pollIntervalSeconds with
  | some timeout, some interval =>
      if timeout < 0 ∨ 50 < timeout ∨ interval ≤ 0 ∨ 5 < interval then
        throw (.rootReview "root_review_wait_bounds_invalid")
      else waitRounds handle rounds
  | _, _ => throw (.rootReview "root_review_wait_bounds_invalid")

/-- `resolve` -/
def resolve (handle : Option Handle) : Run Result := do
  let assignment ← Op.discover.run
  let request ← Op.readRequest.run
  let transcript ← Op.statTranscript.run
  let handle ← Program.ofExcept (validateHandle handle assignment request.1 transcript)
  if transcript.size ≤ handle.transcriptOffset then
    throw (.rootReview "root_review_transcript_unchanged")
  else
    let appended ← (Op.readAppend handle.transcriptOffset transcript).run
    let published ←
      replaceRequest canonicalNoPending request.2 handle.requestSha256 none (some handle)
    return .resolved handle published appended

/-! ## What an operation does -/

/-- A replacement that took place. -/
structure Event where
  process : Nat
  old : Stored
  replacement : Replacement
  transcriptSize : Nat

/-- The files, and the replacements, the last one first. -/
structure World where
  assignment : Assignment
  device : Nat
  request : Stored
  transcript : FileIdentity
  log : List Event

namespace World

/-- The identity of the request file. -/
def identity (w : World) : FileIdentity where
  device := w.device
  inode := w.request.inode
  size := w.request.text.length

/-- What the request file has been. -/
def seen (w : World) : List Stored := w.request :: w.log.map Event.old

/-- The world after a replacement. -/
def replaced (w : World) (process : Nat) (replacement : Replacement) (inode : Nat) : World :=
  { w with
    request := { inode := inode, text := replacement.text, offset := replacement.offset }
    log := { process := process, old := w.request, replacement := replacement
             transcriptSize := w.transcript.size } :: w.log }

/-- The world after something is appended to the transcript. -/
def append (w : World) (count : Nat) : World :=
  { w with transcript := { w.transcript with size := w.transcript.size + count } }

end World

/-- What an operation of a process may answer.  Every step may raise. -/
def Outcome (process : Nat) : Program.Answers Op Op.Res Raised World := fun w op =>
  match op with
  | .discover => fun r w' => w' = w ∧ (r = .ok w.assignment ∨ ∃ e, r = .error e)
  | .readRequest => fun r w' => w' = w ∧ (r = .ok (w.request.text, w.identity) ∨ ∃ e, r = .error e)
  | .statTranscript => fun r w' => w' = w ∧ (r = .ok w.transcript ∨ ∃ e, r = .error e)
  | .readAppend offset expected => fun r w' => w' = w ∧
      ((∃ appended, r = .ok appended ∧ w.transcript = expected ∧ appended ≠ [] ∧
        appended.length + offset = expected.size) ∨ ∃ e, r = .error e)
  | .replace replacement => fun r w' =>
      (r = .ok () ∧ ∃ inode ≠ w.request.inode, w' = w.replaced process replacement inode) ∨
        (∃ e, r = .error e) ∧ w' = w
  | _ => fun _ w' => w' = w

end AgentRuntimeOps.RootReview
