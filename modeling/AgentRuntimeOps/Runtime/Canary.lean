import AgentRuntimeOps.Runtime.Basic

/-!
# Canary transactions

`canary_transaction.py`: a single-use admission that binds the image digests of a candidate and of
the state before it, and the receipt that consumes it.
-/

namespace AgentRuntimeOps.Runtime

open AgentRuntimeOps.Lib

variable [Host]

/-- `_DIGEST`: `sha256:` and 64 lower-case hexadecimal digits. -/
def isDigest (value : Digest) : Bool :=
  value.take 7 == "sha256:".toList && value.length == 71 && (value.drop 7).all isHexDigit

/-- `_SAFE`: `[a-z0-9][a-z0-9_.-]{0,63}`. -/
def isSafeSlot : List Char → Bool
  | [] => false
  | c :: cs =>
      (c.isLower || c.isDigit) && cs.length ≤ 63 &&
        cs.all fun c => c.isLower || c.isDigit || c == '_' || c == '.' || c == '-'

/-- The families a canary may have. -/
def isCanaryFamily (family : List Char) : Bool :=
  family == "hermes".toList || family == "openclaw".toList

/-- The text after the last occurrence of `pattern`, as `rsplit(pattern, 1)[1]`. -/
def afterLast (pattern : List Char) : List Char → Option (List Char)
  | [] => none
  | c :: cs =>
      match afterLast pattern cs with
      | some rest => some rest
      | none => if pattern.isPrefixOf (c :: cs) then some ((c :: cs).drop pattern.length) else none

/-- `digest_from_image_ref`. -/
def digestFromImageRef (value : Option (List Char)) : Option Digest :=
  (value.bind (afterLast "@sha256:".toList)).map fun rest => "sha256:".toList ++ rest

namespace ImagePair

/-- Both digests are canonical. -/
def canonical (pair : ImagePair) : Bool := isDigest pair.product && isDigest pair.wrapper

/-- The digests of a product and a wrapper image, when both references have one. -/
def ofImages? (productImage wrapperImage : Option (List Char)) : Option ImagePair :=
  match digestFromImageRef productImage, digestFromImageRef wrapperImage with
  | some product, some wrapper => some { product := product, wrapper := wrapper }
  | _, _ => none

end ImagePair

/-- The checks of `_load` on the fields of a transaction. -/
def CanaryTransaction.wellFormed (tx : CanaryTransaction) : Bool :=
  isSafeSlot tx.slot && isCanaryFamily tx.family && tx.candidate.canonical &&
    tx.prestate.canonical && isDigest tx.backupMetadataDigest

namespace Canary

/-- `begin`. -/
def begin (slot family : List Char) (candidate prestate : ImagePair) (backupName : BackupName)
    (backupMetadataDigest : Digest) : Run Unit := do
  if !isCanaryFamily family then
    throw .canaryFamily
  if !(candidate.canonical && prestate.canonical && isDigest backupMetadataDigest) then
    throw .digestForm
  if !isSafeSlot slot then
    throw .canarySlot
  match ← Op.readCanary.run with
  | some _ => throw .canaryExists
  | none =>
    let createdAt ← Op.clock.run
    let transactionId ← Op.token.run
    (Effect.writeCanary
      { backupMetadataDigest := backupMetadataDigest, backupName := backupName,
        candidate := candidate, createdAt := createdAt, family := family, prestate := prestate,
        slot := slot, transactionId := transactionId }).run

/-- `load`. -/
def load (slot : List Char) : Run CanaryTransaction := do
  if !isSafeSlot slot then
    throw .canarySlot
  match ← tryCatch Op.readCanary.run fun _ => throw .canaryUnreadable with
  | none => throw .canaryAbsent
  | some tx =>
      if tx.wellFormed then return tx
      else throw .canaryInvalid

/-- `require_candidate`. -/
def requireCandidate (slot : List Char) (pair : ImagePair) : Run CanaryTransaction := do
  let tx ← load slot
  if !pair.canonical then
    throw .digestForm
  if tx.candidate ≠ pair then
    throw .candidateDigestMismatch
  return tx

/-- `require_prestate`. -/
def requirePrestate (slot : List Char) (pair : ImagePair) : Run CanaryTransaction := do
  let tx ← load slot
  if !pair.canonical then
    throw .digestForm
  if tx.prestate ≠ pair then
    throw .rollbackDigestMismatch
  return tx

/-- The receipt of a transaction. -/
def receiptOf (slot : List Char) (tx : CanaryTransaction) (outcome : CanaryOutcome) :
    CanaryReceipt :=
  { candidate := tx.candidate, outcome := outcome, prestate := tx.prestate, slot := slot,
    transactionId := tx.transactionId }

/-- `finish`: the receipt is written before the transaction is unlinked. -/
def finish (slot : List Char) (outcome : CanaryOutcome) (result : ImagePair) : Run Unit := do
  let tx ← load slot
  if !result.canonical then
    throw .digestForm
  let _ ← match outcome with
    | .candidateSucceeded => requireCandidate slot result
    | .rollbackSucceeded => requirePrestate slot result
  (Effect.writeReceipt (receiptOf slot tx outcome)).run
  Effect.unlinkCanary.run

end Canary

end AgentRuntimeOps.Runtime
