import AgentRuntimeOps.Activation.Begin

/-!
# Loading an activation transaction

`_load_transaction`: what `publish`, `publish_broker` and `recover` demand of the transaction
directory before they do anything.
-/

namespace AgentRuntimeOps.Activation

open AgentRuntimeOps.Lib

/-- `_validate_meta`. -/
def validateMeta (value : Meta) (whereText : String) (allowed : List Kind)
    (expectedGid expectedRegularMode : Nat) : Except Raised Unit := do
  check (value.kind ∈ allowed) (whereText ++ ": unsupported identity kind")
  match value with
  | .absent => return ()
  | .regular sha256 bytes mode uid gid nlink =>
      check (sha256.length = 64 ∧ sha256.all isHexDigit = true ∧ bytes ≤ maxWrapperBytes ∧
          mode = expectedRegularMode ∧ uid = 0 ∧ gid = expectedGid ∧ nlink = 1)
        (whereText ++ ": invalid regular identity")
  | .symlink target mode uid gid nlink =>
      check (isSafeTarget target = true ∧ mode = 0o777 ∧ uid = 0 ∧ gid = expectedGid ∧ nlink = 1)
        (whereText ++ ": invalid symlink identity")

/-- The kinds a baseline may have. -/
def baselineKinds (e : Identity) : List Kind :=
  if e.isSymlink then [.absent, .symlink] else [.absent, .regular]

/-- The kind a candidate has. -/
def candidateKind (e : Identity) : Kind := if e.isSymlink then .symlink else .regular

/-- The group of an entry. -/
def Manifest.gid (m : Manifest) : Identity → Nat
  | .broker => 0
  | _ => m.opsGid

/-- The mode of an entry's regular file. -/
def regularMode : Identity → Nat
  | .broker => 0o644
  | _ => 0o755

/-- The identities of one entry are of the kinds they may have. -/
def validateEntry (m : Manifest) (e : Identity) : Except Raised Unit := do
  validateMeta (m.baseline e) (e.field ++ ".baseline") (baselineKinds e) (m.gid e) (regularMode e)
  validateMeta (m.candidate e) (e.field ++ ".candidate") [candidateKind e] (m.gid e)
    (regularMode e)

/-- The target of a symbolic link's identity. -/
def Meta.target? : Meta → Option (List Char)
  | symlink target .. => some target
  | _ => none

/-- The baselines agree with the previous release: all absent, or all there. -/
def validateBaselines (m : Manifest) : Except Raised Unit :=
  match m.previousRelease with
  | none =>
      check (∀ e ∈ Identity.entryNames, (m.baseline e).kind = .absent)
        "first-install baseline must be exactly all absent"
  | some previous => do
      check (∀ e ∈ Identity.regularNames, (m.baseline e).kind = .regular)
        "previous-install wrapper baseline is incomplete"
      check (∀ e ∈ Identity.symlinkNames, (m.baseline e).kind = .symlink)
        "previous-install symlink baseline is incomplete"
      check ((m.baseline .manifest).target? = some manifestTarget)
        "baseline manifest target is not canonical"
      check ((m.baseline .current).target? = some (currentTarget previous))
        "baseline current target is not exact"

/-- The payloads that a transaction must have. -/
def expectedPayloads (m : Manifest) : List TxName :=
  Identity.payloadNames.map (.payload .candidate) ++
    (Identity.payloadNames.filter fun e => (m.baseline e).kind = .regular).map (.payload .baseline)

/-- `_lexists(recovered_marker)`: the transaction is in phase `recovered`. -/
def TxDir.recovered (d : TxDir) : Bool := (d.files.lookup .recovered).isSome

/-- The names that the transaction directory must have, `manifest.json` apart. -/
def TxDir.expectedFiles (d : TxDir) : List TxName :=
  (if d.recovered then [.recovered] else []) ++ expectedPayloads d.manifest

/-- The payload of a regular identity has its length and its digest. -/
def TxDir.checkPayload (d : TxDir) (variant : Variant) (e : Identity) (identity : Meta) :
    Except Raised Unit :=
  match identity with
  | .regular sha256 bytes _ _ _ _ => do
      let file ← orRaise (d.files.lookup (.payload variant e)) (.os "No such file or directory")
      let data ← file.readBounded maxWrapperBytes
      check (data.length = bytes ∧ hexdigest data = sha256)
        ("transaction payload digest mismatch: " ++ variant.text ++ "-" ++ e.text)
  | _ => return ()

/-- The files of the transaction directory. -/
def TxDir.checkFiles (d : TxDir) : Except Raised Unit := do
  check (sameNames (d.files.map Prod.fst) d.expectedFiles)
    "transaction directory has unexpected or missing files"
  check (d.manifestAttr = writtenAttr ∧ ∀ file ∈ d.files, file.2.attr = writtenAttr)
    "transaction file is unsafe"
  requireEach
    (fun e => do
      d.checkPayload .baseline e (d.manifest.baseline e)
      d.checkPayload .candidate e (d.manifest.candidate e))
    Identity.payloadNames

/-- The checks of the manifest against the arguments and the pending path. -/
def checkManifest (args : Args) (pendingDir : Path) (m : Manifest) : Except Raised Unit := do
  let paths ← configFromArgs args
  check (∀ e ∈ Identity.entryNames, m.path e = paths e)
    "transaction paths do not match installer configuration"
  check ((m.opsGid : Int) = args.opsGid) "transaction group does not match installer configuration"
  check (isCommit m.candidateCommit) "transaction candidate commit is invalid"
  check (m.candidateRelease.parent = pendingDir.parent.child "releases".toList)
    "transaction candidate release is outside the fixed install root"
  check ((m.candidateCommit ++ ['.']).isPrefixOf m.candidateRelease.name)
    "candidate release name is not bound to the candidate commit"
  match m.previousRelease with
  | none => return ()
  | some previous =>
      check (previous.parent = m.candidateRelease.parent ∧ previous ≠ m.candidateRelease)
        "previous release is not an exact sibling of candidate release"

/-- `_load_transaction` of the pending transaction. -/
def loadTransaction (args : Args) (fs : Fs) : Except Raised TxDir := do
  let pendingDir ← safeAbsolute args.transactionDir "transaction_dir"
  check (pendingDir.name = ".activation-transaction.pending".toList)
    "transaction path is not the fixed pending identity"
  validateRootControlledDirectory fs pendingDir.parent "transaction parent"
  let d ← orRaise fs.pending (.os "No such file or directory")
  check (d.attr = { mode := 0o700, uid := 0, gid := 0, nlink := 2 })
    "transaction directory must be root:root 0700 with no subdirectories"
  check (d.manifestAttr.nlink = 1) "regular single-link file required"
  check (d.manifest.size ≤ maxManifestBytes) "file exceeds the limit"
  checkManifest args pendingDir d.manifest
  requireEach (validateEntry d.manifest) Identity.entryNames
  validateBaselines d.manifest
  check ((d.manifest.candidate .manifest).target? = some manifestTarget)
    "candidate manifest target is not canonical"
  check ((d.manifest.candidate .current).target? =
      some (currentTarget d.manifest.candidateRelease))
    "candidate current target is not exact"
  let unit ← safeAbsolute (args.link .broker) "broker_unit"
  check (d.manifest.path .broker = unit) "broker unit path does not match installer configuration"
  validateEndpointIsolation fs d.manifest.path pendingDir
  check (isServiceName d.manifest.serviceName) "broker service name is invalid"
  check ((d.manifest.path .broker).name = d.manifest.serviceName)
    "broker service name does not match the unit basename"
  validateEntry d.manifest .broker
  checkBrokerState d.manifest.state (d.manifest.baseline .broker).kind d.manifest.previousRelease
    "baseline unit" "a previous release"
  d.checkFiles
  return d

end AgentRuntimeOps.Activation
