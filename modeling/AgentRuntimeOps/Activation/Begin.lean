import AgentRuntimeOps.Activation.Basic

/-!
# Beginning an activation transaction

`begin`: the checks of the arguments, of the candidate directory and of the managed entries, and
the transaction directory that it commits.  Nothing but the transaction directory is written.
-/

namespace AgentRuntimeOps.Activation

open AgentRuntimeOps.Lib

/-! ## Directories and endpoints -/

/-- `_validate_root_controlled_directory`. -/
def validateRootControlledDirectory (fs : Fs) (p : Path) (whereText : String) :
    Except Raised Unit := do
  match ← fs.lstat p with
  | .dir attr =>
      check (attr.uid = 0 ∧ attr.mode &&& 0o022 = 0)
        (whereText ++ ": root-owned nonwritable directory required")
  | _ => throw (.transaction (whereText ++ ": root-owned nonwritable directory required"))

/-- The check of `_validate_root_controlled_parent_chain` on one directory: only an ancestor that is
not the immediate parent may be writable, and only with the sticky bit. -/
def isRootControlled (immediate : Bool) : Node → Bool
  | .dir attr =>
      attr.uid == 0 && (attr.mode &&& 0o022 == 0 || (!immediate && attr.mode &&& 0o1000 != 0))
  | _ => false

/-- The directories above an entry, the nearest first. -/
def ancestors (parts : List Name) : List (List Name) := parts.dropLast.inits.reverse

/-- `_validate_root_controlled_parent_chain`. -/
def validateParentChain (fs : Fs) (p : Path) : Except Raised Unit :=
  requireEach
    (fun ancestor => do
      let node ← orRaise (fs.node ancestor) (.os "No such file or directory")
      check (isRootControlled (ancestor == p.parts.dropLast) node)
        "unsafe activation endpoint parent")
    (ancestors p.parts)

/-- The paths reserved for the transaction. -/
def reservedPaths (pendingDir : Path) : List Path :=
  [pendingDir, pendingDir.suffixed ".new".toList, pendingDir.suffixed ".complete".toList,
    pendingDir.suffixed ".recovered.complete".toList,
    pendingDir.suffixed ".recovered.acknowledged".toList,
    pendingDir.suffixed ".recovered.retired".toList,
    pendingDir.parent.child ".activation-candidate.prepare".toList]

/-- The managed entries and their staging paths. -/
def visiblePaths (path : Identity → Path) : List Path :=
  Identity.all.map path ++ Identity.all.map fun e => tempPath (path e)

/-- `_validate_endpoint_isolation`. -/
def validateEndpointIsolation (fs : Fs) (path : Identity → Path) (pendingDir : Path) :
    Except Raised Unit := do
  check (visiblePaths path).Nodup
    "broker, managed activation paths, and derived staging paths must be pairwise distinct"
  requireEach
    (fun endpoint => do
      validateParentChain fs endpoint
      check (!(reservedPaths pendingDir).any endpoint.overlaps)
        "managed activation endpoint overlaps transaction storage")
    (visiblePaths path)
  check (path .manifest = pendingDir.parent.child ".agent-runtime-ops-manifest".toList)
    "manifest activation endpoint is not the fixed install-root child"
  check (path .current = pendingDir.parent.child "current".toList)
    "current activation endpoint is not the fixed install-root child"

/-- `_config_from_args`; the broker unit is not part of it. -/
def configFromArgs (args : Args) : Except Raised (Identity → Path) := do
  let opsctl ← safeAbsolute (args.link .opsctl) "opsctl_link"
  let mcp ← safeAbsolute (args.link .mcp) "mcp_link"
  let gemini ← safeAbsolute (args.link .gemini) "gemini_link"
  let manifest ← safeAbsolute (args.link .manifest) "manifest_link"
  let current ← safeAbsolute (args.link .current) "current_link"
  check [opsctl, mcp, gemini, manifest, current].Nodup
    "managed activation paths must be pairwise distinct"
  return fun
    | .opsctl => opsctl
    | .mcp => mcp
    | .gemini => gemini
    | .manifest => manifest
    | .current => current
    | .broker => { doubled := false, parts := [] }

/-- The managed paths and the broker unit. -/
def withBroker (paths : Identity → Path) (unit : Path) : Identity → Path
  | .broker => unit
  | e => paths e

/-! ## The candidate -/

/-- `_validate_candidate_release`. -/
def validateCandidateRelease (fs : Fs) (candidateRelease releasesDir : Path) :
    Except Raised Unit := do
  match ← fs.lstat candidateRelease with
  | .dir _ =>
      check ((fs.realpath candidateRelease).parent = fs.realpath releasesDir)
        "candidate release is outside releases directory"
  | _ => throw (.transaction "candidate release must be a fixed directory")

/-- `root:root` and this mode, with a single link. -/
def Attr.isRoot (attr : Attr) (mode : Nat) : Bool :=
  attr.uid == 0 && attr.gid == 0 && attr.mode == mode && attr.nlink == 1

/-- What `_candidate_payloads` reads. -/
structure Payloads where
  regular : Identity → List UInt8
  target : Identity → List Char

/-- One candidate payload. -/
def CandidateDir.payload (d : CandidateDir) (name : Name) : Except Raised (List UInt8) := do
  let file ← orRaise (d.files.lookup name) (.os "No such file or directory")
  check (file.attr.isRoot 0o600) "root:root 0600 single-link file required"
  file.readBounded maxWrapperBytes

/-- The candidate broker unit, which is read before it is looked at. -/
def CandidateDir.brokerUnit (d : CandidateDir) : Except Raised (List UInt8) := do
  let file ← orRaise (d.files.lookup "broker-unit".toList) (.os "No such file or directory")
  let data ← file.readBounded maxWrapperBytes
  check (file.attr.isRoot 0o600)
    "candidate broker unit: root:root 0600 single-link file required"
  return data

/-- A target that is a text without control characters. -/
def isSafeTarget (target : List Char) : Bool := target != [] && !target.any isControl

/-- One candidate target: exactly one line of UTF-8. -/
def CandidateDir.targetLine (d : CandidateDir) (name : Name) : Except Raised (List Char) := do
  let file ← orRaise (d.files.lookup name) (.os "No such file or directory")
  let raw ← file.readBounded 4096
  let text ← orRaise (String.fromUTF8? ⟨raw.toArray⟩) (.transaction "candidate target is not UTF-8")
  check (text.toList.getLast? = some '\n' ∧ '\n' ∉ text.toList.dropLast ∧ '\r' ∉ text.toList)
    "candidate target must be exactly one line"
  check (isSafeTarget text.toList.dropLast) "candidate target is unsafe"
  return text.toList.dropLast

/-- `_candidate_payloads`. -/
def candidatePayloads (fs : Fs) : Except Raised Payloads := do
  let d ← orRaise fs.candidate (.os "No such file or directory")
  check (d.attr.uid = 0 ∧ d.attr.gid = 0 ∧ d.attr.mode = 0o700)
    "candidate identity directory must be root:root 0700"
  check (sameNames (d.files.map Prod.fst)
      ["opsctl".toList, "mcp".toList, "gemini".toList, "manifest-target".toList,
        "current-target".toList, "broker-unit".toList])
    "candidate identity directory has unexpected entries"
  let opsctl ← d.payload "opsctl".toList
  let mcp ← d.payload "mcp".toList
  let gemini ← d.payload "gemini".toList
  let manifest ← d.targetLine "manifest-target".toList
  let current ← d.targetLine "current-target".toList
  let broker ← d.brokerUnit
  return {
    regular := fun
      | .opsctl => opsctl
      | .mcp => mcp
      | .gemini => gemini
      | .broker => broker
      | _ => []
    target := fun
      | .manifest => manifest
      | .current => current
      | _ => [] }

/-! ## The baseline -/

/-- `_regular_meta`: the identity and the bytes. -/
def regularMeta (fs : Fs) (p : Path) (mode uid gid : Nat) :
    Except Raised (Meta × List UInt8) := do
  match ← orRaise (fs.node p.parts) (.os "No such file or directory") with
  | .file file =>
      check (file.attr = { mode := mode, uid := uid, gid := gid, nlink := 1 })
        "unsafe owner/mode/link count"
      let data ← file.readBounded maxWrapperBytes
      return (.regular (hexdigest data) data.length mode uid gid 1, data)
  | _ => throw (.transaction "regular file required")

/-- `_symlink_meta` with an expected target. -/
def symlinkMeta (fs : Fs) (p : Path) (uid gid : Nat) (expectedTarget : List Char) :
    Except Raised Meta := do
  match ← orRaise (fs.node p.parts) (.os "No such file or directory") with
  | .symlink target linkUid linkGid nlink =>
      check (linkUid = uid ∧ linkGid = gid ∧ nlink = 1) "unsafe symlink owner/link count"
      check (target = expectedTarget) "unexpected symlink target"
      check (isSafeTarget target) "unsafe symlink target"
      return .symlink target 0o777 uid gid 1
  | _ => throw (.transaction "symlink required")

/-- What `begin` records of the managed entries: identities, and the bytes of regular files. -/
structure Baseline where
  identity : Identity → Meta
  data : Identity → Option (List UInt8)

/-- `current/.agent-runtime-ops-manifest` -/
def manifestTarget : List Char := "current/.agent-runtime-ops-manifest".toList

/-- The target of `current` for a release. -/
def currentTarget (release : Path) : List Char := "releases/".toList ++ release.name

/-- The baseline of a first install: exact absence. -/
def firstInstallBaseline (fs : Fs) (paths : Identity → Path) : Except Raised Baseline := do
  requireEach
    (fun e => check (fs.node (paths e).parts = none)
      ("first install requires exact absence: " ++ e.text))
    Identity.entryNames
  return { identity := fun _ => .absent, data := fun _ => none }

/-- The baseline of an install over a previous release. -/
def previousInstallBaseline (fs : Fs) (paths : Identity → Path) (previous releasesDir : Path)
    (opsGid : Nat) : Except Raised Baseline := do
  match ← fs.lstat previous with
  | .dir _ =>
    check ((fs.realpath previous).parent = fs.realpath releasesDir)
      "previous release is not an exact child of releases directory"
    let current ← symlinkMeta fs (paths .current) 0 opsGid (currentTarget previous)
    check (fs.realpath (paths .current) = previous)
      "current does not resolve to exact previous release"
    let manifest ← symlinkMeta fs (paths .manifest) 0 opsGid manifestTarget
    let opsctl ← regularMeta fs (paths .opsctl) 0o755 0 opsGid
    let mcp ← regularMeta fs (paths .mcp) 0o755 0 opsGid
    let gemini ← regularMeta fs (paths .gemini) 0o755 0 opsGid
    return {
      identity := fun
        | .opsctl => opsctl.1
        | .mcp => mcp.1
        | .gemini => gemini.1
        | .manifest => manifest
        | .current => current
        | .broker => .absent
      data := fun
        | .opsctl => some opsctl.2
        | .mcp => some mcp.2
        | .gemini => some gemini.2
        | _ => none }
  | _ => throw (.transaction "previous release must be a fixed directory")

/-- The baseline of the five entries. -/
def entriesBaseline (fs : Fs) (paths : Identity → Path) (previous : Option Path)
    (releasesDir : Path) (opsGid : Nat) : Except Raised Baseline :=
  match previous with
  | none => firstInstallBaseline fs paths
  | some previous => previousInstallBaseline fs paths previous releasesDir opsGid

/-- The baseline of the broker unit. -/
def brokerBaseline (fs : Fs) (unit : Path) : Except Raised (Meta × Option (List UInt8)) :=
  if fs.node unit.parts = none then return (.absent, none)
  else do
    let (identity, data) ← regularMeta fs unit 0o644 0 0
    return (identity, some data)

/-- The checks on the state of the broker, with the words that the two commands use. -/
def checkBrokerState (state : BrokerState) (baseline : Kind) (previous : Option Path)
    (unitText releaseText : String) : Except Raised Unit := do
  check (state = .absent → baseline = .absent)
    ("absent broker state requires an absent " ++ unitText)
  check (state = .active ∨ state = .inactive → baseline = .regular)
    ("active or inactive broker state requires a regular " ++ unitText)
  check (state = .active → previous ≠ none) ("an active broker requires " ++ releaseText)

/-- A candidate's identity. -/
def candidateMeta (payloads : Payloads) (opsGid : Nat) (e : Identity) : Meta :=
  match e with
  | .broker => .regular (hexdigest (payloads.regular e)) (payloads.regular e).length 0o644 0 0 1
  | .manifest | .current => .symlink (payloads.target e) 0o777 0 opsGid 1
  | _ => .regular (hexdigest (payloads.regular e)) (payloads.regular e).length 0o755 0 opsGid 1

/-! ## The command -/

/-- A lower-case full SHA-1. -/
def isCommit (commit : List Char) : Bool := commit.length == 40 && commit.all isHexDigit

/-- The name of the broker's service. -/
def isServiceName (name : List Char) : Bool :=
  name != [] && !name.contains '/' && !name.contains '\\' &&
    !name.any fun c => c.toNat < 33 || c.toNat == 127

/-- The attributes of the files that `_write_file` writes. -/
def writtenAttr : Attr := { mode := 0o600, uid := 0, gid := 0, nlink := 1 }

/-- A payload file of the transaction directory. -/
def payloadFile (variant : Variant) (e : Identity) (data : List UInt8) : TxName × FileNode :=
  (.payload variant e, { data := data, attr := writtenAttr })

/-- The files of the transaction directory beside the manifest, in the order they are written. -/
def payloadFiles (baseline : Baseline) (payloads : Payloads) : List (TxName × FileNode) :=
  Identity.regularNames.flatMap
      (fun e => (baseline.data e).toList.map (payloadFile .baseline e)) ++
    Identity.regularNames.map (fun e => payloadFile .candidate e (payloads.regular e)) ++
    (baseline.data .broker).toList.map (payloadFile .baseline .broker) ++
    [payloadFile .candidate .broker (payloads.regular .broker)]

/-- The previous release, if one is named. -/
def previousPath (args : Args) : Except Raised (Option Path) :=
  if args.previousRelease = [] then return none
  else do
    let previous ← safeAbsolute args.previousRelease "previous_release"
    return some previous

/-- What `begin` reads and checks: the manifest, and the files it writes beside it. -/
def prepare (machine : Machine) (args : Args) (fs : Fs) :
    Except Raised (Manifest × List (TxName × FileNode)) := do
  check (machine.euid = 0) "activation transaction requires root"
  let txDir ← safeAbsolute args.transactionDir "transaction_dir"
  let installRoot ← safeAbsolute args.installRoot "install_root"
  let releasesDir ← safeAbsolute args.releasesDir "releases_dir"
  let candidateRelease ← safeAbsolute args.candidateRelease "candidate_release"
  let candidateDir ← safeAbsolute args.candidateDir "candidate_dir"
  let paths ← configFromArgs args
  check (0 ≤ args.opsGid) "ops_gid must be a nonnegative platform gid"
  check (fs.pending.isNone ∧ fs.taken = false)
    "activation transaction or staging path already exists"
  check (txDir = installRoot.child ".activation-transaction.pending".toList)
    "transaction path must be the fixed install-root child"
  check (releasesDir = installRoot.child "releases".toList)
    "releases path must be the fixed install-root child"
  check (candidateDir = installRoot.child ".activation-candidate.prepare".toList)
    "candidate identity path must be the fixed install-root child"
  validateRootControlledDirectory fs installRoot "install_root"
  validateRootControlledDirectory fs releasesDir "releases_dir"
  check (isCommit args.candidateCommit) "candidate commit must be an exact lowercase full SHA"
  validateCandidateRelease fs candidateRelease releasesDir
  let payloads ← candidatePayloads fs
  check (payloads.target .manifest = manifestTarget) "candidate manifest target is not canonical"
  check (payloads.target .current = currentTarget candidateRelease)
    "candidate current target is not exact"
  check ((args.candidateCommit ++ ['.']).isPrefixOf candidateRelease.name)
    "candidate release name is not bound to the candidate commit"
  let unit ← safeAbsolute (args.link .broker) "broker_unit"
  let state ← orRaise args.brokerState (.transaction "broker state or service name is invalid")
  check (isServiceName args.brokerServiceName) "broker state or service name is invalid"
  check (unit.name = args.brokerServiceName)
    "broker service name must equal the fixed unit basename"
  validateEndpointIsolation fs (withBroker paths unit) txDir
  let previous ← previousPath args
  let entries ← entriesBaseline fs paths previous releasesDir args.opsGid.toNat
  let (brokerMeta, brokerData) ← brokerBaseline fs unit
  checkBrokerState state brokerMeta.kind previous "unit" "an exact previous release"
  requireEach
    (fun e => check (fs.node (tempPath (withBroker paths unit e)).parts = none)
      ("reserved activation staging path already exists: " ++ e.text))
    Identity.all
  let baseline : Baseline := {
    identity := fun
      | .broker => brokerMeta
      | e => entries.identity e
    data := fun
      | .broker => brokerData
      | e => entries.data e }
  let manifest : Manifest := {
    candidateCommit := args.candidateCommit
    candidateRelease := candidateRelease
    previousRelease := previous
    opsGid := args.opsGid.toNat
    path := withBroker paths unit
    baseline := baseline.identity
    candidate := candidateMeta payloads args.opsGid.toNat
    serviceName := args.brokerServiceName
    state := state }
  check (manifest.size ≤ maxManifestBytes) "transaction manifest exceeds size bound"
  return (manifest, payloadFiles baseline payloads)

/-- `begin`: the staged directory is renamed to the transaction path. -/
def begin (machine : Machine) (args : Args) (fs : Fs) : Except Raised Fs := do
  let (manifest, files) ← prepare machine args fs
  return { fs with
    pending := some {
      attr := { mode := 0o700, uid := 0, gid := 0, nlink := machine.dirLinks }
      manifest := manifest
      manifestAttr := writtenAttr
      files := files } }

end AgentRuntimeOps.Activation
