import Mathlib
import AgentRuntimeOps.Activation.Load
import AgentRuntimeOps.Lib.Crash

/-!
# Publishing and recovering

`publish`, `publish_broker` and `recover` as programs: each step that changes the file system is one
operation, and a crash may fall between any two of them.  `observe` stands for the reads between
two such steps; the transaction is under the installer's lock, so that nobody else changes a
managed entry.
-/

namespace AgentRuntimeOps.Activation

open AgentRuntimeOps.Lib Program

/-! ## Steps -/

/-- The steps of the file system. -/
inductive Op where
  /-- The reads before the next step. -/
  | observe
  /-- `os.open` with `O_CREAT | O_EXCL` and mode `0600`. -/
  | create (path : Path)
  /-- `os.write`; the answer is the number of bytes written. -/
  | write (path : Path) (data : List UInt8)
  | fchmod (path : Path) (mode : Nat)
  | fchown (path : Path) (uid gid : Nat)
  | symlink (target : List Char) (path : Path)
  | lchown (path : Path) (uid gid : Nat)
  /-- `os.fsync` of a file or of a directory. -/
  | fsync
  /-- `os.replace`. -/
  | replace (source target : Path)
  | unlink (path : Path)
  /-- The steps of `_write_file` on the recovery marker. -/
  | createMarker
  | fchmodMarker (mode : Nat)
  | fchownMarker (uid gid : Nat)
  | writeMarker (data : List UInt8)

/-- What a step answers. -/
@[reducible] def Op.Res : Op → Type
  | .observe => Fs
  | .write _ _ => Nat
  | .writeMarker _ => Nat
  | _ => Unit

/-- A computation on the file system. -/
abbrev Run (α : Type) : Type := Program Op Op.Res Raised α

/-- One step. -/
abbrev Op.run (op : Op) : Run op.Res := Program.perform op

namespace Fs

/-- The file system with one entry replaced or removed. -/
def setNode (fs : Fs) (p : Path) (node : Option Node) : Fs :=
  { fs with node := Function.update fs.node p.parts node }

/-- The files of the transaction directory with the marker replaced. -/
def setMarker (fs : Fs) (file : FileNode) : Fs :=
  { fs with pending := fs.pending.map fun d =>
      { d with files := (.recovered, file) :: d.files.filter fun f => f.1 ≠ .recovered } }

/-- The recovery marker. -/
def marker? (fs : Fs) : Option FileNode :=
  fs.pending.bind fun d => d.files.lookup .recovered

end Fs

/-- The group of a new entry: that of a directory with the set-group-ID bit, or the process's. -/
def newGid (machine : Machine) (fs : Fs) (p : Path) : Nat :=
  match fs.node p.parts.dropLast with
  | some (.dir attr) => if attr.mode &&& 0o2000 = 0 then machine.egid else attr.gid
  | _ => machine.egid

/-- The mode of a file that is created with mode `0600`. -/
def newMode (machine : Machine) : Nat := 0o600 - (0o600 &&& machine.umask)

/-- A change of an existing regular file. -/
def changesFile (fs fs' : Fs) (p : Path) (change : FileNode → FileNode) : Prop :=
  ∃ file, fs.node p.parts = some (.file file) ∧ fs' = fs.setNode p (some (.file (change file)))

/-- What a step does.  A write may write any part of its data, but at least one byte. -/
def Steps (machine : Machine) : Answers Op Op.Res Raised Fs := fun fs op =>
  match op with
  | .observe => fun r fs' => r = .ok fs ∧ fs' = fs
  | .create p => fun r fs' =>
      if fs.node p.parts = none then
        r = .ok () ∧ fs' = fs.setNode p (some (.file
          { data := []
            attr := { mode := newMode machine, uid := machine.euid, gid := newGid machine fs p,
                      nlink := 1 } }))
      else (∃ detail, r = .error (.os detail)) ∧ fs' = fs
  | .write p data => fun r fs' => ∃ n, r = .ok n ∧ 1 ≤ n ∧ n ≤ data.length ∧
      changesFile fs fs' p fun file => { file with data := file.data ++ data.take n }
  | .fchmod p mode => fun r fs' => r = .ok () ∧
      changesFile fs fs' p fun file => { file with attr := { file.attr with mode := mode } }
  | .fchown p uid gid => fun r fs' => r = .ok () ∧
      changesFile fs fs' p fun file => { file with attr := { file.attr with uid := uid, gid := gid } }
  | .symlink target p => fun r fs' =>
      if fs.node p.parts = none then
        r = .ok () ∧ fs' = fs.setNode p (some (.symlink target machine.euid (newGid machine fs p) 1))
      else (∃ detail, r = .error (.os detail)) ∧ fs' = fs
  | .lchown p uid gid => fun r fs' => r = .ok () ∧ ∃ target uid' gid' nlink,
      fs.node p.parts = some (.symlink target uid' gid' nlink) ∧
        fs' = fs.setNode p (some (.symlink target uid gid nlink))
  | .fsync => fun r fs' => r = .ok () ∧ fs' = fs
  | .replace source target => fun r fs' => r = .ok () ∧
      fs' = (fs.setNode target (fs.node source.parts)).setNode source none
  | .unlink p => fun r fs' => r = .ok () ∧ fs' = fs.setNode p none
  | .createMarker => fun r fs' => r = .ok () ∧ fs' = fs.setMarker
      { data := []
        attr := { mode := newMode machine, uid := machine.euid, gid := machine.egid, nlink := 1 } }
  | .fchmodMarker mode => fun r fs' => r = .ok () ∧ ∃ file, fs.marker? = some file ∧
      fs' = fs.setMarker { file with attr := { file.attr with mode := mode } }
  | .fchownMarker uid gid => fun r fs' => r = .ok () ∧ ∃ file, fs.marker? = some file ∧
      fs' = fs.setMarker { file with attr := { file.attr with uid := uid, gid := gid } }
  | .writeMarker data => fun r fs' => ∃ n file, r = .ok n ∧ 1 ≤ n ∧ n ≤ data.length ∧
      fs.marker? = some file ∧ fs' = fs.setMarker { file with data := file.data ++ data.take n }

/-! ## Comparing with an identity -/

/-- `_matches`. -/
def matchesIdentity (node : Option Node) (identity : Meta) (data : Option (List UInt8)) : Bool :=
  match node, identity with
  | none, .absent => true
  | some (.symlink target uid gid nlink), .symlink target' mode uid' gid' nlink' =>
      uid == uid' && gid == gid' && mode == 0o777 && nlink == nlink' && target == target'
  | some (.file file), .regular sha256 bytes mode uid gid nlink =>
      file.attr == { mode := mode, uid := uid, gid := gid, nlink := nlink } && data.isSome &&
        nlink == 1 && decide (file.data.length ≤ maxWrapperBytes) && file.data.length == bytes &&
        hexdigest file.data == sha256
  | _, _ => false

/-- `_payload`. -/
def payload (d : TxDir) (e : Identity) (variant : Variant) :
    Except Raised (Option (List UInt8)) :=
  match d.files.lookup (.payload variant e) with
  | none => return none
  | some file => do
      let data ← file.readBounded maxWrapperBytes
      return some data

/-- The identity of a variant. -/
def Manifest.identity (m : Manifest) : Variant → Identity → Meta
  | .baseline => m.baseline
  | .candidate => m.candidate

/-- Whether the entry matches that variant. -/
def entryMatches (d : TxDir) (fs : Fs) (variant : Variant) (e : Identity) :
    Except Raised Bool := do
  let data ← payload d e variant
  return matchesIdentity (fs.node (d.manifest.path e).parts) (d.manifest.identity variant e) data

/-- The mode of a regular identity. -/
def Meta.mode? : Meta → Option Nat
  | regular _ _ mode _ _ _ => some mode
  | _ => none

/-- `_safe_recovery_temp`. -/
def safeRecoveryTemp (node : Option Node) (baseline candidate : Meta)
    (baselineData candidateData : Option (List UInt8)) (expectedGid : Nat) : Bool :=
  match node with
  | none => true
  | some found =>
    matchesIdentity node baseline baselineData || matchesIdentity node candidate candidateData ||
      match found with
      | .symlink target uid gid nlink =>
          uid == 0 && (gid == 0 || gid == expectedGid) && nlink == 1 &&
            (baseline.target? == some target || candidate.target? == some target)
      | .file file =>
          (baseline.kind == .regular || candidate.kind == .regular) && file.attr.uid == 0 &&
            (file.attr.gid == 0 || file.attr.gid == expectedGid) && file.attr.nlink == 1 &&
            decide (file.data.length ≤ maxWrapperBytes) &&
            (file.attr.mode == 0o600 || baseline.mode? == some file.attr.mode ||
              candidate.mode? == some file.attr.mode) &&
            (baselineData.any (file.data.isPrefixOf ·) || candidateData.any (file.data.isPrefixOf ·))
      | _ => false

/-- `_preflight_variant_union` of one entry. -/
def preflightEntry (d : TxDir) (fs : Fs) (e : Identity) : Except Raised Unit := do
  let baselineData ← payload d e .baseline
  let candidateData ← payload d e .candidate
  let node := fs.node (d.manifest.path e).parts
  check (matchesIdentity node (d.manifest.baseline e) baselineData ||
      matchesIdentity node (d.manifest.candidate e) candidateData)
    ("managed entry drifted outside transaction identities: " ++ e.text)
  check (safeRecoveryTemp (fs.node (tempPath (d.manifest.path e)).parts) (d.manifest.baseline e)
      (d.manifest.candidate e) baselineData candidateData (d.manifest.gid e))
    ("activation staging entry is unsafe: " ++ e.text)

/-! ## Publishing one entry -/

/-- The reads of a function, which may raise. -/
def readFs {α : Type} (f : Fs → Except Raised α) : Run α := do
  let fs ← Op.observe.run
  Program.ofExcept (f fs)

/-- `_remove_existing`. -/
def removeExisting (p : Path) : Run Unit := do
  let fs ← Op.observe.run
  if (fs.node p.parts).isSome then do
    (Op.unlink p).run
    Op.fsync.run
  else
    return ()

/-- The loop of `os.write`, for at most so many calls as there are bytes. -/
def writeAll (step : List UInt8 → Run Nat) : Nat → List UInt8 → Run Unit
  | _, [] => return ()
  | 0, _ => return ()
  | fuel + 1, data => do
      let written ← step data
      writeAll step fuel (data.drop written)

/-- The staging path must be free. -/
def requireFree (temp : Path) : Run Unit :=
  readFs fun fs => check (fs.node temp.parts = none) "staging path already exists"

/-- `_publish_regular`. -/
def publishRegular (p : Path) (data : List UInt8) (mode uid gid : Nat) : Run Unit := do
  requireFree (tempPath p)
  (Op.create (tempPath p)).run
  writeAll (fun rest => (Op.write (tempPath p) rest).run) data.length data
  (Op.fchmod (tempPath p) mode).run
  (Op.fchown (tempPath p) uid gid).run
  Op.fsync.run
  Op.fsync.run
  (Op.replace (tempPath p) p).run
  Op.fsync.run

/-- `_publish_symlink`. -/
def publishSymlink (p : Path) (target : List Char) (uid gid : Nat) : Run Unit := do
  requireFree (tempPath p)
  (Op.symlink target (tempPath p)).run
  (Op.lchown (tempPath p) uid gid).run
  Op.fsync.run
  (Op.replace (tempPath p) p).run
  Op.fsync.run

/-- `_publish_identity`. -/
def publishIdentity (p : Path) (identity : Meta) (data : Option (List UInt8)) : Run Unit :=
  match identity, data with
  | .absent, _ => removeExisting p
  | .regular _ _ mode uid gid _, some data => publishRegular p data mode uid gid
  | .regular .., none => throw (.transaction "missing payload")
  | .symlink target _ uid gid _, _ => publishSymlink p target uid gid

/-- Publish the variant of an entry, unless the entry matches it. -/
def publishEntry (d : TxDir) (variant : Variant) (e : Identity) : Run Unit := do
  let data ← Program.ofExcept (payload d e variant)
  let matching ← readFs fun fs => entryMatches d fs variant e
  if matching then
    return ()
  else
    publishIdentity (d.manifest.path e) (d.manifest.identity variant e) data

/-- A step for each of these entries. -/
def forEntries (step : Identity → Run Unit) : List Identity → Run Unit
  | [] => return ()
  | e :: es => do
      step e
      forEntries step es

/-! ## The commands -/

/-- What `publish` demands of an entry: its baseline, and no staging path. -/
def checkUnpublished (d : TxDir) (fs : Fs) (e : Identity) : Except Raised Unit := do
  let matching ← entryMatches d fs .baseline e
  check (matching = true) ("pre-publication baseline changed: " ++ e.text)
  check (fs.node (tempPath (d.manifest.path e)).parts = none)
    ("pre-publication staging path exists: " ++ e.text)

/-- `publish`. -/
def publish (args : Args) : Run Unit := do
  let d ← readFs (loadTransaction args)
  Program.ofExcept (check (d.recovered = false) "recovered transaction cannot be republished")
  readFs fun fs => requireEach (checkUnpublished d fs) Identity.entryNames
  forEntries (publishEntry d .candidate) Identity.entryNames

/-- What `publish_broker` demands of the broker unit. -/
def checkBrokerUnit (d : TxDir) (fs : Fs) : Except Raised Unit := do
  let baseline ← entryMatches d fs .baseline .broker
  let candidate ← entryMatches d fs .candidate .broker
  check (baseline || candidate) "broker unit drifted outside transaction identities"
  check (fs.node (tempPath (d.manifest.path .broker)).parts = none) "broker staging path exists"

/-- `publish_broker`. -/
def publishBroker (args : Args) : Run Unit := do
  let d ← readFs (loadTransaction args)
  Program.ofExcept
    (check (d.recovered = false) "recovered transaction cannot publish a broker unit")
  readFs (checkBrokerUnit d)
  publishEntry d .candidate .broker

/-- The text of the recovery marker. -/
def markerText : List UInt8 := "recovered\n".toUTF8.toList

/-- `_set_phase`: the recovery marker is written unless it is there. -/
def setPhase : Run Unit := do
  let fs ← Op.observe.run
  if fs.marker?.isSome then
    Op.fsync.run
  else do
    Op.createMarker.run
    (Op.fchmodMarker 0o600).run
    (Op.fchownMarker 0 0).run
    writeAll (fun rest => (Op.writeMarker rest).run) markerText.length markerText
    Op.fsync.run
    Op.fsync.run

/-- `recover`. -/
def recover (args : Args) : Run Unit := do
  let d ← readFs (loadTransaction args)
  readFs fun fs => requireEach (preflightEntry d fs) Identity.all
  forEntries (fun e => removeExisting (tempPath (d.manifest.path e))) Identity.all
  forEntries (publishEntry d .baseline) Identity.all
  readFs fun fs => requireEach
    (fun e => do
      let matching ← entryMatches d fs .baseline e
      check (matching = true) ("baseline restoration did not converge: " ++ e.text))
    Identity.all
  if d.recovered then
    return ()
  else
    setPhase

end AgentRuntimeOps.Activation
