import AgentRuntimeOps.Lib.JsonEq
import AgentRuntimeOps.Lib.Text
import AgentRuntimeOps.Lib.Tx

/-!
# A change of the model of an OpenClaw slot

`_set_model_openclaw` of `commands/runtime_config.py`, with `domain/openclaw_config.py`: the product's
own `models set` changes the config file of a slot from inside its container.  The file is captured
before, and put back if the command fails or the changed state is not attested.

The state is what is at the path of the config file.  Only the commands that run in the container and
the restore change it.  What a command leaves at the path is for the command to say, and any of the
steps on the file system may raise.
-/

namespace AgentRuntimeOps.Runtime.ModelSet

open AgentRuntimeOps.Lib

/-! ## The config file -/

/-- An exception that is not one of this module's own; only its text is kept. -/
structure Raised where
  text : String
  deriving DecidableEq, Repr

/-- `OpenClawConfigSnapshot`: a regular file. -/
structure Snapshot where
  content : List UInt8
  uid : Nat
  gid : Nat
  mode : Nat
  deriving DecidableEq, Repr

/-- What a link leads to. -/
inductive Target where
  | nothing
  | file (content : List UInt8)
  | other
  deriving DecidableEq, Repr

/-- What is at the path of the config file. -/
inductive ConfigPath where
  | absent
  | file (f : Snapshot)
  | link (target : Target)
  /-- A directory or a special file. -/
  | other
  deriving DecidableEq, Repr

/-- What reading the path gives: nothing, the bytes of a regular file, or no regular file. -/
def ConfigPath.resolved : ConfigPath → Target
  | absent => .nothing
  | file f => .file f.content
  | link target => target
  | other => .other

/-- A computation on the config file. -/
abbrev Run (ε α : Type) : Type := Tx ConfigPath ε α

section config

variable [FloatData] (limit : Nat) (path : String)

/-- `json.loads` of the bytes of a file. -/
def loadsText (raw : List UInt8) : Except Raised Scanned :=
  match decodeUtf8? raw with
  | none => .error ⟨"UnicodeDecodeError"⟩
  | some text =>
      match scan false limit text with
      | .ok value => .ok value
      | .error .recursion => .error ⟨"RecursionError"⟩
      | .error .digits => .error ⟨"ValueError"⟩
      | .error _ => .error ⟨"JSONDecodeError"⟩

/-- `read_openclaw_config`; `fault` is what a step of the file system raises. -/
def readOpenclawConfig (fault : Option Raised) (file : ConfigPath) : Except Raised Scanned :=
  match fault, file.resolved with
  | some exc, _ => .error exc
  | none, .nothing => .ok (.obj [])
  | none, .other => .error ⟨"config path is not a regular file: " ++ path⟩
  | none, .file content => do
      match ← loadsText limit content with
      | .obj fields => return .obj fields
      | _ => throw ⟨"config must be a mapping: " ++ path⟩

/-- `capture_openclaw_config_snapshot` -/
def captureOpenclawConfigSnapshot (fault : Option Raised) (file : ConfigPath) :
    Except Raised Snapshot :=
  match fault, file with
  | some exc, _ => .error exc
  | none, .file f => .ok f
  | none, _ => .error ⟨"config snapshot source must be a regular non-symlink file: " ++ path⟩

/-- What a restore raises: before its `os.replace`, or after it. -/
structure RestoreFault where
  replaced : Bool
  exc : Raised
  deriving DecidableEq, Repr

/-- `restore_openclaw_config_snapshot`: a link that leads nowhere gives way. -/
def restoreOpenclawConfigSnapshot (fault : Option RestoreFault) (snapshot : Snapshot) :
    Run Raised Unit := fun file =>
  match file, fault with
  | .link (.file _), _ | .link .other, _ =>
      (.error ⟨"config file must not be a symlink: " ++ path⟩, file)
  | .other, _ => (.error ⟨"IsADirectoryError"⟩, file)
  | _, some ⟨false, exc⟩ => (.error exc, file)
  | _, some ⟨true, exc⟩ => (.error exc, .file snapshot)
  | _, none => (.ok (), .file snapshot)

end config

/-! ## The model of a config -/

/-- Where the model of a config is found. -/
inductive Source where
  | string
  | object
  | missing
  deriving DecidableEq, Repr

/-- `dict.get` of a value that may be no mapping -/
def fieldOf (name : String) : Scanned → Option Scanned
  | .obj fields => Scanned.field? (Text.of name) fields
  | _ => none

/-- `_model_field` -/
def modelField (config : Scanned) : Option Scanned := do
  let agents ← fieldOf "agents" config
  let defaults ← fieldOf "defaults" agents
  fieldOf "model" defaults

/-- `current_openclaw_model`, for the reference and where it is from. -/
def currentOpenclawModel (config : Scanned) : Text × Source :=
  match modelField config with
  | some (.str ref) => (Text.strip ref, .string)
  | some (.obj fields) =>
      match Scanned.field? (Text.of "primary") fields with
      | some (.str ref) => (Text.strip ref, .object)
      | _ => ([], .missing)
  | _ => ([], .missing)

/-- `build_model_ref` -/
def buildModelRef (provider model : Text) : Text :=
  let prov := provider.strip
  let mdl := model.strip
  if prov = [] then mdl else prov ++ Text.of "/" ++ mdl

/-! ## Commands -/

/-- A finished process; one whose program is missing has the status 127. -/
structure Proc where
  returncode : Int
  stdout : String
  stderr : String
  deriving DecidableEq, Repr

/-- What a command in the container comes to, and what it leaves at the path of the config. -/
structure Command (α : Type) where
  result : Except Raised α
  leaves : ConfigPath → ConfigPath

/-- Run a command. -/
def Command.run {α : Type} (command : Command α) : Run Raised α := fun file =>
  (command.result, command.leaves file)

/-- `OPENCLAW_MODELS_SET_ENTRIES` -/
def modelsSetEntries : List (List String) :=
  [["openclaw", "models", "set"], ["node", "openclaw.mjs", "models", "set"],
    ["node", "dist/index.js", "models", "set"]]

/-- `s.strip()` -/
def stripString (s : String) : String :=
  String.ofList (((s.toList.dropWhile fun c => Text.isSpace c.toNat).reverse.dropWhile fun c =>
    Text.isSpace c.toNat).reverse)

/-- What a failed process says. -/
def Proc.detail (proc : Proc) : String :=
  let said := stripString (if proc.stderr = "" then proc.stdout else proc.stderr)
  let text := if said = "" then "returncode=" ++ toString proc.returncode else said
  String.ofList (text.toList.take 150)

/-- The loop of `run_openclaw_models_set`: one entry after the other until one succeeds. -/
def runEntries (runs : List String → Command Proc) :
    List (List String) → List String → Run Raised (Bool × String)
  | [], attempts => return (false, "all entrypoints failed: " ++ " | ".intercalate attempts)
  | entry :: entries, attempts => do
      let proc ← (runs entry).run
      if proc.returncode = 0 then return (true, "entry=" ++ " ".intercalate entry ++ " exit=0")
      else
        let attempt := "'" ++ " ".intercalate entry ++ "': " ++ proc.detail
        runEntries runs entries (attempts ++ [attempt])

/-- `run_openclaw_models_set` -/
def runOpenclawModelsSet (runs : List String → Command Proc) : Run Raised (Bool × String) :=
  runEntries runs modelsSetEntries []

/-- A check of a selftest: its result, its name and its detail. -/
structure Check where
  ok : Bool
  name : String
  detail : Option String
  deriving DecidableEq, Repr

/-- The two commands of an attestation: `run_config_validate_in_container` and
`run_image_selftest_contract`. -/
structure Attestation where
  validate : Command (Bool × String)
  selftest : Command (List Check)

/-- `value or default` of a text -/
def orText (value : Option String) (default : String) : String :=
  if value.getD "" = "" then default else value.getD ""

/-- `_attest_openclaw_model_change`; `contracts` says whether the image has both contracts. -/
def attestOpenclawModelChange (contracts : Bool) (attestation : Attestation) :
    Run Raised (Bool × String) := do
  if !contracts then return (false, "running image is missing config or selftest contract")
  else
    let validated ← attestation.validate.run
    if !validated.1 then return (false, "config=" ++ validated.2)
    else
      let checks ← attestation.selftest.run
      match checks.find? (·.name = "selftest_contract_ok") with
      | some ⟨true, _, detail⟩ =>
          return (true, "config=" ++ validated.2 ++ "; selftest=" ++ orText detail "ok")
      | _ =>
          let failed := ",".intercalate ((checks.filter (!·.ok)).map fun check =>
            check.name ++ ":" ++ orText check.detail "failed")
          return (false, String.ofList (("selftest=" ++
            orText (some failed) "contract result missing").toList.take 500))

/-! ## The change -/

/-- What happens outside while a model is changed. -/
structure Outside where
  /-- `load_profile` and `find_gateway_container` -/
  gateway : Except Raised (Option String × String)
  /-- `openclaw_config_path` -/
  configPath : Except Raised String
  contracts : Bool
  readBefore : Option Raised
  captureBefore : Option Raised
  attestBefore : Attestation
  captureVerified : Option Raised
  modelsSet : List String → Command Proc
  readAfterSet : Option Raised
  /-- The stack is too small to compare two configs. -/
  comparison : Option Raised
  attestAfterSet : Attestation
  restore : Option RestoreFault
  attestAfterRestore : Attestation
  /-- `config_json_diff`; its lines depend on the order of the fields in the file. -/
  diff : Scanned → Scanned → Except Raised (List String)

/-- What an error says about the rollback. -/
inductive Rollback where
  /-- `rollback failed: …` -/
  | failed (exc : Raised)
  /-- `rollback=not_needed_verified` -/
  | notNeeded
  /-- `rollback=restored_verified` -/
  | restored
  deriving DecidableEq, Repr

/-- What a change of the model raises. -/
inductive ChangeRaised where
  /-- An exception of a step that nothing catches, or a refusal before the change. -/
  | other (exc : Raised)
  /-- `product models set failed (container=…): …; …` -/
  | setFailed (container detail : String) (rollback : Rollback)
  /-- `candidate attestation failed: …; …` -/
  | candidateFailed (detail : String) (rollback : Rollback)
  deriving DecidableEq, Repr

/-- The text about a rollback. -/
def Rollback.text : Rollback → String
  | failed exc => "rollback failed: " ++ exc.text
  | notNeeded => "rollback=not_needed_verified"
  | restored => "rollback=restored_verified"

/-- The text of an error. -/
def ChangeRaised.text : ChangeRaised → String
  | other exc => exc.text
  | setFailed container detail rollback =>
      "product models set failed (container=" ++ container ++ "): " ++ detail ++ "; " ++ rollback.text
  | candidateFailed detail rollback =>
      "candidate attestation failed: " ++ detail ++ "; " ++ rollback.text

/-- What an error says about the rollback, if anything. -/
def ChangeRaised.rollback? : ChangeRaised → Option Rollback
  | other _ => none
  | setFailed _ _ rollback | candidateFailed _ rollback => some rollback

/-- What is known when the product's command is invoked. -/
structure Prepared where
  container : String
  method : String
  path : String
  before : Scanned
  verifiedSnapshot : Snapshot
  previousRef : Text
  source : Source

/-- What a change of the model returns. -/
structure Changed where
  path : String
  diffLines : List String
  previousRef : Text
  newRef : Text
  source : Source
  container : String

section change

variable [FloatData] (limit : Nat) (outside : Outside) (slot : String)
  (recoverUnverifiedCurrent : Bool)

/-- What comes before `run_openclaw_models_set`. -/
def prepare : Run Raised Prepared := do
  let gateway ← Tx.ofExcept outside.gateway
  match gateway.1 with
  | none => Tx.raise ⟨"no running gateway container for " ++ slot ++ ": " ++ gateway.2⟩
  | some container =>
      let path ← Tx.ofExcept outside.configPath
      let before ← Tx.readsOrRaise (readOpenclawConfig limit path outside.readBefore)
      let first ← Tx.readsOrRaise (captureOpenclawConfigSnapshot path outside.captureBefore)
      let attested ← attestOpenclawModelChange outside.contracts outside.attestBefore
      Tx.require (attested.1 ∨ recoverUnverifiedCurrent) (Raised.mk
        ("refusing model change because current state is not verified-good: " ++ attested.2))
      Tx.require (attested.1 ∨ slot.startsWith "dev-")
        (Raised.mk "unverified-current recovery is restricted to dev-* targets")
      let verified ← Tx.readsOrRaise (captureOpenclawConfigSnapshot path outside.captureVerified)
      Tx.require (verified = first)
        (Raised.mk "config changed while establishing the verified rollback baseline")
      let current := currentOpenclawModel before
      return ⟨container, gateway.2, path, before, verified, current.1, current.2⟩

/-- The attestation of what a rollback has left. -/
def attestRestored : Run Raised Unit := do
  let restored ← attestOpenclawModelChange outside.contracts outside.attestAfterRestore
  Tx.require (restored.1 ∨ recoverUnverifiedCurrent)
    (Raised.mk ("restored state failed attestation: " ++ restored.2))

/-- `partial != before` -/
def differs (part before : Scanned) : Except Raised Bool :=
  match outside.comparison with
  | some exc => .error exc
  | none => .ok (!part.equal before)

/-- The rollback after a command that failed. -/
def rollbackPartial (p : Prepared) : Run Raised Rollback := do
  let part ← Tx.readsOrRaise (readOpenclawConfig limit p.path outside.readAfterSet)
  let changed ← Tx.ofExcept (differs outside part p.before)
  if changed then
    restoreOpenclawConfigSnapshot p.path outside.restore p.verifiedSnapshot
    attestRestored outside recoverUnverifiedCurrent
    return .restored
  else
    attestRestored outside recoverUnverifiedCurrent
    return .notNeeded

/-- The rollback after a change that is not attested. -/
def rollbackCandidate (p : Prepared) : Run Raised Rollback := do
  restoreOpenclawConfigSnapshot p.path outside.restore p.verifiedSnapshot
  attestRestored outside recoverUnverifiedCurrent
  return .restored

/-- `try: … except Exception`: what a rollback comes to. -/
def caught (x : Run Raised Rollback) : Run ChangeRaised Rollback := fun file =>
  match x file with
  | (.ok rollback, file') => (.ok rollback, file')
  | (.error exc, file') => (.ok (.failed exc), file')

/-- What nothing catches. -/
def uncaught {α : Type} (x : Run Raised α) : Run ChangeRaised α := fun file =>
  match x file with
  | (.ok a, file') => (.ok a, file')
  | (.error exc, file') => (.error (.other exc), file')

/-- What follows `run_openclaw_models_set`. -/
def changeModel (newRef : Text) (p : Prepared) : Run ChangeRaised Changed := do
  let done ← uncaught (runOpenclawModelsSet outside.modelsSet)
  if !done.1 then
    let rollback ← caught (rollbackPartial limit outside recoverUnverifiedCurrent p)
    Tx.raise (.setFailed p.container done.2 rollback)
  else
    let after ← uncaught (Tx.readsOrRaise (readOpenclawConfig limit p.path outside.readAfterSet))
    let attested ← uncaught (attestOpenclawModelChange outside.contracts outside.attestAfterSet)
    if !attested.1 then
      let rollback ← caught (rollbackCandidate outside recoverUnverifiedCurrent p)
      Tx.raise (.candidateFailed attested.2 rollback)
    else
      let lines ← uncaught (Tx.ofExcept (outside.diff p.before after))
      return ⟨p.path, lines, p.previousRef, newRef, p.source, p.container ++ ":" ++ p.method⟩

/-- `_set_model_openclaw` -/
def setModelOpenclaw (provider model : Text) : Run ChangeRaised Changed := do
  let p ← uncaught (prepare limit outside slot recoverUnverifiedCurrent)
  changeModel limit outside recoverUnverifiedCurrent (buildModelRef provider model) p

end change

/-! ## What an error promises -/

/-- The file is the verified one, or the error says that a rollback failed; an error that says that
the file was kept or restored is right. -/
def Honest (snapshot : Snapshot) : Except ChangeRaised Changed × ConfigPath → Prop
  | (.ok _, _) => True
  | (.error e, file) =>
      (file = .file snapshot ∨ ∃ exc, e.rollback? = some (.failed exc)) ∧
        (e.rollback? = some .notNeeded ∨ e.rollback? = some .restored → file = .file snapshot)

section gaps

variable [FloatData] (limit : Nat) (outside : Outside) (recoverUnverifiedCurrent : Bool)
  (p : Prepared)

/-- The attestation of what a rollback left returns, without an objection that counts. -/
def Accepted (file file' : ConfigPath) : Prop :=
  attestRestored outside recoverUnverifiedCurrent file = (.ok (), file')

/-- What goes wrong outside and is not made good: `left` is what `models set` left at the path, and
the file that is there in the end is not the verified one. -/
inductive Gap (file : ConfigPath) : Prop where
  /-- `models set` cannot be run or does not end in time. -/
  | setRaised {exc : Raised} {left : ConfigPath}
      (hset : runOpenclawModelsSet outside.modelsSet file = (.error exc, left))
      (hleft : left ≠ .file p.verifiedSnapshot)
  /-- `models set` fails and leaves a file that is equal as JSON. -/
  | sameJson {detail : String} {left file' : ConfigPath} {part : Scanned}
      (hset : runOpenclawModelsSet outside.modelsSet file = (.ok (false, detail), left))
      (hread : readOpenclawConfig limit p.path outside.readAfterSet left = .ok part)
      (hsame : differs outside part p.before = .ok false)
      (haccepted : Accepted outside recoverUnverifiedCurrent left file')
      (hleft : file' ≠ .file p.verifiedSnapshot)
  /-- `models set` fails, and the attestation of the restored file changes it. -/
  | attestedPartial {detail : String} {left file' : ConfigPath} {part : Scanned}
      (hset : runOpenclawModelsSet outside.modelsSet file = (.ok (false, detail), left))
      (hread : readOpenclawConfig limit p.path outside.readAfterSet left = .ok part)
      (hdiffers : differs outside part p.before = .ok true)
      (hrestored : (restoreOpenclawConfigSnapshot p.path outside.restore p.verifiedSnapshot left).1 =
        .ok ())
      (haccepted : Accepted outside recoverUnverifiedCurrent (.file p.verifiedSnapshot) file')
      (hleft : file' ≠ .file p.verifiedSnapshot)
  /-- `models set` succeeds and leaves what cannot be read. -/
  | unreadable {detail : String} {left : ConfigPath} {exc : Raised}
      (hset : runOpenclawModelsSet outside.modelsSet file = (.ok (true, detail), left))
      (hread : readOpenclawConfig limit p.path outside.readAfterSet left = .error exc)
      (hleft : left ≠ .file p.verifiedSnapshot)
  /-- `models set` succeeds, and the attestation raises. -/
  | attestRaised {detail : String} {left file' : ConfigPath} {after : Scanned} {exc : Raised}
      (hset : runOpenclawModelsSet outside.modelsSet file = (.ok (true, detail), left))
      (hread : readOpenclawConfig limit p.path outside.readAfterSet left = .ok after)
      (hattest : attestOpenclawModelChange outside.contracts outside.attestAfterSet left =
        (.error exc, file'))
      (hleft : file' ≠ .file p.verifiedSnapshot)
  /-- `models set` succeeds and is not attested, and the attestation of the restored file changes
  it. -/
  | attestedCandidate {detail reason : String} {left left' file' : ConfigPath} {after : Scanned}
      (hset : runOpenclawModelsSet outside.modelsSet file = (.ok (true, detail), left))
      (hread : readOpenclawConfig limit p.path outside.readAfterSet left = .ok after)
      (hattest : attestOpenclawModelChange outside.contracts outside.attestAfterSet left =
        (.ok (false, reason), left'))
      (hrestored : (restoreOpenclawConfigSnapshot p.path outside.restore p.verifiedSnapshot
        left').1 = .ok ())
      (haccepted : Accepted outside recoverUnverifiedCurrent (.file p.verifiedSnapshot) file')
      (hleft : file' ≠ .file p.verifiedSnapshot)
  /-- The change is attested, and its description raises. -/
  | diffRaised {detail reason : String} {left file' : ConfigPath} {after : Scanned} {exc : Raised}
      (hset : runOpenclawModelsSet outside.modelsSet file = (.ok (true, detail), left))
      (hread : readOpenclawConfig limit p.path outside.readAfterSet left = .ok after)
      (hattest : attestOpenclawModelChange outside.contracts outside.attestAfterSet left =
        (.ok (true, reason), file'))
      (hdiff : outside.diff p.before after = .error exc)
      (hleft : file' ≠ .file p.verifiedSnapshot)

variable {limit outside recoverUnverifiedCurrent p}

omit [FloatData] in
/-- A restore that returns has put the file back. -/
lemma restore_ok {path : String} {fault : Option RestoreFault} {snapshot : Snapshot}
    {file file' : ConfigPath}
    (h : restoreOpenclawConfigSnapshot path fault snapshot file = (.ok (), file')) :
    file' = .file snapshot := by
  unfold restoreOpenclawConfigSnapshot at h
  split at h
  · cases h
  · cases h
  · cases h
  · cases h
  · cases h
  · cases h
    rfl

omit [FloatData] in
lemma restore_run {path : String} {fault : Option RestoreFault} {snapshot : Snapshot}
    {file : ConfigPath} (h : (restoreOpenclawConfigSnapshot path fault snapshot file).1 = .ok ()) :
    restoreOpenclawConfigSnapshot path fault snapshot file = (.ok (), .file snapshot) := by
  cases hrun : restoreOpenclawConfigSnapshot path fault snapshot file with
  | mk result file' =>
      rw [hrun] at h
      cases h
      rw [restore_ok hrun]

omit [FloatData] in
/-- When the rollback of a change that is not attested returns. -/
lemma rollbackCandidate_ok {file file' : ConfigPath} {rollback : Rollback} :
    rollbackCandidate outside recoverUnverifiedCurrent p file = (.ok rollback, file') ↔
      rollback = .restored ∧
        (restoreOpenclawConfigSnapshot p.path outside.restore p.verifiedSnapshot file).1 = .ok () ∧
        Accepted outside recoverUnverifiedCurrent (.file p.verifiedSnapshot) file' := by
  unfold rollbackCandidate Accepted
  simp only [Tx.bind_ok, Tx.pure_ok]
  constructor
  · rintro ⟨_, file₁, hrestore, _, file₂, haccepted, rfl, rfl⟩
    obtain rfl := restore_ok hrestore
    exact ⟨rfl, congrArg Prod.fst hrestore, haccepted⟩
  · rintro ⟨rfl, hrestore, haccepted⟩
    exact ⟨(), _, restore_run hrestore, (), _, haccepted, rfl, rfl⟩

/-- When the rollback of a command that failed returns. -/
lemma rollbackPartial_ok {file file' : ConfigPath} {rollback : Rollback} :
    rollbackPartial limit outside recoverUnverifiedCurrent p file = (.ok rollback, file') ↔
      ∃ part, readOpenclawConfig limit p.path outside.readAfterSet file = .ok part ∧
        ((differs outside part p.before = .ok false ∧ rollback = .notNeeded ∧
          Accepted outside recoverUnverifiedCurrent file file') ∨
        (differs outside part p.before = .ok true ∧
          rollbackCandidate outside recoverUnverifiedCurrent p file = (.ok rollback, file'))) := by
  unfold rollbackPartial
  simp only [Tx.bind_ok, Tx.readsOrRaise_ok, Tx.ofExcept_ok]
  constructor
  · rintro ⟨part, _, ⟨hread, rfl⟩, changed, _, ⟨hdiffers, rfl⟩, hrest⟩
    refine ⟨part, hread, ?_⟩
    cases changed with
    | true => exact .inr ⟨hdiffers, hrest⟩
    | false =>
        simp only [Bool.false_eq_true, if_false, Tx.bind_ok, Tx.pure_ok] at hrest
        obtain ⟨_, _, haccepted, rfl, rfl⟩ := hrest
        exact .inl ⟨hdiffers, rfl, haccepted⟩
  · rintro ⟨part, hread, ⟨hdiffers, rfl, haccepted⟩ | ⟨hdiffers, hrest⟩⟩
    · refine ⟨part, _, ⟨hread, rfl⟩, false, _, ⟨hdiffers, rfl⟩, ?_⟩
      simp only [Bool.false_eq_true, if_false, Tx.bind_ok, Tx.pure_ok]
      exact ⟨(), _, haccepted, trivial, rfl⟩
    · exact ⟨part, _, ⟨hread, rfl⟩, true, _, ⟨hdiffers, rfl⟩, hrest⟩

/-- What is said of a rollback that comes to `x`. -/
def Rollback.of : Except Raised Rollback → Rollback
  | .ok rollback => rollback
  | .error exc => .failed exc

omit [FloatData] in
lemma caught_eq (x : Run Raised Rollback) (file : ConfigPath) :
    caught x file = (.ok (Rollback.of (x file).1), (x file).2) := by
  unfold caught
  split
  · rename_i h
    rw [h]
    rfl
  · rename_i h
    rw [h]
    rfl

omit [FloatData] in
lemma uncaught_of_ok {α : Type} {x : Run Raised α} {file file' : ConfigPath} {a : α}
    (h : x file = (.ok a, file')) : uncaught x file = (.ok a, file') := by
  unfold uncaught
  rw [h]

omit [FloatData] in
lemma uncaught_of_error {α : Type} {x : Run Raised α} {file file' : ConfigPath} {exc : Raised}
    (h : x file = (.error exc, file')) : uncaught x file = (.error (.other exc), file') := by
  unfold uncaught
  rw [h]

section runs

variable {newRef : Text} {file left : ConfigPath}

lemma changeModel_setRaised {exc : Raised}
    (hset : runOpenclawModelsSet outside.modelsSet file = (.error exc, left)) :
    changeModel limit outside recoverUnverifiedCurrent newRef p file =
      (.error (.other exc), left) :=
  Tx.bind_of_error (uncaught_of_error hset)

lemma changeModel_setFailed {detail : String}
    (hset : runOpenclawModelsSet outside.modelsSet file = (.ok (false, detail), left)) :
    changeModel limit outside recoverUnverifiedCurrent newRef p file =
      (.error (.setFailed p.container detail
        (Rollback.of (rollbackPartial limit outside recoverUnverifiedCurrent p left).1)),
        (rollbackPartial limit outside recoverUnverifiedCurrent p left).2) := by
  refine (Tx.bind_of_ok (uncaught_of_ok hset)).trans ?_
  exact Tx.bind_of_ok (caught_eq _ _)

variable {detail : String}
  (hset : runOpenclawModelsSet outside.modelsSet file = (.ok (true, detail), left))

include hset

lemma changeModel_unreadable {exc : Raised}
    (hread : readOpenclawConfig limit p.path outside.readAfterSet left = .error exc) :
    changeModel limit outside recoverUnverifiedCurrent newRef p file =
      (.error (.other exc), left) := by
  refine (Tx.bind_of_ok (uncaught_of_ok hset)).trans ?_
  exact Tx.bind_of_error (uncaught_of_error (congrArg (·, left) hread))

variable {after : Scanned}
  (hread : readOpenclawConfig limit p.path outside.readAfterSet left = .ok after)

include hread

lemma changeModel_attestRaised {exc : Raised} {file' : ConfigPath}
    (hattest : attestOpenclawModelChange outside.contracts outside.attestAfterSet left =
      (.error exc, file')) :
    changeModel limit outside recoverUnverifiedCurrent newRef p file =
      (.error (.other exc), file') := by
  refine (Tx.bind_of_ok (uncaught_of_ok hset)).trans ?_
  refine (Tx.bind_of_ok (uncaught_of_ok (congrArg (·, left) hread))).trans ?_
  exact Tx.bind_of_error (uncaught_of_error hattest)

lemma changeModel_notAttested {reason : String} {file' : ConfigPath}
    (hattest : attestOpenclawModelChange outside.contracts outside.attestAfterSet left =
      (.ok (false, reason), file')) :
    changeModel limit outside recoverUnverifiedCurrent newRef p file =
      (.error (.candidateFailed reason
        (Rollback.of (rollbackCandidate outside recoverUnverifiedCurrent p file').1)),
        (rollbackCandidate outside recoverUnverifiedCurrent p file').2) := by
  refine (Tx.bind_of_ok (uncaught_of_ok hset)).trans ?_
  refine (Tx.bind_of_ok (uncaught_of_ok (congrArg (·, left) hread))).trans ?_
  refine (Tx.bind_of_ok (uncaught_of_ok hattest)).trans ?_
  exact Tx.bind_of_ok (caught_eq _ _)

lemma changeModel_diffRaised {reason : String} {file' : ConfigPath} {exc : Raised}
    (hattest : attestOpenclawModelChange outside.contracts outside.attestAfterSet left =
      (.ok (true, reason), file')) (hdiff : outside.diff p.before after = .error exc) :
    changeModel limit outside recoverUnverifiedCurrent newRef p file =
      (.error (.other exc), file') := by
  refine (Tx.bind_of_ok (uncaught_of_ok hset)).trans ?_
  refine (Tx.bind_of_ok (uncaught_of_ok (congrArg (·, left) hread))).trans ?_
  refine (Tx.bind_of_ok (uncaught_of_ok hattest)).trans ?_
  exact Tx.bind_of_error (uncaught_of_error (congrArg (·, file') hdiff))

lemma changeModel_changed {reason : String} {file' : ConfigPath} {lines : List String}
    (hattest : attestOpenclawModelChange outside.contracts outside.attestAfterSet left =
      (.ok (true, reason), file')) (hdiff : outside.diff p.before after = .ok lines) :
    changeModel limit outside recoverUnverifiedCurrent newRef p file =
      (.ok ⟨p.path, lines, p.previousRef, newRef, p.source, p.container ++ ":" ++ p.method⟩,
        file') := by
  refine (Tx.bind_of_ok (uncaught_of_ok hset)).trans ?_
  refine (Tx.bind_of_ok (uncaught_of_ok (congrArg (·, left) hread))).trans ?_
  refine (Tx.bind_of_ok (uncaught_of_ok hattest)).trans ?_
  exact Tx.bind_of_ok (uncaught_of_ok (congrArg (·, file') hdiff))

end runs

omit [FloatData] in
/-- An error that says nothing of a rollback is honest on the verified file only. -/
lemma honest_other {snapshot : Snapshot} {exc : Raised} {file : ConfigPath} :
    Honest snapshot (.error (.other exc), file) ↔ file = .file snapshot := by
  simp [Honest, ChangeRaised.rollback?]

omit [FloatData] in
/-- An error that says that a rollback failed is honest; one that says that it did not is, on the
verified file. -/
lemma honest_rollback {snapshot : Snapshot} {e : ChangeRaised}
    {x : Except Raised Rollback × ConfigPath} (he : e.rollback? = some (Rollback.of x.1))
    (hx : ∀ rollback file', x = (.ok rollback, file') →
      rollback = .notNeeded ∨ rollback = .restored) :
    Honest snapshot (.error e, x.2) ↔ ∀ rollback, x.1 = .ok rollback → x.2 = .file snapshot := by
  obtain ⟨result, file⟩ := x
  unfold Honest
  dsimp only at he ⊢
  rw [he]
  cases result with
  | error exc => simp [Rollback.of]
  | ok rollback =>
      rcases hx rollback file rfl with rfl | rfl
      · simp [Rollback.of]
      · simp [Rollback.of]

omit [FloatData] in
/-- On the verified file every error is honest. -/
lemma honest_of_kept (snapshot : Snapshot) (e : ChangeRaised) :
    Honest snapshot (.error e, .file snapshot) := ⟨.inl rfl, fun _ => rfl⟩

omit [FloatData] in
/-- An honest error that says that no rollback was needed is one on the verified file. -/
lemma kept_of_honest {snapshot : Snapshot} {e : ChangeRaised} {file : ConfigPath}
    (h : Honest snapshot (.error e, file)) (he : e.rollback? = some .notNeeded) :
    file = .file snapshot := h.2 (.inl he)

lemma rollbackPartial_says {file file' : ConfigPath} {rollback : Rollback}
    (h : rollbackPartial limit outside recoverUnverifiedCurrent p file = (.ok rollback, file')) :
    rollback = .notNeeded ∨ rollback = .restored := by
  obtain ⟨part, -, ⟨-, hsays, -⟩ | ⟨-, hcandidate⟩⟩ := rollbackPartial_ok.mp h
  · exact .inl hsays
  · exact .inr (rollbackCandidate_ok.mp hcandidate).1

/-- A gap makes an error dishonest. -/
lemma not_honest_of_gap {newRef : Text} {file : ConfigPath}
    (h : Gap limit outside recoverUnverifiedCurrent p file) :
    ¬ Honest p.verifiedSnapshot
      (changeModel limit outside recoverUnverifiedCurrent newRef p file) := by
  cases h with
  | setRaised hset hleft =>
      rw [changeModel_setRaised hset, honest_other]
      exact hleft
  | unreadable hset hread hleft =>
      rw [changeModel_unreadable hset hread, honest_other]
      exact hleft
  | attestRaised hset hread hattest hleft =>
      rw [changeModel_attestRaised hset hread hattest, honest_other]
      exact hleft
  | diffRaised hset hread hattest hdiff hleft =>
      rw [changeModel_diffRaised hset hread hattest hdiff, honest_other]
      exact hleft
  | sameJson hset hread hsame haccepted hleft =>
      have hrun := rollbackPartial_ok.mpr ⟨_, hread, .inl ⟨hsame, rfl, haccepted⟩⟩
      rw [changeModel_setFailed hset, honest_rollback rfl fun _ _ => rollbackPartial_says]
      intro hhonest
      exact hleft ((congrArg Prod.snd hrun).symm.trans (hhonest _ (congrArg Prod.fst hrun)))
  | attestedPartial hset hread hdiffers hrestored haccepted hleft =>
      have hrun := rollbackPartial_ok.mpr ⟨_, hread, .inr ⟨hdiffers,
        rollbackCandidate_ok.mpr ⟨rfl, hrestored, haccepted⟩⟩⟩
      rw [changeModel_setFailed hset, honest_rollback rfl fun _ _ => rollbackPartial_says]
      intro hhonest
      exact hleft ((congrArg Prod.snd hrun).symm.trans (hhonest _ (congrArg Prod.fst hrun)))
  | attestedCandidate hset hread hattest hrestored haccepted hleft =>
      have hrun := rollbackCandidate_ok.mpr ⟨rfl, hrestored, haccepted⟩
      rw [changeModel_notAttested hset hread hattest,
        honest_rollback rfl fun _ _ h => .inr (rollbackCandidate_ok.mp h).1]
      intro hhonest
      exact hleft ((congrArg Prod.snd hrun).symm.trans (hhonest _ (congrArg Prod.fst hrun)))

/-- Without a gap every error is honest. -/
lemma honest_of_not_gap {newRef : Text} {file : ConfigPath}
    (h : ¬ Gap limit outside recoverUnverifiedCurrent p file) :
    Honest p.verifiedSnapshot
      (changeModel limit outside recoverUnverifiedCurrent newRef p file) := by
  obtain ⟨result, left, hset⟩ : ∃ result left,
      runOpenclawModelsSet outside.modelsSet file = (result, left) := ⟨_, _, rfl⟩
  match result, hset with
  | .error exc, hset =>
      rw [changeModel_setRaised hset, honest_other]
      by_contra hleft
      exact h (.setRaised hset hleft)
  | .ok (false, detail), hset =>
      rw [changeModel_setFailed hset, honest_rollback rfl fun _ _ => rollbackPartial_says]
      intro rollback hresult
      obtain ⟨part, hread, ⟨hsame, -, haccepted⟩ | ⟨hdiffers, hcandidate⟩⟩ :=
        rollbackPartial_ok.mp (Prod.ext hresult rfl)
      · by_contra hleft
        exact h (.sameJson hset hread hsame haccepted hleft)
      · obtain ⟨-, hrestored, haccepted⟩ := rollbackCandidate_ok.mp hcandidate
        by_contra hleft
        exact h (.attestedPartial hset hread hdiffers hrestored haccepted hleft)
  | .ok (true, detail), hset =>
      cases hread : readOpenclawConfig limit p.path outside.readAfterSet left with
      | error exc =>
          rw [changeModel_unreadable hset hread, honest_other]
          by_contra hleft
          exact h (.unreadable hset hread hleft)
      | ok after =>
          obtain ⟨attested, file', hattest⟩ : ∃ attested file',
              attestOpenclawModelChange outside.contracts outside.attestAfterSet left =
                (attested, file') := ⟨_, _, rfl⟩
          match attested, hattest with
          | .error exc, hattest =>
              rw [changeModel_attestRaised hset hread hattest, honest_other]
              by_contra hleft
              exact h (.attestRaised hset hread hattest hleft)
          | .ok (false, reason), hattest =>
              rw [changeModel_notAttested hset hread hattest,
                honest_rollback rfl fun _ _ h => .inr (rollbackCandidate_ok.mp h).1]
              intro rollback hresult
              obtain ⟨-, hrestored, haccepted⟩ := rollbackCandidate_ok.mp (Prod.ext hresult rfl)
              by_contra hleft
              exact h (.attestedCandidate hset hread hattest hrestored haccepted hleft)
          | .ok (true, reason), hattest =>
              cases hdiff : outside.diff p.before after with
              | error exc =>
                  rw [changeModel_diffRaised hset hread hattest hdiff, honest_other]
                  by_contra hleft
                  exact h (.diffRaised hset hread hattest hdiff hleft)
              | ok lines =>
                  rw [changeModel_changed hset hread hattest hdiff]
                  exact trivial

omit [FloatData] in
/-- The command is invoked on the verified file. -/
lemma prepare_ok {slot : String} {start file : ConfigPath}
    (h : prepare limit outside slot recoverUnverifiedCurrent start = (.ok p, file)) :
    file = .file p.verifiedSnapshot := by
  unfold prepare at h
  obtain ⟨gateway, _, -, h⟩ := Tx.bind_ok.mp h
  cases hcontainer : gateway.1 with
  | none =>
      rw [hcontainer] at h
      cases h
  | some container =>
      rw [hcontainer] at h
      simp only [Tx.bind_ok, Tx.readsOrRaise_ok, Tx.ofExcept_ok, Tx.require_ok, Tx.pure_ok] at h
      obtain ⟨path, _, -, before, _, -, first, _, -, attested, _, -, _, _, -, _, _, -, verified, _,
        ⟨hcapture, rfl⟩, _, _, ⟨-, rfl⟩, rfl, rfl⟩ := h
      unfold captureOpenclawConfigSnapshot at hcapture
      split at hcapture
      · cases hcapture
      · cases hcapture
        rfl
      · cases hcapture

end gaps

/-! ## A file that is written anew -/

section samples

attribute [local instance] FloatData.zero
attribute [local irreducible] Honest

/-- The verified file. -/
def verifiedFile : Snapshot := ⟨utf8 "\x7b\x7d".toList, 1000, 1000, 0o600⟩

/-- The same JSON with a space in it, for everyone to read. -/
def rewrittenFile : Snapshot := ⟨utf8 "\x7b \x7d".toList, 1000, 1000, 0o644⟩

/-- A config with a model in it. -/
def halfDoneFile : Snapshot := ⟨utf8 "\x7b\"agents\": 1\x7d".toList, 1000, 1000, 0o600⟩

/-- An attestation that accepts, and changes nothing. -/
def accepting : Attestation where
  validate := ⟨.ok (true, "valid"), id⟩
  selftest := ⟨.ok [⟨true, "selftest_contract_ok", none⟩], id⟩

/-- A `models set` that fails and leaves a file behind. -/
def failing (left : Snapshot) : Outside where
  gateway := .ok (some "gateway", "label")
  configPath := .ok "/home/a/.openclaw/openclaw.json"
  contracts := true
  readBefore := none
  captureBefore := none
  attestBefore := accepting
  captureVerified := none
  modelsSet _ := ⟨.ok ⟨1, "", "failed"⟩, fun _ => .file left⟩
  readAfterSet := none
  comparison := none
  attestAfterSet := accepting
  restore := none
  attestAfterRestore := accepting
  diff _ _ := .ok []

/-- What is prepared. -/
def preparedSample : Prepared where
  container := "gateway"
  method := "label"
  path := "/home/a/.openclaw/openclaw.json"
  before := .obj []
  verifiedSnapshot := verifiedFile
  previousRef := []
  source := .missing

lemma read_of_loads {path : String} {f : Snapshot} {fields : List (List Nat × Scanned)}
    (h : loadsText 100 f.content = .ok (.obj fields)) :
    readOpenclawConfig 100 path none (.file f) = .ok (.obj fields) := by
  unfold readOpenclawConfig ConfigPath.resolved
  dsimp only
  rw [h]
  rfl

/-- The values of the three files, as far as the sample needs them. -/
def fieldCount : Except Raised Scanned → Option Nat
  | .ok (.obj fields) => some fields.length
  | _ => none

/-- Decoding gives back what was encoded. -/
lemma fieldCount_loads {text : List Char} {n : Nat}
    (h : (match scan false 100 text with
      | .ok (.obj fields) => some fields.length
      | _ => none) = some n) : fieldCount (loadsText 100 (utf8 text)) = some n := by
  unfold loadsText
  rw [decodeUtf8?_utf8]
  dsimp only
  revert h
  cases scan false 100 text with
  | ok value =>
      cases value with
      | obj fields => exact id
      | _ => nofun
  | error e => nofun

lemma loads_of_fieldCount {x : Except Raised Scanned} {n : Nat} (h : fieldCount x = some n) :
    ∃ fields, fields.length = n ∧ x = .ok (.obj fields) := by
  unfold fieldCount at h
  split at h
  · exact ⟨_, Option.some.inj h, rfl⟩
  · cases h

lemma prepared_sample (left : Snapshot) :
    prepare 100 (failing left) "a" false (.file verifiedFile) =
      (.ok preparedSample, .file verifiedFile) := by
  have hcount : fieldCount (loadsText 100 verifiedFile.content) = some 0 :=
    fieldCount_loads (by decide +kernel)
  obtain ⟨fields, hlen, hloads⟩ := loads_of_fieldCount hcount
  obtain rfl := List.length_eq_zero_iff.mp hlen
  refine (Tx.bind_of_ok rfl).trans ?_
  refine (Tx.bind_of_ok rfl).trans ?_
  refine (Tx.bind_of_ok (Tx.readsOrRaise_ok.mpr ⟨read_of_loads hloads, rfl⟩)).trans ?_
  rfl

/-- The error of a sample, and the file it leaves. -/
lemma sampleRun_eq {left : Snapshot} {rollback : Rollback} {file : ConfigPath}
    (h : rollbackPartial 100 (failing left) false preparedSample (.file left) =
      (.ok rollback, file)) :
    ∃ detail, setModelOpenclaw 100 (failing left) "a" false [] [] (.file verifiedFile) =
      (.error (.setFailed "gateway" detail rollback), file) := by
  obtain ⟨detail, hset⟩ : ∃ detail, runOpenclawModelsSet (failing left).modelsSet
      (.file verifiedFile) = (.ok (false, detail), .file left) := ⟨_, rfl⟩
  refine ⟨detail, (Tx.bind_of_ok (uncaught_of_ok (prepared_sample left))).trans ?_⟩
  rw [changeModel_setFailed hset, h]
  rfl

lemma accepted_sample (left : Snapshot) (file : ConfigPath) :
    Accepted (failing left) false file file := by
  rfl

lemma restored_sample (left : Snapshot) :
    (restoreOpenclawConfigSnapshot preparedSample.path (failing left).restore
      preparedSample.verifiedSnapshot (.file left)).1 = .ok () := by
  rfl

end samples

end AgentRuntimeOps.Runtime.ModelSet
