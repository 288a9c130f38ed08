import AgentRuntimeOps.Lib.Checks
import AgentRuntimeOps.Lib.Json
import AgentRuntimeOps.Lib.Sha256

/-!
# The activation transaction of the installer

`scripts/activation_transaction.py`: six managed file system entries are replaced as a group under
a transaction directory that records the baseline and the candidate of each.  This module has the
paths, the file system and the manifest.

The file system maps the components of a path to what `lstat` finds there; the transaction
directory and the candidate directory are kept apart, because no managed entry may overlap them.
`manifest.json` is kept as the value it encodes; the length of its text is that of
`json.dumps(value, sort_keys=True, separators=(",", ":"), ensure_ascii=True) + "\n"`.
-/

namespace AgentRuntimeOps.Activation

open AgentRuntimeOps.Lib

/-- What the functions raise. -/
inductive Raised where
  /-- `TransactionError` -/
  | transaction (message : String)
  /-- An `OSError`. -/
  | os (detail : String)
  deriving DecidableEq, Repr

/-- `_fail`, unless the condition holds. -/
def check (condition : Prop) [Decidable condition] (message : String) : Except Raised Unit :=
  require condition (.transaction message)

@[simp] lemma check_ok {condition : Prop} [Decidable condition] {message : String} {u : Unit} :
    check condition message = .ok u ↔ condition := require_ok

lemma check_of {condition : Prop} [Decidable condition] {message : String} (h : condition) :
    check condition message = .ok () := check_ok.mpr h

/-! ## Paths -/

/-- The name of a directory entry. -/
abbrev Name : Type := List Char

/-- An absolute path.  POSIX lets a path begin with two slashes; `os.path.abspath` and `Path` keep
them, and the kernel does not see the difference. -/
structure Path where
  doubled : Bool
  parts : List Name
  deriving DecidableEq, Repr

/-- Split a text at its slashes. -/
def splitSlash : List Char → List Name
  | [] => [[]]
  | c :: cs =>
      match splitSlash cs with
      | [] => [[c]]
      | part :: parts => if c = '/' then [] :: part :: parts else (c :: part) :: parts

/-- A component that `os.path.abspath` keeps. -/
def isPart (part : Name) : Bool := part != [] && part != ['.'] && part != ['.', '.']

/-- The path of a canonical text after its leading slashes. -/
def Path.ofRest? (doubled : Bool) (rest : List Char) : Option Path :=
  if rest = [] then some { doubled := doubled, parts := [] }
  else if (splitSlash rest).all isPart then some { doubled := doubled, parts := splitSlash rest }
  else none

/-- The path whose text is canonical, that is a fixed point of `os.path.abspath`. -/
def Path.ofText? : List Char → Option Path
  | '/' :: '/' :: rest => Path.ofRest? true rest
  | '/' :: rest => Path.ofRest? false rest
  | _ => none

/-- The text of a path. -/
def Path.text (p : Path) : List Char :=
  (if p.doubled then ['/', '/'] else ['/']) ++ ['/'].intercalate p.parts

/-- A control character. -/
def isControl (c : Char) : Bool := c.toNat < 32 || c.toNat == 127

/-- `_safe_absolute`. -/
def safeAbsolute (value : List Char) (whereText : String) : Except Raised Path := do
  check (value.head? = some '/') (whereText ++ ": absolute path required")
  check (!value.any isControl) (whereText ++ ": control characters are forbidden")
  orRaise (Path.ofText? value)
    (.transaction (whereText ++ ": canonical absolute path required"))

namespace Path

/-- `path.parent`. -/
def parent (p : Path) : Path := { p with parts := p.parts.dropLast }

/-- `path.name`. -/
def name (p : Path) : Name := p.parts.getLast?.getD []

/-- `path / name`. -/
def child (p : Path) (name : Name) : Path := { p with parts := p.parts ++ [name] }

/-- `Path(f"{path}{suffix}")`. -/
def suffixed (p : Path) (suffix : Name) : Path :=
  { p with parts := p.parts.dropLast ++ [p.name ++ suffix] }

/-- Equal, or one of them is a parent of the other. -/
def overlaps (p q : Path) : Bool :=
  p.doubled == q.doubled && (p.parts.isPrefixOf q.parts || q.parts.isPrefixOf p.parts)

end Path

/-- `_temp_path`. -/
def tempPath (p : Path) : Path := p.suffixed ".agent-runtime-activation-next".toList

/-! ## Identities -/

/-- `ALL_IDENTITY_NAMES`. -/
inductive Identity where
  | opsctl
  | mcp
  | gemini
  | manifest
  | current
  | broker
  deriving DecidableEq, Repr

namespace Identity

/-- `ENTRY_NAMES`. -/
def entryNames : List Identity := [opsctl, mcp, gemini, manifest, current]

/-- `REGULAR_NAMES`. -/
def regularNames : List Identity := [opsctl, mcp, gemini]

/-- `SYMLINK_NAMES`. -/
def symlinkNames : List Identity := [manifest, current]

/-- `ALL_IDENTITY_NAMES`. -/
def all : List Identity := entryNames ++ [broker]

/-- The entries that have payloads. -/
def payloadNames : List Identity := regularNames ++ [broker]

/-- The name of the identity. -/
def text : Identity → String
  | opsctl => "opsctl"
  | mcp => "mcp"
  | gemini => "gemini"
  | manifest => "manifest"
  | current => "current"
  | broker => "broker"

/-- Where the identities of the entry stand in the manifest. -/
def field : Identity → String
  | broker => "broker"
  | e => "entries." ++ e.text

/-- Whether the entry is a symbolic link. -/
def isSymlink : Identity → Bool
  | manifest => true
  | current => true
  | _ => false

end Identity

/-- The identity of an entry: what is recorded of it in the manifest. -/
inductive Meta where
  | absent
  | regular (sha256 : List Char) (bytes mode uid gid nlink : Nat)
  | symlink (target : List Char) (mode uid gid nlink : Nat)
  deriving DecidableEq, Repr

/-- The kind of an identity. -/
inductive Kind where
  | absent
  | regular
  | symlink
  deriving DecidableEq, Repr

/-- `identity["kind"]`. -/
def Meta.kind : Meta → Kind
  | absent => .absent
  | regular .. => .regular
  | symlink .. => .symlink

/-- `BROKER_STATES`. -/
inductive BrokerState where
  | active
  | inactive
  | absent
  | unavailable
  deriving DecidableEq, Repr

/-- The name of the state. -/
def BrokerState.text : BrokerState → String
  | active => "active"
  | inactive => "inactive"
  | absent => "absent"
  | unavailable => "unavailable"

/-- The manifest of a transaction.  The path, the baseline and the candidate of the broker unit
stand under `manifest["broker"]`. -/
structure Manifest where
  candidateCommit : List Char
  candidateRelease : Path
  previousRelease : Option Path
  opsGid : Nat
  path : Identity → Path
  baseline : Identity → Meta
  candidate : Identity → Meta
  serviceName : List Char
  state : BrokerState

/-! ## The text of the manifest -/

/-- A text as a JSON string. -/
def jsonText (text : List Char) : Json := .str (String.ofList text)

/-- A number. -/
def jsonNat (n : Nat) : Json := .int n

/-- The JSON object of an identity. -/
def Meta.json : Meta → Json
  | absent => .obj [("kind", .str "absent")]
  | regular sha256 bytes mode uid gid nlink => .obj
      [("bytes", jsonNat bytes), ("gid", jsonNat gid), ("kind", .str "regular"),
        ("mode", jsonNat mode), ("nlink", jsonNat nlink), ("sha256", jsonText sha256),
        ("uid", jsonNat uid)]
  | symlink target mode uid gid nlink => .obj
      [("gid", jsonNat gid), ("kind", .str "symlink"), ("mode", jsonNat mode),
        ("nlink", jsonNat nlink), ("target", jsonText target), ("uid", jsonNat uid)]

/-- The JSON object of a manifest. -/
def Manifest.json (m : Manifest) : Json :=
  .obj
    [("broker", .obj
        [("baseline", (m.baseline .broker).json), ("candidate", (m.candidate .broker).json),
          ("service_name", jsonText m.serviceName), ("state", .str m.state.text),
          ("unit_path", jsonText (m.path .broker).text)]),
      ("candidate_commit", jsonText m.candidateCommit),
      ("candidate_release", jsonText m.candidateRelease.text),
      ("entries", .obj ([Identity.current, .gemini, .manifest, .mcp, .opsctl].map fun e =>
        (e.text, .obj [("baseline", (m.baseline e).json), ("candidate", (m.candidate e).json)]))),
      ("ops_gid", jsonNat m.opsGid),
      ("paths", .obj ([Identity.current, .gemini, .manifest, .mcp, .opsctl].map fun e =>
        (e.text, jsonText (m.path e).text))),
      ("phase", .str "publishing"),
      ("previous_release", (m.previousRelease.map fun p => jsonText p.text).getD .null),
      ("schema", .str "agent-runtime-ops-activation-transaction/v1")]

/-- The length of `_manifest_bytes`. -/
def Manifest.size (m : Manifest) : Nat := m.json.dumpsAscii.length + 1

/-! ## The file system -/

/-- The permissions, the owner and the link count of an entry. -/
structure Attr where
  mode : Nat
  uid : Nat
  gid : Nat
  nlink : Nat
  deriving DecidableEq, Repr

/-- A regular file. -/
structure FileNode where
  data : List UInt8
  attr : Attr
  deriving DecidableEq, Repr

/-- What `lstat` finds.  The mode of a symbolic link is `0777` on Linux. -/
inductive Node where
  | file (file : FileNode)
  | symlink (target : List Char) (uid gid nlink : Nat)
  | dir (attr : Attr)
  | other
  deriving DecidableEq, Repr

/-- The candidate directory. -/
structure CandidateDir where
  attr : Attr
  files : List (Name × FileNode)

/-- The two identities of an entry. -/
inductive Variant where
  | baseline
  | candidate
  deriving DecidableEq, Repr

/-- The name of the variant. -/
def Variant.text : Variant → String
  | baseline => "baseline"
  | candidate => "candidate"

/-- The names in a transaction directory, `manifest.json` apart: a payload `{variant}-{entry}`, the
recovery marker `recovered`, or any other name. -/
inductive TxName where
  | payload (variant : Variant) (e : Identity)
  | recovered
  | other (name : Name)
  deriving DecidableEq, Repr

/-- The transaction directory: `manifest.json`, the payloads, and the recovery marker. -/
structure TxDir where
  attr : Attr
  manifest : Manifest
  manifestAttr : Attr
  files : List (TxName × FileNode)

/-- The file system.  `taken` says that the staging path or a completion path of the transaction
exists. -/
structure Fs where
  node : List Name → Option Node
  candidate : Option CandidateDir
  pending : Option TxDir
  taken : Bool

/-- The process and the file system it runs on: the group of new files, the umask, and the link
count of a directory without subdirectories (2, but 1 on btrfs). -/
structure Machine where
  euid : Nat
  egid : Nat
  umask : Nat
  dirLinks : Nat

/-- `MAX_WRAPPER_BYTES`. -/
def maxWrapperBytes : Nat := 256 * 1024

/-- `MAX_MANIFEST_BYTES`. -/
def maxManifestBytes : Nat := 256 * 1024

/-- Follow the symbolic links of a path: the components that are resolved, and those that are
left. -/
def Fs.resolve (fs : Fs) : Nat → List Name → List Name → List Name
  | 0, done, rest => done ++ rest
  | _, done, [] => done
  | fuel + 1, done, part :: rest =>
      if part = [] ∨ part = ['.'] then fs.resolve fuel done rest
      else if part = ['.', '.'] then fs.resolve fuel done.dropLast rest
      else
        match fs.node (done ++ [part]) with
        | some (.symlink target _ _ _) =>
            if target.head? = some '/' then fs.resolve fuel [] (splitSlash target ++ rest)
            else fs.resolve fuel done (splitSlash target ++ rest)
        | _ => fs.resolve fuel (done ++ [part]) rest

/-- `os.path.realpath`.  The number of steps is bounded, as that of the kernel is. -/
def Fs.realpath (fs : Fs) (p : Path) : Path :=
  { doubled := false, parts := fs.resolve 1000 [] p.parts }

/-- `os.lstat`: symbolic links above the entry are followed. -/
def Fs.lstat (fs : Fs) (p : Path) : Except Raised Node :=
  let above := fs.resolve 1000 [] p.parts.dropLast
  orRaise (fs.node (above ++ p.parts.getLast?.toList)) (.os "No such file or directory")

/-- `_read_bounded` of a file. -/
def FileNode.readBounded (f : FileNode) (limit : Nat) : Except Raised (List UInt8) := do
  check (f.attr.nlink = 1) "regular single-link file required"
  check (f.data.length ≤ limit) "file exceeds the limit"
  return f.data

/-- Two lists hold the same names. -/
def sameNames {α : Type} [BEq α] (a b : List α) : Bool := a.all b.contains && b.all a.contains

/-- The arguments of the commands. -/
structure Args where
  transactionDir : List Char
  opsGid : Int
  link : Identity → List Char
  installRoot : List Char
  releasesDir : List Char
  candidateDir : List Char
  candidateRelease : List Char
  candidateCommit : List Char
  previousRelease : List Char
  brokerServiceName : List Char
  brokerState : Option BrokerState

end AgentRuntimeOps.Activation
