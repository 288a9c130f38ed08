import AgentRuntimeOps.Lib.Checks
import AgentRuntimeOps.Lib.Crash

/-!
# The staged output of a dev source

`domain/dev_recipe_runtime.py`: `sync_dev_source_output` copies a dist next to the staged output of
a slot and a recipe, carries the dashboard over where the dist is `--runtime-only`, moves the old
output away and the new one in.  The names of the copy and of the old output have the id of the
process in them.

The recipe name is one that `validate_safe_name` accepts, so the three names are different entries
of the stage root.  A directory tree is the list of its entries in the order of a walk, a directory
before what is in it; what lies behind a link is listed where the walk would find it.  The dist is
not below the stage root and does not change while it is copied.
-/

namespace AgentRuntimeOps.Runtime.DevSource

open AgentRuntimeOps.Lib

/-! ## Trees -/

/-- A path below the top of a tree; the top itself is `[]`. -/
abbrev RelPath := List String

/-- What `stat` finds; a block is what one write puts in a file. -/
inductive Kind where
  | file (blocks : List (List UInt8))
  | dir
  /-- A link to nothing, or a special file. -/
  | unreadable
  deriving DecidableEq, Repr

/-- `is_file` -/
def Kind.isFile : Kind → Bool
  | file _ => true
  | _ => false

/-- Owner, group and mode. -/
structure Attributes where
  uid : Nat
  gid : Nat
  mode : Nat
  deriving DecidableEq, Repr

/-- An entry of a tree. -/
structure Entry where
  kind : Kind
  link : Bool
  attributes : Attributes
  deriving DecidableEq, Repr

/-- What a process of root creates. -/
def Entry.created (kind : Kind) : Entry := ⟨kind, false, ⟨0, 0, 0o755⟩⟩

/-- A directory tree. -/
abbrev Tree := List (RelPath × Entry)

namespace Tree

/-- `is_file` of a path -/
def isFile (tree : Tree) (path : RelPath) : Bool :=
  tree.any fun item => item.1 == path && item.2.kind.isFile

/-- `exists` of a path: a link that leads nowhere does not exist. -/
def present (tree : Tree) (path : RelPath) : Bool :=
  tree.any fun item => item.1 == path && item.2.kind != .unreadable

/-- The path is an entry. -/
def has (tree : Tree) (path : RelPath) : Bool := tree.any (·.1 == path)

/-- `is_symlink` of a path -/
def isLink (tree : Tree) (path : RelPath) : Bool :=
  tree.any fun item => item.1 == path && item.2.link

/-- The entry lies behind a link. -/
def behindLink (tree : Tree) (path : RelPath) : Bool :=
  tree.any fun item => item.2.link && item.1.isPrefixOf path && item.1 != path

/-- What is below a path, seen from there. -/
def below (tree : Tree) (path : RelPath) : Tree :=
  tree.filterMap fun item =>
    if path.isPrefixOf item.1 then some (item.1.drop path.length, item.2) else none

/-- A new entry. -/
def add (tree : Tree) (path : RelPath) (entry : Entry) : Tree := tree ++ [(path, entry)]

/-- A change of an entry. -/
def change (tree : Tree) (path : RelPath) (f : Entry → Entry) : Tree :=
  tree.map fun item => if item.1 = path then (item.1, f item.2) else item

/-- An entry is gone, with what was seen behind it. -/
def remove (tree : Tree) (path : RelPath) : Tree := tree.filter fun item => !path.isPrefixOf item.1

end Tree

/-! ## The stage -/

/-- The entries of the stage root that a sync names. -/
inductive Name where
  | dest
  | tmp (pid : Nat)
  | backup (pid : Nat)
  deriving DecidableEq, Repr

/-- What an entry of the stage root is. -/
inductive Place where
  | tree (entries : Tree)
  | file
  /-- A link: whether it resolves to a path below the stage root, and what it leads to. -/
  | link (inside : Bool) (target : Option Tree)
  deriving DecidableEq, Repr

/-- What is seen at a place; a regular file has no entries. -/
def Place.seen : Place → Tree
  | tree entries => entries
  | file => []
  | link _ target => target.getD []

/-- The stage root itself. -/
inductive Root where
  | absent
  | directory (attributes : Attributes)
  /-- A link, and whether it leads to a directory. -/
  | link (leads : Bool)
  deriving DecidableEq, Repr

/-- The stage of a slot, and the ids of its runtime. -/
structure Stage where
  root : Root
  /-- Owner of the runtime and group of the data; `none` if the accounts are missing. -/
  ids : Option (Nat × Nat)
  places : Name → Option Place

/-- What raises. -/
inductive SyncRaised where
  | osError
  /-- `shutil.Error` -/
  | copyError
  | keyError
  | valueError (message : String)
  deriving DecidableEq, Repr

namespace Stage

/-- What is seen at a name. -/
def seen (s : Stage) (name : Name) : Tree := ((s.places name).map Place.seen).getD []

/-- A place is changed. -/
def put (s : Stage) (name : Name) (place : Option Place) : Stage :=
  { s with places := Function.update s.places name place }

end Stage

/-! ## Operations -/

/-- The steps of the file system. -/
inductive Op where
  | runtimeIds
  | rootExists
  | rootIsLink
  | mkdirRoot
  | chownRoot (uid gid : Nat)
  | chmodRoot (mode : Nat)
  | resolvesInside (name : Name)
  /-- `exists` -/
  | present (name : Name) (path : RelPath)
  | isFile (name : Name) (path : RelPath)
  | isLink (name : Name) (path : RelPath)
  /-- What a walk finds; one that does not follow links does not look behind them. -/
  | list (name : Name) (path : RelPath) (follow : Bool)
  | mkdir (name : Name) (path : RelPath)
  /-- `open(…, "wb")` -/
  | create (name : Name) (path : RelPath)
  | append (name : Name) (path : RelPath) (block : List UInt8)
  | chown (name : Name) (path : RelPath) (uid gid : Nat)
  | chmod (name : Name) (path : RelPath) (mode : Nat)
  /-- `unlink` and `rmdir` -/
  | remove (name : Name) (path : RelPath)
  | replace (source target : Name)
  deriving DecidableEq, Repr

/-- The answers. -/
abbrev Op.Res : Op → Type
  | .runtimeIds => Nat × Nat
  | .rootExists | .rootIsLink | .resolvesInside _ | .present .. | .isFile .. | .isLink .. => Bool
  | .list .. => Tree
  | _ => Unit

namespace Stage

/-- A change of the tree at a name; `OSError` where there is none. -/
def inTree (s : Stage) (name : Name) (f : Tree → Option Tree) : Except SyncRaised Unit × Stage :=
  match s.places name with
  | some (.tree entries) =>
      match f entries with
      | some entries' => (.ok (), s.put name (some (.tree entries')))
      | none => (.error .osError, s)
  | _ => (.error .osError, s)

/-- `mkdir`: the top of a tree is a place of its own. -/
def mkdir (s : Stage) (name : Name) (path : RelPath) : Except SyncRaised Unit × Stage :=
  if path = [] then
    match s.places name with
    | none => (.ok (), s.put name (some (.tree [([], .created .dir)])))
    | some _ => (.error .osError, s)
  else s.inTree name fun entries =>
    if entries.has path then none else some (entries.add path (.created .dir))

/-- `open(…, "wb")`: a file that exists is emptied. -/
def create (s : Stage) (name : Name) (path : RelPath) : Except SyncRaised Unit × Stage :=
  s.inTree name fun entries =>
    if entries.isFile path then
      some (entries.change path fun entry => { entry with kind := .file [] })
    else if entries.has path then none
    else some (entries.add path (.created (.file [])))

/-- One write at the end of a file. -/
def appendBlock (block : List UInt8) (entry : Entry) : Entry :=
  match entry.kind with
  | .file blocks => { entry with kind := .file (blocks ++ [block]) }
  | _ => entry

/-- `unlink` and `rmdir`. -/
def removeEntry (s : Stage) (name : Name) (path : RelPath) : Except SyncRaised Unit × Stage :=
  if path = [] then
    match s.places name with
    | some (.tree [_]) => (.ok (), s.put name none)
    | _ => (.error .osError, s)
  else s.inTree name fun entries => if entries.has path then some (entries.remove path) else none

/-- What is at the target of a `rename` gives way: an empty directory to a directory, and what is no
directory to what is none. -/
def givesWay (place : Place) (target : Option Place) : Bool :=
  match place, target with
  | _, none => true
  | .tree _, some (.tree entries) => entries.length ≤ 1
  | .tree _, some _ => false
  | _, some (.tree _) => false
  | _, some _ => true

/-- `rename` -/
def replace (s : Stage) (source target : Name) : Except SyncRaised Unit × Stage :=
  match s.places source with
  | none => (.error .osError, s)
  | some place =>
      if givesWay place (s.places target) then
        (.ok (), (s.put source none).put target (some place))
      else (.error .osError, s)

/-- A change of the stage root. -/
def atRoot (s : Stage) (f : Root → Option Root) : Except SyncRaised Unit × Stage :=
  match f s.root with
  | some root => (.ok (), { s with root := root })
  | none => (.error .osError, s)

/-- `exists` of a path below a name -/
def present (s : Stage) (name : Name) (path : RelPath) : Bool :=
  if path = [] then
    match s.places name with
    | none => false
    | some (.link _ target) => target.isSome
    | some _ => true
  else (s.seen name).present path

/-- `is_symlink` of a path below a name -/
def isLink (s : Stage) (name : Name) (path : RelPath) : Bool :=
  if path = [] then
    match s.places name with
    | some (.link ..) => true
    | _ => false
  else (s.seen name).isLink path

/-- What a walk from a directory finds. -/
def list (s : Stage) (name : Name) (path : RelPath) (follow : Bool) : Except SyncRaised Tree :=
  if (Tree.below (s.seen name) path).any fun item => item.1 == [] && item.2.kind == .dir then
    .ok (Tree.below ((s.seen name).filter fun item =>
      follow || !(s.seen name).behindLink item.1) path)
  else .error .osError

/-- What an operation does where nothing else goes wrong. -/
def exec : (op : Op) → Stage → Except SyncRaised op.Res × Stage
  | .runtimeIds, s => (orRaise s.ids .keyError, s)
  | .rootExists, s => (.ok (s.root != .absent && s.root != .link false), s)
  | .rootIsLink, s => (.ok (s.root == .link true || s.root == .link false), s)
  | .mkdirRoot, s => s.atRoot fun root =>
      match root with
      | .absent => some (.directory ⟨0, 0, 0o750⟩)
      | .link false => none
      | root => some root
  | .chownRoot uid gid, s => s.atRoot fun root =>
      match root with
      | .directory attributes => some (.directory { attributes with uid := uid, gid := gid })
      | root => some root
  | .chmodRoot mode, s => s.atRoot fun root =>
      match root with
      | .directory attributes => some (.directory { attributes with mode := mode })
      | root => some root
  | .resolvesInside name, s =>
      (.ok (match s.places name with
        | some (.link inside _) => inside
        | _ => true), s)
  | .present name path, s => (.ok (s.present name path), s)
  | .isFile name path, s => (.ok ((s.seen name).isFile path), s)
  | .isLink name path, s => (.ok (s.isLink name path), s)
  | .list name path follow, s => (s.list name path follow, s)
  | .mkdir name path, s => s.mkdir name path
  | .create name path, s => s.create name path
  | .append name path block, s => s.inTree name fun entries =>
      if entries.isFile path then some (entries.change path (appendBlock block)) else none
  | .chown name path uid gid, s => s.inTree name fun entries =>
      if entries.has path then
        some (entries.change path fun entry =>
          { entry with attributes := { entry.attributes with uid := uid, gid := gid } })
      else none
  | .chmod name path mode, s => s.inTree name fun entries =>
      if entries.has path then
        some (entries.change path fun entry =>
          { entry with attributes := { entry.attributes with mode := mode } })
      else none
  | .remove name path, s => s.removeEntry name path
  | .replace source target, s => s.replace source target

/-- What an operation may answer: it does its work, or raises `OSError` and does nothing. -/
def Answers : Program.Answers Op Op.Res SyncRaised Stage := fun s op r s' =>
  (r = (exec op s).1 ∧ s' = (exec op s).2) ∨ (r = .error .osError ∧ s' = s)

end Stage

/-! ## The sync -/

/-- What a sync runs. -/
abbrev Run (α : Type) : Type := Program Op Op.Res SyncRaised α

/-- Perform one operation. -/
abbrev Op.run (op : Op) : Run op.Res := Program.perform op

/-- `RUNTIME_ENTRY_RELPATH` -/
def runtimeEntryRelpath : RelPath := ["index.js"]

/-- `CONTROL_UI_INDEX_RELPATH` -/
def controlUiIndexRelpath : RelPath := ["control-ui", "index.html"]

/-- A dist: where it is and what is in it. -/
structure Dist where
  path : String
  tree : Tree

/-- `dist_halves` -/
def distHalves (source : Dist) : Bool × Bool :=
  (source.tree.isFile runtimeEntryRelpath, source.tree.isFile controlUiIndexRelpath)

/-- `reject_tree_symlinks` -/
def rejectTreeSymlinks (source : Dist) : Except SyncRaised Unit :=
  match source.tree.find? (·.2.link) with
  | some item => .error (.valueError ("source tree must not contain symlinks: " ++
      "/".intercalate (source.path :: item.1)))
  | none => .ok ()

/-- `preflight_dev_dist` -/
def preflightDevDist (source : Dist) (runtimeOnly : Bool) : Except SyncRaised Bool := do
  require (distHalves source).1 (.valueError
    ("--sync-from is not a built runtime dist (missing index.js): " ++ source.path))
  require ((distHalves source).2 ∨ runtimeOnly) (.valueError
    ("control-ui assets missing from dist (control-ui/index.html) — a wholesale sync would" ++
      " destroy the slot's dashboard. Build the UI half (`pnpm -C ui build`) and re-sync the full" ++
      " dist, or pass --runtime-only to update the runtime half while keeping the current control-ui"))
  return (distHalves source).2

/-- `shutil.rmtree`: what is deepest goes first. -/
def rmtree (name : Name) (path : RelPath) : Run Unit := do
  let isLink ← (Op.isLink name path).run
  if isLink then throw .osError
  else
    let entries ← (Op.list name path false).run
    discard <| Program.forEach (fun item : RelPath × Entry => (Op.remove name (path ++ item.1)).run)
      entries.reverse

/-- What is there is removed. -/
def rmtreeIfPresent (name : Name) (path : RelPath) : Run Unit := do
  let present ← (Op.present name path).run
  if present then rmtree name path else return ()

/-- `shutil.copy2` -/
def copy2 (name : Name) (path : RelPath) (blocks : List (List UInt8)) (mode : Nat) : Run Unit := do
  (Op.create name path).run
  discard <| Program.forEach (fun block => (Op.append name path block).run) blocks
  (Op.chmod name path mode).run

/-- What copies one entry. -/
def copyItem (name : Name) (path : RelPath) (item : RelPath × Entry) : Run Unit :=
  match item.2.kind with
  | .dir => (Op.mkdir name (path ++ item.1)).run
  | .file blocks => copy2 name (path ++ item.1) blocks item.2.attributes.mode
  | .unreadable => throw .osError

/-- Whether a step of a copy succeeds; what it raises is kept for the end. -/
def attempted (step : Run Unit) : Run Bool :=
  tryCatch (do step; return true) fun _ => return false

/-- `shutil.copytree` without `symlinks`; the mode of a directory is set once it is filled. -/
def copytree (source : Tree) (name : Name) (path : RelPath) : Run Unit := do
  (Op.mkdir name path).run
  let copied ← Program.forEach (fun item => attempted (copyItem name path item))
    (source.filter (·.1 ≠ []))
  let stamped ← Program.forEach (fun item : RelPath × Entry =>
    attempted (Op.chmod name (path ++ item.1) item.2.attributes.mode).run)
    (source.filter (·.2.kind = .dir))
  if (copied ++ stamped).all id then return () else throw .copyError

/-- `merge_preserved_control_ui` -/
def mergePreservedControlUi (pid : Nat) : Run Bool := do
  let inTmp ← (Op.isFile (.tmp pid) controlUiIndexRelpath).run
  if inTmp then return false
  else
    let inDest ← (Op.isFile .dest controlUiIndexRelpath).run
    if !inDest then return false
    else
      rmtreeIfPresent (.tmp pid) ["control-ui"]
      let current ← (Op.list .dest ["control-ui"] true).run
      copytree current (.tmp pid) ["control-ui"]
      return true

/-- The entries of a directory. -/
def childrenOf (entries : Tree) (dir : RelPath) : Tree :=
  entries.filter fun item => item.1 ≠ [] ∧ item.1.dropLast = dir

/-- Owner and mode of an entry: what its owner may execute stays executable. -/
def normalize (name : Name) (uid gid : Nat) (item : RelPath × Entry) : Run Unit := do
  let executable := item.2.kind = .dir ∨ item.2.attributes.mode.testBit 6
  (Op.chown name item.1 uid gid).run
  (Op.chmod name item.1 (if executable then 0o750 else 0o640)).run

/-- A directory of the walk, and what is in it. -/
def normalizeDir (name : Name) (uid gid : Nat) (entries : Tree) (dir : RelPath × Entry) :
    Run Unit := do
  normalize name uid gid dir
  let children := childrenOf entries dir.1
  discard <| Program.forEach (normalize name uid gid) (children.filter (·.2.kind = .dir))
  discard <| Program.forEach (normalize name uid gid) (children.filter (·.2.kind ≠ .dir))

/-- `chmod_source_tree` -/
def chmodSourceTree (name : Name) (uid gid : Nat) : Run Unit := do
  let entries ← (Op.list name [] false).run
  discard <| Program.forEach (normalizeDir name uid gid entries) (entries.filter (·.2.kind = .dir))

/-- A call of `sync_dev_source_output` for the slot and the recipe of a stage. -/
structure SyncCall where
  pid : Nat
  source : Dist
  runtimeOnly : Bool

/-- `assert_child_of` -/
def assertChildOf (path : String) (name : Name) : Run Unit := do
  let inside ← (Op.resolvesInside name).run
  if inside then return () else throw (.valueError ("path escaped managed root: " ++ path))

section sync

variable (slot recipeName : String)

/-- `stage_root` -/
def stageRoot : String := "/home/" ++ slot ++ "/agent-runtime-source"

/-- The path of a name. -/
def pathOf : Name → String
  | .dest => stageRoot slot ++ "/" ++ recipeName
  | .tmp pid => stageRoot slot ++ "/." ++ recipeName ++ ".tmp." ++ toString pid
  | .backup pid => stageRoot slot ++ "/." ++ recipeName ++ ".previous." ++ toString pid

/-- `stage_root.exists() and stage_root.is_symlink()` -/
def rootIsSymlink : Run Bool := do
  let present ← Op.rootExists.run
  if present then Op.rootIsLink.run else return false

/-- The stage root, with the owner and the mode it has to have. -/
def prepareStageRoot (uid gid : Nat) : Run Unit := do
  let isLink ← rootIsSymlink
  if isLink then
    throw (.valueError ("managed source stage root must not be symlink: " ++ stageRoot slot))
  else
    Op.mkdirRoot.run
    (Op.chownRoot uid gid).run
    (Op.chmodRoot 0o750).run

/-- The dashboard of the current output goes into the new one before the swap. -/
def preserveControlUi (call : SyncCall) : Run Bool := do
  if !call.runtimeOnly then return false
  else
    let present ← (Op.present .dest []).run
    if !present then return false
    else
      let isLink ← (Op.isLink .dest []).run
      if isLink then return false else mergePreservedControlUi call.pid

/-- What comes before the swap. -/
def stageOutput (call : SyncCall) : Run (Bool × Bool) := do
  Program.ofExcept (rejectTreeSymlinks call.source)
  let controlUiInDist ← Program.ofExcept (preflightDevDist call.source call.runtimeOnly)
  let (uid, gid) ← Op.runtimeIds.run
  prepareStageRoot slot uid gid
  discard <| Program.forEach (fun name => assertChildOf (pathOf slot recipeName name) name)
    [.dest, .tmp call.pid, .backup call.pid]
  rmtreeIfPresent (.tmp call.pid) []
  rmtreeIfPresent (.backup call.pid) []
  copytree call.source.tree (.tmp call.pid) []
  let preserved ← preserveControlUi call
  chmodSourceTree (.tmp call.pid) uid gid
  return (controlUiInDist, preserved)

/-- The old output makes way. -/
def moveAway (call : SyncCall) : Run Unit := do
  let present ← (Op.present .dest []).run
  if !present then return ()
  else
    let isLink ← (Op.isLink .dest []).run
    if isLink then
      throw (.valueError ("managed source stage must not be symlink: " ++
        pathOf slot recipeName .dest))
    else (Op.replace .dest (.backup call.pid)).run

/-- `sync_dev_source_output` -/
def syncDevSourceOutput (call : SyncCall) : Run (String × Bool × Bool) := do
  let halves ← stageOutput slot recipeName call
  moveAway slot recipeName call
  (Op.replace (.tmp call.pid) .dest).run
  rmtreeIfPresent (.backup call.pid) []
  return (pathOf slot recipeName .dest, halves)

end sync

end AgentRuntimeOps.Runtime.DevSource
