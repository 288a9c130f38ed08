import Mathlib
import AgentRuntimeOps.Lib.Lines
import AgentRuntimeOps.Lib.Stamps
import AgentRuntimeOps.Nas.Share

/-!
# Managed entries of fstab

`host/fstab.py`: an entry that is managed has a marker line in front of it, which says whose it is.
The editors read the lines of the file, go through them in one loop, and replace the file by the
lines that the loop leaves.
-/

namespace AgentRuntimeOps.Fstab

open Lib Nas

/-! ## The file -/

/-- The text of a file, which was decoded. -/
structure FileText where
  text : Text
  encodes : text.encode.isSome = true
  deriving DecidableEq

/-- The lines that `splitlines` reads from the file; a file that does not exist has none. -/
def readLines (fstab : Option FileText) : List Text :=
  (fstab.map fun file => file.text.splitlines).getD []

/-- The lines of the file, as line feeds end them. -/
def linesOf (fstab : Option FileText) : List Text :=
  (fstab.map fun file => file.text.fileLines).getD []

/-- What an editor raises. -/
inductive Raised where
  /-- `ValueError`: an entry that is not managed owns the mountpoint. -/
  | owned
  /-- `UnicodeEncodeError` -/
  | unencodable
  /-- `OSError` -/
  | system
  deriving DecidableEq, Repr

/-- Where the system fails in a call. -/
inductive Fault where
  | nowhere
  /-- The lock, or the file, cannot be opened. -/
  | reading
  /-- The backup or the new text cannot be written, or not be put in the place of the file. -/
  | replacing
  /-- The directory cannot be synchronized once the file is replaced. -/
  | syncing
  deriving DecidableEq, Repr

/-- What a call returns or raises, and the file that it leaves. -/
abbrev Outcome (α : Type) : Type := Except Raised α × Option FileText

/-- `_backup_fstab` and `_replace_fstab` -/
def replaceFstab (fault : Fault) (text : Text) (fstab : Option FileText) : Outcome Unit :=
  if fault = .replacing then (.error .system, fstab)
  else if h : text.encode.isSome = true then
    (if fault = .syncing then .error .system else .ok (), some ⟨text, h⟩)
  else (.error .unencodable, fstab)

/-! ## Entries -/

/-- `fstab_escape` -/
def fstabEscape (value : Text) : Text := value.flatMap fun c =>
  if c = 92 then [92, 92]
  else if c = 32 then Text.of "\\040"
  else if c = 9 then Text.of "\\011"
  else if c = 10 then []
  else [c]

/-- `managed_fstab_marker` -/
def managedFstabMarker (slot share : Text) : Text :=
  Text.of "# agent-runtime-ops nas slot=" ++ slot ++ Text.of " source=" ++ share

/-- `managed_workspace_bind_marker` -/
def managedWorkspaceBindMarker (slot : Text) : Text :=
  Text.of "# agent-runtime-ops nas-workspace slot=" ++ slot

/-- A path, as `str` gives it: it is not empty. -/
structure PathText where
  text : Text
  ne_nil : text ≠ []

instance : DecidableEq PathText := fun a b =>
  decidable_of_iff (a.text = b.text)
    ⟨fun h => by cases a; cases b; cases h; rfl, congrArg PathText.text⟩

/-- What an entry is made of. -/
structure EntryArgs where
  slot : Text
  share : SmbShare
  mountpoint : PathText
  credentialPath : PathText
  slotUid : Nat
  dataGid : Nat
  readWrite : Bool

/-- A number, in an option. -/
def numberText (n : Nat) : Text := Text.of (toString n)

namespace EntryArgs

variable (args : EntryArgs)

/-- `options` -/
def options : List Text := [
  Text.of "credentials=" ++ fstabEscape args.credentialPath.text,
  if args.readWrite then Text.of "rw" else Text.of "ro",
  Text.of "nosuid",
  Text.of "nodev",
  Text.of "vers=3.1.1",
  Text.of "iocharset=utf8",
  Text.of "noserverino",
  Text.of "uid=" ++ numberText args.slotUid,
  Text.of "forceuid",
  Text.of "gid=" ++ numberText args.dataGid,
  Text.of "forcegid",
  Text.of "file_mode=" ++ if args.readWrite then Text.of "0660" else Text.of "0440",
  Text.of "dir_mode=" ++ if args.readWrite then Text.of "0770" else Text.of "0550",
  Text.of "soft",
  Text.of "nofail",
  Text.of "_netdev"]

/-- `escaped_source` -/
def escapedSource : Text := fstabEscape args.share.source

/-- `escaped_target` -/
def escapedTarget : Text := fstabEscape args.mountpoint.text

/-- `marker` -/
def marker : Text := managedFstabMarker args.slot args.share.source

/-- `entry` -/
def entry : Text := [32].intercalate [args.escapedSource, args.escapedTarget, Text.of "cifs",
  [44].intercalate args.options, Text.of "0", Text.of "0"]

/-- The line is an entry that owns the mountpoint. -/
def owns (line : Text) : Bool :=
  (line.dropWhile Text.isSpace).head? ≠ some 35 ∧ line.words[1]? = some args.escapedTarget

/-- An entry of the same source, which the call may claim. -/
def sameSource (line : Text) : Bool :=
  line.words[0]? = some args.escapedSource ∧ line.words[2]? = some (Text.of "cifs")

end EntryArgs

/-- What an entry that is claimed becomes. -/
def disabledPrefix : Text := Text.of "# disabled by agent-runtime-ops nas claim: "

/-- The loop of the two writers, from `skip_next` and `replaced` on; it raises at a line that `keep`
does not let pass. -/
def rewriteLines (marker entry : Text) (keep : Text → Option Text) :
    (skipNext replaced : Bool) → List Text → Option (List Text × Bool)
  | _, replaced, [] => some ([], replaced)
  | true, replaced, _ :: lines => rewriteLines marker entry keep false replaced lines
  | false, replaced, line :: lines =>
      if line = marker then do
        let rest ← rewriteLines marker entry keep true true lines
        return (if replaced then rest.1 else marker :: entry :: rest.1, rest.2)
      else do
        let newLine ← keep line
        let rest ← rewriteLines marker entry keep false replaced lines
        return (newLine :: rest.1, rest.2)

/-- The blank line in front of a new pair. -/
def separator (lines : List Text) : List Text :=
  if lines.getLast?.getD [] = [] then [] else [[]]

/-- What the writers make of the lines. -/
def stampedLines (marker entry : Text) (keep : Text → Option Text) (lines : List Text) :
    Option (List Text) := do
  let rewritten ← rewriteLines marker entry keep false false lines
  return if rewritten.2 then rewritten.1
    else rewritten.1 ++ separator rewritten.1 ++ [marker, entry]

/-- The two writers, from the marker, the entry and what happens to the lines of no pair on. -/
def writePair (marker entry : Text) (keep : Text → Option Text) (fault : Fault)
    (fstab : Option FileText) : Outcome Unit :=
  if fault = .reading then (.error .system, fstab)
  else
    match stampedLines marker entry keep (readLines fstab) with
    | none => (.error .owned, fstab)
    | some lines => replaceFstab fault (Text.unlines lines) fstab

/-- What `write_managed_fstab_entry` makes of a line of no pair. -/
def keepLine (args : EntryArgs) (claimExisting : Bool) (line : Text) : Option Text :=
  if args.owns line then
    if claimExisting && args.sameSource line then some (disabledPrefix ++ line) else none
  else some line

/-- `write_managed_fstab_entry` -/
def writeManagedFstabEntry (args : EntryArgs) (claimExisting : Bool) :
    Fault → Option FileText → Outcome Unit :=
  writePair args.marker args.entry (keepLine args claimExisting)

/-- The entry of a bind. -/
def bindEntry (source workspace : PathText) : Text := [32].intercalate [fstabEscape source.text,
  fstabEscape workspace.text, Text.of "none", Text.of "bind,nofail", Text.of "0", Text.of "0"]

/-- `write_managed_workspace_bind_entry` -/
def writeManagedWorkspaceBindEntry (slot : Text) (source workspace : PathText) :
    Fault → Option FileText → Outcome Unit :=
  writePair (managedWorkspaceBindMarker slot) (bindEntry source workspace) some

/-- The loop of the two removals, with whether it met a marker. -/
def removeLines (marker : Text) : (skipNext : Bool) → List Text → List Text × Bool
  | _, [] => ([], false)
  | true, _ :: lines => removeLines marker false lines
  | false, line :: lines =>
      if line = marker then ((removeLines marker true lines).1, true)
      else
        let rest := removeLines marker false lines
        (line :: rest.1, rest.2)

/-- The two removals, from the marker on. -/
def removePair (marker : Text) (fault : Fault) (fstab : Option FileText) : Outcome Bool :=
  if fault = .reading then (.error .system, fstab)
  else
    let removed := removeLines marker false (readLines fstab)
    if removed.2 then
      match replaceFstab fault (Text.unlines removed.1) fstab with
      | (.ok (), after) => (.ok true, after)
      | (.error raised, after) => (.error raised, after)
    else (.ok false, fstab)

/-- `remove_managed_fstab_entry` -/
def removeManagedFstabEntry (slot : Text) (share : SmbShare) :
    Fault → Option FileText → Outcome Bool := removePair (managedFstabMarker slot share.source)

/-- `remove_managed_workspace_bind_entry` -/
def removeManagedWorkspaceBindEntry (slot : Text) : Fault → Option FileText → Outcome Bool :=
  removePair (managedWorkspaceBindMarker slot)

end AgentRuntimeOps.Fstab
