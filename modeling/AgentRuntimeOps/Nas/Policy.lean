import Mathlib
import AgentRuntimeOps.Nas.Share
import AgentRuntimeOps.Routing.Basic

/-!
# The policy of shares

`nas.py`: whether an account may mount a share, by the grants that `nas-policy.yaml` gives to it.
-/

namespace AgentRuntimeOps.Nas

open AgentRuntimeOps.Lib AgentRuntimeOps.Routing

/-! ## Mountpoints -/

/-- What Python and the file system know about texts. -/
class NasHost where
  /-- `str.lower` -/
  lower : Text → Text
  /-- What `\d` matches. -/
  isDecimal : Nat → Bool
  /-- `sha256(text.encode("utf-8")).hexdigest()` -/
  digest : Text → Option Text
  /-- `Path.resolve(strict=False)` -/
  resolve : Text → Option Text

section mountpoints

variable [NasHost]

/-- `host` -/
def SmbShare.host (share : SmbShare) : Text := NasHost.lower share.spelledHost

/-- `share_is_writable` -/
def SmbShare.isWritable (share : SmbShare) : Bool :=
  match share.share with
  | o :: c :: digit :: digits =>
      decide ((o = 79 ∨ o = 111) ∧ (c = 67 ∨ c = 99)) && (digit :: digits).all NasHost.isDecimal
  | _ => false

/-- `host_component` -/
def hostComponent (host : Text) : Option Text := do
  let digest ← NasHost.digest (NasHost.lower host)
  return Text.of "host-" ++ digest.take 12

/-- `SAFE_SHARE_COMPONENT_RE`, for a name without a line feed at its end. -/
def isSafeName (name : Text) : Bool :=
  decide (1 ≤ name.length ∧ name.length ≤ 80) && name.all fun c =>
    (65 ≤ c && c ≤ 90) || (97 ≤ c && c ≤ 122) || (48 ≤ c && c ≤ 57) || c == 46 || c == 95 || c == 45

/-- `share_component` -/
def shareComponent (share : Text) : Option Text :=
  if isSafeName share && share ≠ [46] && share ≠ [46, 46] then some share
  else do
    let digest ← NasHost.digest share
    return Text.of "share-" ++ digest.take 12

/-- `path / name` -/
def joinPath (path name : Text) : Text := if path = [47] then 47 :: name else path ++ 47 :: name

/-- A directory in the home of an account. -/
def homeDir (slot name : String) : Option Text := do
  let account ← validateLinuxAccount slot
  return joinPath (joinPath (Text.of "/home") (Text.of account)) (Text.of name)

/-- `nas_root` -/
def nasRoot (slot : String) : Option Text := homeDir slot "nas_docs"

/-- `nas_rw_root` -/
def nasRwRoot (slot : String) : Option Text := homeDir slot "nas_rw"

/-- `_nested_mountpoint` -/
def nestedMountpoint (root : Text) (share : SmbShare) : Option Text := do
  let host ← hostComponent share.host
  let name ← shareComponent share.share
  let resolvedRoot ← NasHost.resolve root
  let resolvedParent ← NasHost.resolve (joinPath root host)
  if resolvedParent = joinPath resolvedRoot host then some (joinPath (joinPath root host) name)
  else none

/-- `mountpoint_for_share` -/
def mountpointForShare (slot : String) (share : SmbShare) : Option Text := do
  let root ← if share.isWritable then nasRwRoot slot else nasRoot slot
  nestedMountpoint root share

end mountpoints

/-! ## Views -/

/-- `_VIEW_SOURCE_RE`, for a text that is stripped. -/
def viewSource (text : Text) : Option (Text × Text) :=
  let base := text.takeWhile (· ≠ 91)
  let subpath := (text.drop (base.length + 1)).dropLast
  if text = base ++ 91 :: subpath ++ [93] ∧ [47, 47] <+: base ∧ 3 ≤ base.length ∧ 93 ∉ base ∧
      [47] <+: subpath ∧ 91 ∉ subpath ∧ 93 ∉ subpath then some (base, subpath)
  else none

/-- No part of the path leads out of the share. -/
def isInside (subpath : Text) : Bool :=
  (subpath.splitOn 47).tail.all fun part => decide (part ∉ [[], [46], [46, 46]])

/-- `parse_cifs_mount_source` -/
def parseCifsMountSource (source : Text) : Option (SmbShare × Option Text) :=
  match viewSource source.strip with
  | none => do
      let share ← parseSmbShare source.strip
      return (share, none)
  | some (base, subpath) =>
      if isInside subpath then do
        let share ← parseSmbShare base
        return (share, some subpath)
      else none

/-! ## Grants -/

/-- A part of a pattern. -/
inductive Glob where
  | star
  | one (accepts : Nat → Bool)

/-- The ranges of `[seq]`. -/
def setRanges : Text → List (Nat × Nat)
  | low :: 45 :: high :: rest => (low, high) :: setRanges rest
  | c :: rest => (c, c) :: setRanges rest
  | [] => []

/-- What `[seq]` accepts, or `[!seq]`. -/
def inSet (content : Text) (c : Nat) : Bool :=
  let isIn := fun content : Text => (setRanges content).any fun range =>
    decide (range.1 ≤ c ∧ c ≤ range.2)
  match content with
  | 33 :: rest => !isIn rest
  | content => isIn content

/-- What stands before the bracket that closes a set; it is not the first character. -/
def setContent (rest : Text) : Text :=
  let front := if rest.head? = some 33 then 1 else 0
  let first := if (rest.drop front).head? = some 93 then front + 1 else front
  rest.take first ++ (rest.drop first).takeWhile (· ≠ 93)

/-- `fnmatch.translate`; the first argument counts what is left of a set that has been read. -/
def translate : Nat → Text → List Glob
  | _, [] => []
  | skipped + 1, _ :: rest => translate skipped rest
  | 0, c :: rest =>
      let content := setContent rest
      if c = 42 then .star :: translate 0 rest
      else if c = 63 then .one (fun _ => true) :: translate 0 rest
      else if c = 91 ∧ content.length < rest.length then
        .one (inSet content) :: translate (content.length + 1) rest
      else .one (· == c) :: translate 0 rest

/-- A text matches the parts of a pattern. -/
def fullmatch : List Glob → Text → Bool
  | [], text => text.isEmpty
  | .star :: parts, text => text.tails.any (fullmatch parts)
  | .one _ :: _, [] => false
  | .one accepts :: parts, c :: text => accepts c && fullmatch parts text

/-- `fnmatch.fnmatchcase` -/
def fnmatchcase (name pattern : Text) : Bool := fullmatch (translate 0 pattern) name

/-- A share that is spelled out. -/
def isExact (pattern : Text) : Bool := decide ([47, 47] <+: pattern ∧ 42 ∉ pattern)

/-- `pattern.replace("\\", "/")` -/
def slashed (pattern : Text) : Text := pattern.map fun c => if c = 92 then 47 else c

section grants

variable [NasHost]

/-- A pattern with its host in small letters. -/
def lowerHost (pattern : Text) : Text :=
  match pattern with
  | 47 :: 47 :: rest =>
      let host := rest.takeWhile (· ≠ 47)
      if host ≠ [] ∧ host.length < rest.length then
        47 :: 47 :: NasHost.lower host ++ rest.drop host.length
      else pattern
  | _ => pattern

/-- `_source_matches`; `none` where it raises. -/
def sourceMatches (pattern : Text) (share : SmbShare) : Option Bool :=
  if pattern = [42] then some true
  else if isExact pattern then do
    let parsed ← parseSmbShare (slashed pattern)
    return parsed.host = share.host ∧ parsed.share = share.share
  else if [47, 47] <+: pattern then
    some (fnmatchcase ([47, 47] ++ share.host ++ 47 :: share.share) (lowerHost pattern))
  else some false

/-- The first grant that matches; `none` where a grant before it raises. -/
def firstMatch (share : SmbShare) : List Text → Option (Option Text)
  | [] => some none
  | pattern :: rest => do
      if ← sourceMatches pattern share then some (some pattern) else firstMatch share rest

end grants

/-! ## Policies -/

/-- What `yaml.safe_load` returns; no dictionary has a key twice. -/
inductive Yaml where
  | str (text : Text)
  | list (items : List Yaml)
  | dict (fields : List (Yaml × Yaml))
  /-- A value of another type, as it is written, and whether it is true. -/
  | other (text : Text) (truth : Bool)

/-- `bool(value)` -/
def Yaml.isTrue : Yaml → Bool
  | str text => !text.isEmpty
  | list items => !items.isEmpty
  | dict fields => !fields.isEmpty
  | other _ truth => truth

/-- The value of a field with this name. -/
def valueOf (name : Text) : Yaml × Yaml → Option Yaml
  | (.str key, value) => if key = name then some value else none
  | _ => none

/-- `fields.get(name)` -/
def getField (fields : List (Yaml × Yaml)) (name : Text) : Option Yaml :=
  fields.findSome? (valueOf name)

/-- `fields.get(name)`, if it is a dictionary, or else an empty one. -/
def getDict (fields : List (Yaml × Yaml)) (name : Text) : List (Yaml × Yaml) :=
  match getField fields name with
  | some (.dict inner) => inner
  | _ => []

/-- A grant of an account. -/
def grantOf : Yaml → Option Text
  | .str text => some text
  | .dict fields =>
      match getField fields (Text.of "allow") with
      | some (.str text) => some text
      | _ => none
  | _ => none

/-- `_grant_patterns` -/
def grantPatterns (policy : Yaml) (slot : Text) : Option (Bool × List Text × Option Yaml) :=
  match policy with
  | .dict fields =>
      let approves := getField (getDict fields (Text.of "defaults")) (Text.of "auto_approve")
      match getField (getDict fields (Text.of "accounts")) slot with
      | some (.dict account) =>
          let autoApprove := (getField account (Text.of "auto_approve")).or approves
          let grants := match getField account (Text.of "grants") with
            | some (.list items) => items.filterMap grantOf
            | _ => []
          some (autoApprove.any Yaml.isTrue, grants, getField account (Text.of "max_mounts"))
      | _ => some (approves.any Yaml.isTrue, [], none)
  | _ => none

/-- `NasPolicyDecision` -/
structure NasPolicyDecision where
  slot : String
  share : SmbShare
  allowed : Bool
  reason : String
  matchedGrant : Option Text
  maxMounts : Option Yaml
  mountpoint : Text

/-- `check_nas_policy`; `policy` is `nas-policy.yaml`, and `none` where it cannot be loaded. -/
def checkNasPolicy [NasHost] (slot : String) (source : Text) (bindings : List RuntimeBinding)
    (policy : Option Yaml) : Option NasPolicyDecision := do
  let binding ← (getRuntimeBinding slot bindings).toOption
  let (share, viewSubpath) ← parseCifsMountSource source
  let viewSuffix := if viewSubpath.isSome then "_view" else ""
  if binding.runtimeClass ≠ "customer" then
    some ⟨binding.linuxAccount, share, false,
      "runtime_class_not_customer:" ++ binding.runtimeClass, none, none, Text.of "."⟩
  else do
    let mountpoint ← mountpointForShare binding.linuxAccount share
    let document ← policy
    let (autoApprove, grants, maxMounts) ←
      grantPatterns document (Text.of binding.linuxAccount)
    if !autoApprove then
      some ⟨slot, share, false, "auto_approve_disabled", none, maxMounts, mountpoint⟩
    else
      match ← firstMatch share grants with
      | some pattern =>
          some ⟨binding.linuxAccount, share, true, "grant_matched" ++ viewSuffix, some pattern,
            maxMounts, mountpoint⟩
      | none =>
          some ⟨binding.linuxAccount, share, false, "grant_not_matched" ++ viewSuffix, none,
            maxMounts, mountpoint⟩

end AgentRuntimeOps.Nas
