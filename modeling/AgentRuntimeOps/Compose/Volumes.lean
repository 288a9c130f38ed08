import AgentRuntimeOps.Nas.Policy

/-!
# Volumes of a compose document

`compose_contract.py`: what `validate_compose_contract` finds out about the volumes of a service.  A
volume is a text, `source:target[:options]`, or a dictionary.
-/

namespace AgentRuntimeOps.Compose

open AgentRuntimeOps.Lib
open AgentRuntimeOps.Nas (Yaml getField)

/-- `str` of a list or a dictionary. -/
class YamlText where
  str : Yaml → Text

section values

variable [YamlText]

/-- `str(value)` -/
def strOf : Yaml → Text
  | .str text => text
  | .other text _ => text
  | value => YamlText.str value

/-- `str(fields.get(name) or "")` -/
def textAt (fields : List (Yaml × Yaml)) (name : String) : Text :=
  match getField fields (Text.of name) with
  | some value => if value.isTrue then strOf value else []
  | none => []

end values

/-- `value is True` -/
def isTrueItself : Option Yaml → Bool
  | some (.other text truth) => decide (text = Text.of "True") && truth
  | _ => false

/-! ## What a volume says -/

/-- The parts of a volume in short syntax. -/
def partsOf (text : Text) : List Text := text.splitOn 58

/-- `_volume_target` -/
def volumeTarget [YamlText] : Yaml → Text
  | .dict fields => textAt fields "target"
  | .str text => (partsOf text)[1]?.getD []
  | _ => []

/-- `_volume_source` -/
def volumeSource [YamlText] : Yaml → Text
  | .dict fields => textAt fields "source"
  | .str text => (partsOf text).headD []
  | _ => []

/-- `_volume_is_read_only` -/
def volumeIsReadOnly : Yaml → Bool
  | .dict fields => isTrueItself (getField fields (Text.of "read_only"))
  | .str text => ((partsOf text).drop 2).any fun part =>
      decide (part = Text.of "ro" ∨ Text.of ",ro" <:+ part ∨ Text.of ",ro," <:+: part)
  | _ => false

/-- `_volume_type` -/
def volumeType [YamlText] : Yaml → Text
  | .dict fields => textAt fields "type"
  | .str _ => Text.of "bind"
  | _ => []

/-- The modes that `_volume_propagation` looks for. -/
def knownPropagations : List Text :=
  ["slave", "rslave", "shared", "rshared", "private"].map Text.of

/-- `_volume_propagation` -/
def volumePropagation [YamlText] : Yaml → Text
  | .dict fields =>
      match getField fields (Text.of "bind") with
      | some (.dict bind) => textAt bind "propagation"
      | _ => []
  | .str text =>
      ((((partsOf text).drop 2).flatMap fun part => part.splitOn 44).find?
        (· ∈ knownPropagations)).getD []
  | _ => []

/-- What `_volume_contains_source_output` looks for. -/
def sourceOutput : Text := Text.of "$\x7bSOURCE_OUTPUT\x7d"

mutual
/-- `_volume_contains_source_output`: none of the characters is quoted by `repr`. -/
def containsSourceOutput : Yaml → Bool
  | .str text => decide (sourceOutput <:+: text)
  | .list items => itemsContain items
  | .dict fields => fieldsContain fields
  | .other _ _ => false

/-- An item contains it. -/
def itemsContain : List Yaml → Bool
  | [] => false
  | item :: rest => containsSourceOutput item || itemsContain rest

/-- A field contains it. -/
def fieldsContain : List (Yaml × Yaml) → Bool
  | [] => false
  | (key, value) :: rest =>
      containsSourceOutput key || containsSourceOutput value || fieldsContain rest
end

/-- `_mount_covers_target` -/
def mountCoversTarget (mountTarget outputTarget : Text) : Bool :=
  if mountTarget = [] then false
  else decide (mountTarget = outputTarget) ||
    decide ((mountTarget.reverse.dropWhile (· == 47)).reverse ++ [47] <+: outputTarget)

/-- `_propagation_matches` -/
def propagationMatches (actual required : Text) : Bool :=
  let slaves := [Text.of "slave", Text.of "rslave"]
  let shares := [Text.of "shared", Text.of "rshared"]
  if required = [] then true
  else if required ∈ slaves then decide (actual ∈ slaves)
  else if required ∈ shares then decide (actual ∈ shares)
  else decide (actual = required)

/-! ## Checks -/

/-- `ComposeContractCheck` -/
structure ComposeContractCheck where
  ok : Bool
  name : String
  detail : Text
  deriving DecidableEq

/-- `RuntimeSocketProjection`, as far as volumes are compared with it. -/
structure SocketProjection where
  source : Text
  target : Text

/-- What the checks are made for: the metadata of the profile, the slot, what
`runtime_socket_projection` returns or raises, the groups of the service, and the group token. -/
structure Context where
  metadata : List (Yaml × Yaml)
  slot : Text
  projection : Except Text (Option SocketProjection)
  groups : List Yaml
  groupToken : Text

/-- `text or default` -/
def orElse (text : Text) (default : String) : Text := if text = [] then Text.of default else text

section checks

variable [YamlText] (ctx : Context) (volumes : List Yaml)

namespace Context

/-- `/home/{slot}/…` -/
def home (name : String) : Text := Text.of "/home/" ++ ctx.slot ++ Text.of name

/-- `container_nas_root` -/
def nasRoot : Text := textAt ctx.metadata "container_nas_root"

/-- `container_workspace_root` -/
def workspaceRoot : Text := textAt ctx.metadata "container_workspace_root"

/-- `required_mount_propagation` -/
def requiredPropagation : Text := textAt ctx.metadata "required_mount_propagation"

/-- `required_read_only_nas` is `True`. -/
def requiresReadOnly : Bool :=
  isTrueItself (getField ctx.metadata (Text.of "required_read_only_nas"))

end Context

/-- The volumes with a target. -/
def volumesAt (target : Text) : List Yaml :=
  volumes.filter fun volume => volumeTarget volume = target

/-- The check of the propagation, if one is required. -/
def propagationCheck (name : String) (volume : Yaml) : List ComposeContractCheck :=
  if ctx.requiredPropagation = [] then []
  else [{
    ok := propagationMatches (volumePropagation volume) ctx.requiredPropagation
    name
    detail := Text.of "required=" ++ ctx.requiredPropagation ++ Text.of " actual=" ++
      orElse (volumePropagation volume) "missing" }]

/-- The checks of the socket. -/
def socketChecks : List ComposeContractCheck :=
  match ctx.projection with
  | .error reason => [⟨false, "compose_runtime_socket_contract_valid", reason⟩]
  | .ok none => []
  | .ok (some socket) =>
      let socketVolumes := volumesAt volumes socket.target
      let volume := match socketVolumes with
        | [volume] => volume
        | _ => .other (Text.of "None") false
      [⟨decide (socketVolumes.length = 1), "compose_runtime_socket_bind_present",
          Text.of "target=" ++ socket.target ++ Text.of " count=" ++
            Text.of (toString socketVolumes.length)⟩,
        ⟨decide (volumeType volume = Text.of "bind"), "compose_runtime_socket_bind_type",
          Text.of "type=" ++ orElse (volumeType volume) "missing"⟩,
        ⟨decide (volumeSource volume = socket.source), "compose_runtime_socket_source_slot_scoped",
          Text.of "source=" ++ orElse (volumeSource volume) "missing"⟩,
        ⟨volumeIsReadOnly volume, "compose_runtime_socket_readonly",
          Text.of "target=" ++ socket.target⟩,
        ⟨decide (ctx.groupToken ∈ ctx.groups.map strOf),
          "compose_runtime_socket_peer_group_present", Text.of "expected=" ++ ctx.groupToken⟩]

/-- The checks of the NAS root. -/
def nasChecks : List ComposeContractCheck :=
  let nasVolumes := volumesAt volumes ctx.nasRoot
  ⟨decide (ctx.nasRoot ≠ [] ∧ nasVolumes ≠ []), "compose_nas_root_bind_present",
    orElse ctx.nasRoot "missing_container_nas_root"⟩ ::
  match nasVolumes with
  | [] => []
  | volume :: _ =>
      (if ctx.requiresReadOnly then [⟨volumeIsReadOnly volume, "compose_nas_root_readonly",
        Text.of "target=" ++ ctx.nasRoot⟩] else []) ++
      propagationCheck ctx "compose_nas_root_propagation" volume ++
      [⟨decide (volumeSource volume = ctx.home "/nas_docs"), "compose_nas_root_source_slot_scoped",
        Text.of "source=" ++ volumeSource volume⟩]

/-- The checks of the workspace. -/
def workspaceChecks : List ComposeContractCheck :=
  if ctx.workspaceRoot = [] then []
  else
    let workspaceVolumes := volumesAt volumes ctx.workspaceRoot
    ⟨decide (workspaceVolumes ≠ []), "compose_workspace_bind_present", ctx.workspaceRoot⟩ ::
    match workspaceVolumes with
    | [] => []
    | volume :: _ =>
        [⟨!volumeIsReadOnly volume, "compose_workspace_writable",
            Text.of "target=" ++ ctx.workspaceRoot⟩,
          ⟨decide (volumeSource volume = ctx.home "/workspace"),
            "compose_workspace_source_slot_scoped", Text.of "source=" ++ volumeSource volume⟩] ++
        propagationCheck ctx "compose_workspace_propagation" volume

/-- The checks of the source mounts. -/
def sourceChecks : List ComposeContractCheck :=
  let sourceMounts := volumes.filter containsSourceOutput
  let count := Text.of "count=" ++ Text.of (toString sourceMounts.length)
  match getField ctx.metadata (Text.of "allow_source_mount") with
  | some (.other text truth) =>
      if text = Text.of "False" ∧ truth = false then
        [⟨decide (sourceMounts = []), "compose_customer_source_mount_absent", count⟩]
      else if text = Text.of "True" ∧ truth = true then
        let target := textAt ctx.metadata "source_output_target"
        [⟨decide (sourceMounts ≠ []) && (decide (target = []) || sourceMounts.any fun volume =>
            mountCoversTarget (volumeTarget volume) target), "compose_dev_source_mount_present",
          Text.of "target=" ++ orElse target "any" ++ Text.of " " ++ count⟩]
      else []
  | _ => []

/-- The checks of `validate_compose_contract` that are made of the volumes; those in front of them
do not read the volumes. -/
def volumeChecks : List ComposeContractCheck :=
  socketChecks ctx volumes ++ nasChecks ctx volumes ++ workspaceChecks ctx volumes ++
    sourceChecks ctx volumes

/-- The verdict of a check. -/
def ComposeContractCheck.verdict (check : ComposeContractCheck) : Bool × String :=
  (check.ok, check.name)

/-- The verdicts of all checks. -/
def verdicts : List (Bool × String) := (volumeChecks ctx volumes).map ComposeContractCheck.verdict

end checks

end AgentRuntimeOps.Compose
