import AgentRuntimeOps.Compose.Contract

/-!
# What passing checks say about all volumes

Compose mounts every volume of the service.  A check looks at the first of them, so the others may
be anything.
-/

namespace AgentRuntimeOps.Compose

open AgentRuntimeOps.Lib
open AgentRuntimeOps.Nas (Yaml getField)

/-! ## Paths -/

/-- The components of a path, without what leads nowhere. -/
def components (absolute : Bool) : List Text → List Text → List Text
  | done, [] => done.reverse
  | done, part :: rest =>
      if part = [] ∨ part = [46] then components absolute done rest
      else if part ≠ [46, 46] ∨ (absolute = false ∧ done = []) ∨ done.head? = some [46, 46] then
        components absolute (part :: done) rest
      else components absolute done.tail rest

/-- `posixpath.normpath` -/
def normpath (path : Text) : Text :=
  let slashes : Text := if [47, 47] <+: path ∧ ¬[47, 47, 47] <+: path then [47, 47]
    else if [47] <+: path then [47] else []
  let normal := slashes ++ [47].intercalate (components (slashes ≠ []) [] (path.splitOn 47))
  if normal = [] then [46] else normal

/-! ## What is mounted -/

section mounted

variable [YamlText]

/-- Where a volume is mounted; a text without a colon is a target. -/
def mountTarget : Yaml → Text
  | .str text => if 58 ∈ text then volumeTarget (.str text) else text
  | volume => volumeTarget volume

/-- The volume is mounted read-only. -/
def MountedReadOnly : Yaml → Prop
  | .dict fields => isTrueItself (getField fields (Text.of "read_only")) = true
  | .str text => Text.of "ro" ∈ ((partsOf text).drop 2).flatMap fun part => part.splitOn 44
  | _ => False

/-- The volume is mounted at the path. -/
def MountedAt (path : Text) (volume : Yaml) : Prop := normpath (mountTarget volume) = normpath path

/-- The volume shows the directory of the host. -/
def Shows (path : Text) (volume : Yaml) : Prop := normpath (volumeSource volume) = normpath path

omit [YamlText] in
/-- What is read as read-only is mounted so. -/
lemma mountedReadOnly_of_volumeIsReadOnly {volume : Yaml} (h : volumeIsReadOnly volume = true) :
    MountedReadOnly volume := by
  cases volume with
  | dict fields => exact h
  | str text =>
      obtain ⟨part, hpart, hro⟩ := List.any_eq_true.mp h
      refine List.mem_flatMap.mpr ⟨part, hpart, ?_⟩
      have hcut : ∀ s t : Text, (s ++ 44 :: t).splitOn 44 = s.splitOn 44 ++ t.splitOn 44 := by
        intro s t
        rw [List.splitOn_eq_splitOnP, List.splitOnP_append_cons _ _ (by decide)]
        rfl
      have hself : (Text.of "ro").splitOn 44 = [Text.of "ro"] := by decide
      rcases decide_eq_true_iff.mp hro with rfl | ⟨front, rfl⟩ | ⟨front, back, rfl⟩
      · rw [hself]
        exact List.mem_cons_self
      · rw [show Text.of ",ro" = 44 :: Text.of "ro" from rfl, hcut, hself]
        simp
      · have hparts : front ++ Text.of ",ro," ++ back =
            (front ++ 44 :: Text.of "ro") ++ 44 :: back := by
          simp [Text.of, Text.ofChars]
        rw [hparts, hcut, hcut, hself]
        simp
  | list items => cases h
  | other text truth => cases h

lemma mountedAt_of_volumeTarget {volume : Yaml} {path : Text} (h : volumeTarget volume = path)
    (hne : path ≠ []) : MountedAt path volume := by
  unfold MountedAt mountTarget
  split
  case h_2 => rw [h]
  case h_1 text =>
    split_ifs with hcolon
    · rw [h]
    · rw [volumeTarget, partsOf, splitOn_free hcolon] at h
      exact absurd h.symm hne

end mounted

/-! ## Checks that pass -/

section passing

variable [YamlText] (ctx : Context) (volumes : List Yaml)

/-- The check was made, and passed. -/
def Passes (name : String) : Prop := (true, name) ∈ verdicts ctx volumes

/-- The three checks that the roots are mounted as they should be. -/
structure RootsPass : Prop where
  nasReadOnly : Passes ctx volumes "compose_nas_root_readonly"
  nasSource : Passes ctx volumes "compose_nas_root_source_slot_scoped"
  workspaceWritable : Passes ctx volumes "compose_workspace_writable"

/-- A volume at the NAS root that is right. -/
def NasVolume (volume : Yaml) : Prop :=
  MountedReadOnly volume ∧ Shows (ctx.home "/nas_docs") volume

/-- A volume at the workspace root that is right. -/
def WorkspaceVolume (volume : Yaml) : Prop :=
  ¬MountedReadOnly volume ∧ Shows (ctx.home "/workspace") volume

/-- The volumes that the three checks examine. -/
structure Examined (nas workspace : Yaml) : Prop where
  required : ctx.requiresReadOnly = true
  firstNas : (volumesAt volumes ctx.nasRoot).head? = some nas
  readOnly : volumeIsReadOnly nas = true
  source : volumeSource nas = ctx.home "/nas_docs"
  root : ctx.workspaceRoot ≠ []
  firstWorkspace : (volumesAt volumes ctx.workspaceRoot).head? = some workspace
  writable : volumeIsReadOnly workspace = false

variable {ctx volumes}

lemma passes_iff {name : String} : Passes ctx volumes name ↔
    ∃ check ∈ volumeChecks ctx volumes, check.ok = true ∧ check.name = name := by
  unfold Passes verdicts ComposeContractCheck.verdict
  simp

/-- The names of checks tell where they are made. -/
lemma name_of_socket {check : ComposeContractCheck} (h : check ∈ socketChecks ctx volumes) :
    check.name ∈ ["compose_runtime_socket_contract_valid", "compose_runtime_socket_bind_present",
      "compose_runtime_socket_bind_type", "compose_runtime_socket_source_slot_scoped",
      "compose_runtime_socket_readonly", "compose_runtime_socket_peer_group_present"] := by
  unfold socketChecks at h
  split at h
  · rw [List.mem_singleton.mp h]
    exact List.mem_cons_self
  · cases h
  · simp only [List.mem_cons, List.not_mem_nil, or_false] at h
    rcases h with rfl | rfl | rfl | rfl | rfl <;> simp

lemma name_of_source {check : ComposeContractCheck} (h : check ∈ sourceChecks ctx volumes) :
    check.name ∈ ["compose_customer_source_mount_absent", "compose_dev_source_mount_present"] := by
  unfold sourceChecks at h
  dsimp only at h
  split at h
  · split_ifs at h
    · rw [List.mem_singleton.mp h]
      exact List.mem_cons_self
    · rw [List.mem_singleton.mp h]
      exact List.mem_cons_of_mem _ List.mem_cons_self
    · cases h
  · cases h

lemma name_of_propagation {check : ComposeContractCheck} {name : String} {volume : Yaml}
    (h : check ∈ propagationCheck ctx name volume) : check.name = name := by
  unfold propagationCheck at h
  split_ifs at h
  · cases h
  · rw [List.mem_singleton.mp h]

lemma name_of_nas {check : ComposeContractCheck} (h : check ∈ nasChecks ctx volumes) :
    check.name ∈ ["compose_nas_root_bind_present", "compose_nas_root_readonly",
      "compose_nas_root_propagation", "compose_nas_root_source_slot_scoped"] := by
  unfold nasChecks at h
  obtain rfl | h := List.mem_cons.mp h
  · exact List.mem_cons_self
  · cases hvolumes : volumesAt volumes ctx.nasRoot with
    | nil =>
        rw [hvolumes] at h
        cases h
    | cons first rest =>
        rw [hvolumes] at h
        simp only [List.mem_append, List.mem_singleton] at h
        rcases h with (h | h) | rfl
        · split_ifs at h
          · rw [List.mem_singleton.mp h]
            simp
          · cases h
        · rw [name_of_propagation h]
          simp
        · simp

lemma name_of_workspace {check : ComposeContractCheck} (h : check ∈ workspaceChecks ctx volumes) :
    check.name ∈ ["compose_workspace_bind_present", "compose_workspace_writable",
      "compose_workspace_source_slot_scoped", "compose_workspace_propagation"] := by
  unfold workspaceChecks at h
  split_ifs at h
  · cases h
  · obtain rfl | h := List.mem_cons.mp h
    · exact List.mem_cons_self
    · cases hvolumes : volumesAt volumes ctx.workspaceRoot with
      | nil =>
          rw [hvolumes] at h
          cases h
      | cons first rest =>
          rw [hvolumes] at h
          simp only [List.mem_append, List.mem_cons, List.not_mem_nil, or_false] at h
          rcases h with (rfl | rfl) | h
          · simp
          · simp
          · rw [name_of_propagation h]
            simp

/-- The names of the checks of the NAS root and of the workspace. -/
def rootNames : List String := ["compose_nas_root_readonly", "compose_nas_root_source_slot_scoped",
  "compose_workspace_writable"]

/-- A check of this name is made of a root. -/
lemma passes_root {name : String} (hname : name ∈ rootNames) : Passes ctx volumes name ↔
    ∃ check ∈ nasChecks ctx volumes ++ workspaceChecks ctx volumes,
      check.ok = true ∧ check.name = name := by
  rw [passes_iff]
  constructor
  · rintro ⟨check, hmem, hok, rfl⟩
    simp only [volumeChecks, List.mem_append, or_assoc] at hmem
    rcases hmem with hmem | hmem | hmem | hmem
    · exact absurd (name_of_socket hmem) ((by decide : ∀ name ∈ rootNames, name ∉ _) _ hname)
    · exact ⟨check, List.mem_append_left _ hmem, hok, rfl⟩
    · exact ⟨check, List.mem_append_right _ hmem, hok, rfl⟩
    · exact absurd (name_of_source hmem) ((by decide : ∀ name ∈ rootNames, name ∉ _) _ hname)
  · rintro ⟨check, hmem, hok⟩
    have hroots := List.mem_append.mp hmem
    exact ⟨check, by simp only [volumeChecks, List.mem_append]; tauto, hok⟩

lemma passes_nasReadOnly : Passes ctx volumes "compose_nas_root_readonly" ↔
    ctx.requiresReadOnly = true ∧ ∃ volume, (volumesAt volumes ctx.nasRoot).head? = some volume ∧
      volumeIsReadOnly volume = true := by
  rw [passes_root (by decide)]
  constructor
  · rintro ⟨check, hmem, hok, hname⟩
    obtain hmem | hmem := List.mem_append.mp hmem
    · unfold nasChecks at hmem
      obtain rfl | hmem := List.mem_cons.mp hmem
      · simp at hname
      · cases hvolumes : volumesAt volumes ctx.nasRoot with
        | nil =>
            rw [hvolumes] at hmem
            cases hmem
        | cons first rest =>
            rw [hvolumes] at hmem
            simp only [List.mem_append, List.mem_singleton] at hmem
            rcases hmem with (hmem | hmem) | rfl
            · split_ifs at hmem with hrequired
              · obtain rfl := List.mem_singleton.mp hmem
                exact ⟨hrequired, first, rfl, hok⟩
              · cases hmem
            · rw [name_of_propagation hmem] at hname
              exact absurd hname (by decide)
            · simp at hname
    · have hnames := name_of_workspace hmem
      rw [hname] at hnames
      exact absurd hnames (by decide)
  · rintro ⟨hrequired, volume, hvolume, hro⟩
    obtain ⟨rest, hvolumes⟩ := List.head?_eq_some_iff.mp hvolume
    refine ⟨⟨volumeIsReadOnly volume, "compose_nas_root_readonly",
      Text.of "target=" ++ ctx.nasRoot⟩, ?_, hro, rfl⟩
    rw [nasChecks, hvolumes]
    simp [hrequired]

lemma passes_nasSource : Passes ctx volumes "compose_nas_root_source_slot_scoped" ↔
    ∃ volume, (volumesAt volumes ctx.nasRoot).head? = some volume ∧
      volumeSource volume = ctx.home "/nas_docs" := by
  rw [passes_root (by decide)]
  constructor
  · rintro ⟨check, hmem, hok, hname⟩
    obtain hmem | hmem := List.mem_append.mp hmem
    · unfold nasChecks at hmem
      obtain rfl | hmem := List.mem_cons.mp hmem
      · simp at hname
      · cases hvolumes : volumesAt volumes ctx.nasRoot with
        | nil =>
            rw [hvolumes] at hmem
            cases hmem
        | cons first rest =>
            rw [hvolumes] at hmem
            simp only [List.mem_append, List.mem_singleton] at hmem
            rcases hmem with (hmem | hmem) | rfl
            · split_ifs at hmem
              · obtain rfl := List.mem_singleton.mp hmem
                simp at hname
              · cases hmem
            · rw [name_of_propagation hmem] at hname
              exact absurd hname (by decide)
            · exact ⟨first, rfl, decide_eq_true_iff.mp hok⟩
    · have hnames := name_of_workspace hmem
      rw [hname] at hnames
      exact absurd hnames (by decide)
  · rintro ⟨volume, hvolume, hsource⟩
    obtain ⟨rest, hvolumes⟩ := List.head?_eq_some_iff.mp hvolume
    refine ⟨⟨decide (volumeSource volume = ctx.home "/nas_docs"),
      "compose_nas_root_source_slot_scoped", Text.of "source=" ++ volumeSource volume⟩, ?_,
      decide_eq_true hsource, rfl⟩
    rw [nasChecks, hvolumes]
    simp

lemma passes_workspace : Passes ctx volumes "compose_workspace_writable" ↔
    ctx.workspaceRoot ≠ [] ∧ ∃ volume,
      (volumesAt volumes ctx.workspaceRoot).head? = some volume ∧
        volumeIsReadOnly volume = false := by
  rw [passes_root (by decide)]
  constructor
  · rintro ⟨check, hmem, hok, hname⟩
    obtain hmem | hmem := List.mem_append.mp hmem
    · have hnames := name_of_nas hmem
      rw [hname] at hnames
      exact absurd hnames (by decide)
    · unfold workspaceChecks at hmem
      split_ifs at hmem with hroot
      · cases hmem
      · obtain rfl | hmem := List.mem_cons.mp hmem
        · simp at hname
        · cases hvolumes : volumesAt volumes ctx.workspaceRoot with
          | nil =>
              rw [hvolumes] at hmem
              cases hmem
          | cons first rest =>
              rw [hvolumes] at hmem
              simp only [List.mem_append, List.mem_cons, List.not_mem_nil, or_false] at hmem
              rcases hmem with (rfl | rfl) | hmem
              · exact ⟨hroot, first, rfl, by simpa using hok⟩
              · simp at hname
              · rw [name_of_propagation hmem] at hname
                exact absurd hname (by decide)
  · rintro ⟨hroot, volume, hvolume, hwritable⟩
    obtain ⟨rest, hvolumes⟩ := List.head?_eq_some_iff.mp hvolume
    refine ⟨⟨!volumeIsReadOnly volume, "compose_workspace_writable",
      Text.of "target=" ++ ctx.workspaceRoot⟩, ?_, by simp [hwritable], rfl⟩
    rw [workspaceChecks, if_neg hroot, hvolumes]
    simp

/-- The checks pass if the volumes that they examine are right, as far as they are examined. -/
lemma rootsPass_iff : RootsPass ctx volumes ↔
    ∃ nas workspace, Examined ctx volumes nas workspace := by
  constructor
  · rintro ⟨hreadOnly, hsource, hwritable⟩
    obtain ⟨hrequired, nas, hnas, hro⟩ := passes_nasReadOnly.mp hreadOnly
    obtain ⟨found, hfound, hsource⟩ := passes_nasSource.mp hsource
    obtain ⟨hroot, workspace, hworkspace, hwritable⟩ := passes_workspace.mp hwritable
    obtain rfl : nas = found := Option.some.inj (hnas.symm.trans hfound)
    exact ⟨nas, workspace, hrequired, hnas, hro, hsource, hroot, hworkspace, hwritable⟩
  · rintro ⟨nas, workspace, h⟩
    exact ⟨passes_nasReadOnly.mpr ⟨h.required, nas, h.firstNas, h.readOnly⟩,
      passes_nasSource.mpr ⟨nas, h.firstNas, h.source⟩,
      passes_workspace.mpr ⟨h.root, workspace, h.firstWorkspace, h.writable⟩⟩

/-- What passing checks should mean: every volume at a root is right. -/
structure Covers (ctx : Context) (volumes : List Yaml) : Prop where
  nas : RootsPass ctx volumes → ∀ volume ∈ volumes, MountedAt ctx.nasRoot volume →
    NasVolume ctx volume
  workspace : RootsPass ctx volumes → ∀ volume ∈ volumes, MountedAt ctx.workspaceRoot volume →
    WorkspaceVolume ctx volume

/-- What is not examined is right by itself: all volumes at the roots but the first ones, and the
source and a hidden `ro` of the workspace. -/
structure RestRight (ctx : Context) (volumes : List Yaml) (workspace : Yaml) : Prop where
  nas : ∀ front volume back, volumes = front ++ volume :: back →
    ¬IsFirst ctx.nasRoot front volume → MountedAt ctx.nasRoot volume → NasVolume ctx volume
  mode : MountedReadOnly workspace → volumeIsReadOnly workspace = true
  source : Shows (ctx.home "/workspace") workspace
  others : ∀ front volume back, volumes = front ++ volume :: back →
    ¬IsFirst ctx.workspaceRoot front volume → MountedAt ctx.workspaceRoot volume →
      WorkspaceVolume ctx volume

lemma eq_of_isFirst {target : Text} {front back : List Yaml} {volume first : Yaml}
    (h : IsFirst target front volume)
    (hfirst : (volumesAt (front ++ volume :: back) target).head? = some first) :
    first = volume := by
  rw [volumesAt_append, h.2, volumesAt_cons_self h.1] at hfirst
  exact (Option.some.inj hfirst).symm

lemma covers_iff : Covers ctx volumes ↔
    ∀ nas workspace, Examined ctx volumes nas workspace → RestRight ctx volumes workspace := by
  constructor
  · intro h nas workspace hexamined
    have hpass := rootsPass_iff.mpr ⟨nas, workspace, hexamined⟩
    obtain ⟨hmem, htarget⟩ := List.mem_filter.mp (List.mem_of_head? hexamined.firstWorkspace)
    have hworkspace := h.workspace hpass workspace hmem
      (mountedAt_of_volumeTarget (decide_eq_true_iff.mp htarget) hexamined.root)
    refine ⟨?_, fun hro => absurd hro hworkspace.1, hworkspace.2, ?_⟩
    · rintro front volume back rfl _ hmounted
      exact h.nas hpass volume (by simp) hmounted
    · rintro front volume back rfl _ hmounted
      exact h.workspace hpass volume (by simp) hmounted
  · intro h
    refine ⟨fun hpass volume hmem hmounted => ?_, fun hpass volume hmem hmounted => ?_⟩
    · obtain ⟨nas, workspace, hexamined⟩ := rootsPass_iff.mp hpass
      obtain ⟨front, back, rfl⟩ := List.append_of_mem hmem
      by_cases hfirst : IsFirst ctx.nasRoot front volume
      · obtain rfl := eq_of_isFirst hfirst hexamined.firstNas
        refine ⟨mountedReadOnly_of_volumeIsReadOnly hexamined.readOnly, ?_⟩
        rw [Shows, hexamined.source]
      · exact (h nas workspace hexamined).nas front volume back rfl hfirst hmounted
    · obtain ⟨nas, workspace, hexamined⟩ := rootsPass_iff.mp hpass
      obtain ⟨front, back, rfl⟩ := List.append_of_mem hmem
      have hrest := h nas workspace hexamined
      by_cases hfirst : IsFirst ctx.workspaceRoot front volume
      · obtain rfl := eq_of_isFirst hfirst hexamined.firstWorkspace
        refine ⟨fun hro => ?_, hrest.source⟩
        exact absurd (hexamined.writable.symm.trans (hrest.mode hro)) Bool.false_ne_true
      · exact hrest.others front volume back rfl hfirst hmounted

/-- Every volume in short syntax may be written in long syntax. -/
def Agrees (ctx : Context) (volumes : List Yaml) : Prop :=
  ∀ front (volume : ShortVolume) back, volumes = front ++ .str volume.text :: back →
    verdicts ctx volumes = verdicts ctx (front ++ volume.long :: back)

/-- **When the checks agree on both syntaxes and cover every mount.** -/
theorem contract_iff (ctx : Context) (volumes : List Yaml) :
    (Agrees ctx volumes ∧ Covers ctx volumes) ↔
      (∀ front (volume : ShortVolume) back, volumes = front ++ .str volume.text :: back →
        SpeltOut ctx front volume back) ∧
      (∀ nas workspace, Examined ctx volumes nas workspace →
        RestRight ctx volumes workspace) := by
  refine and_congr ?_ covers_iff
  refine forall_congr' fun front => forall_congr' fun volume => forall_congr' fun back => ?_
  refine forall_congr' fun hvolumes => ?_
  rw [hvolumes, verdicts_eq_iff (alike_long volume), judgedAlike_iff]

end passing

/-! ## A hidden option -/

/-- Texts for lists and dictionaries that no check needs. -/
@[reducible] def YamlText.silent : YamlText where
  str _ := []

/-- A profile that requires a NAS that is mounted read-only. -/
def readOnlyContext : Context where
  metadata := [(.str (Text.of "container_nas_root"), .str (Text.of "/nas")),
    (.str (Text.of "required_read_only_nas"), .other (Text.of "True") true)]
  slot := Text.of "a"
  projection := .ok none
  groups := []
  groupToken := []

/-- `/home/a/nas_docs:/nas:ro,rslave` -/
def readOnlyVolume : ShortVolume where
  source := Text.of "/home/a/nas_docs"
  target := Text.of "/nas"
  options := [Text.of "ro", Text.of "rslave"]
  source_free := by decide
  target_free := by decide
  known := by decide
  one_mode := by decide
  one_access := by decide

/-- The volume is read-only, and in short syntax it is not taken for it. -/
theorem readOnly_missed :
    ¬@Agrees YamlText.silent readOnlyContext [.str readOnlyVolume.text] := by
  let _ := YamlText.silent
  intro h
  have hverdicts : verdicts readOnlyContext ([] ++ .str readOnlyVolume.text :: []) =
      verdicts readOnlyContext ([] ++ readOnlyVolume.long :: []) := h [] readOnlyVolume [] rfl
  have hjudged := (verdicts_eq_iff (alike_long readOnlyVolume)).mp hverdicts
  have hspelt := (judgedAlike_iff readOnlyVolume).mp hjudged
  have hfirst : IsFirst readOnlyContext.nasRoot [] (.str readOnlyVolume.text) :=
    ⟨by rw [volumeTarget_text]; decide, rfl⟩
  exact (hspelt.nas hfirst).1 (by decide) ⟨Text.of "rslave", [], rfl, by decide⟩

end AgentRuntimeOps.Compose
