import AgentRuntimeOps.Activation.Loadable
import AgentRuntimeOps.Activation.Publish

/-!
# What interrupted runs leave behind

A transaction that `begin` has committed, and the states of the file system that publishing and
recovering can leave.  A `View` is what can change: the six entries, their staging paths and the
recovery marker; `Shows` says that a file system shows a view and is as `begin` left it elsewhere.
`Recovering` is the invariant of all runs.
-/

namespace AgentRuntimeOps.Activation

open AgentRuntimeOps.Lib

/-! ## Committed transactions -/

lemma Identity.mem_all (e : Identity) : e ∈ Identity.all := by
  cases e <;> decide

/-- A committed transaction, on a machine where recovery can be relied on. -/
structure Committed where
  machine : Machine
  args : Args
  fs : Fs
  manifest : Manifest
  root : Path
  baseline : Baseline
  payloads : Payloads
  prepared : Prepared args fs manifest root baseline payloads
  loads : Loads 2 manifest root
  owner : machine.euid = 0
  group : machine.egid = 0
  mask : newMode machine = 0o600
  distinct : ((visiblePaths manifest.path).map Path.parts).Nodup
  parents : ∀ e attr, manifest.baseline e ≠ manifest.candidate e →
    fs.node (manifest.path e).parts.dropLast = some (.dir attr) →
    attr.mode &&& 0o2000 = 0 ∨ attr.gid = 0 ∨ attr.gid = manifest.gid e

namespace Committed

variable (t : Committed)

/-- Where an entry is. -/
abbrev entry (e : Identity) : List Name := (t.manifest.path e).parts

/-- Where an entry is staged. -/
abbrev staging (e : Identity) : List Name := (tempPath (t.manifest.path e)).parts

/-- The node of an entry in a variant. -/
def nodeOf : Variant → Identity → Option Node
  | .baseline, e => t.fs.node (t.entry e)
  | .candidate, e => some (candidateNode t.payloads (t.manifest.gid e) e)

/-- The payload of an entry in a variant. -/
def dataOf : Variant → Identity → Option (List UInt8)
  | .baseline, e => t.baseline.data e
  | .candidate, e => candidateData t.payloads e

lemma records (variant : Variant) (e : Identity) :
    Records e (t.manifest.gid e) (t.nodeOf variant e) (t.manifest.identity variant e)
      (t.dataOf variant e) := by
  cases variant with
  | baseline => exact t.prepared.baselines e
  | candidate => exact t.prepared.candidates e

/-- The transaction directory with this marker. -/
abbrev dir (marker : Option FileNode) : TxDir := txDir 2 t.manifest t.baseline t.payloads marker

/-! ## The places of the entries -/

lemma places_nodup :
    (Identity.all.map t.entry).Nodup ∧ (Identity.all.map t.staging).Nodup ∧
      ∀ e e', t.entry e ≠ t.staging e' := by
  have h := t.distinct
  simp only [visiblePaths, List.map_append, List.map_map, List.nodup_append] at h
  obtain ⟨hentry, hstaging, hdisjoint⟩ := h
  refine ⟨hentry, hstaging, fun e e' => ?_⟩
  exact hdisjoint _ (List.mem_map_of_mem e.mem_all) _ (List.mem_map_of_mem e'.mem_all)

lemma entry_inj {e e' : Identity} (h : t.entry e = t.entry e') : e = e' :=
  List.inj_on_of_nodup_map t.places_nodup.1 e.mem_all e'.mem_all h

lemma staging_inj {e e' : Identity} (h : t.staging e = t.staging e') : e = e' :=
  List.inj_on_of_nodup_map t.places_nodup.2.1 e.mem_all e'.mem_all h

lemma entry_ne_staging (e e' : Identity) : t.entry e ≠ t.staging e' := t.places_nodup.2.2 e e'

/-- A place that is neither an entry nor a staging path. -/
def Elsewhere (parts : List Name) : Prop := ∀ e, parts ≠ t.entry e ∧ parts ≠ t.staging e

/-- A managed entry is not a directory. -/
lemma elsewhere_of_dir {parts : List Name} {attr : Attr}
    (h : t.fs.node parts = some (.dir attr)) : t.Elsewhere parts := by
  intro e
  constructor
  · rintro rfl
    have hrecords := t.prepared.baselines e
    rw [h] at hrecords
    cases hrecords
  · rintro rfl
    have hfree := t.prepared.temps e
    rw [h] at hfree
    cases hfree

/-! ## Views -/

end Committed

/-- What publishing and recovering change: the entries, their staging paths and the marker. -/
@[ext] structure View where
  node : Identity → Option Node
  temp : Identity → Option Node
  marker : Option FileNode

namespace View

/-- The view with an entry replaced. -/
def setNode (v : View) (e : Identity) (node : Option Node) : View :=
  { v with node := Function.update v.node e node }

/-- The view with a staging path replaced. -/
def setTemp (v : View) (e : Identity) (node : Option Node) : View :=
  { v with temp := Function.update v.temp e node }

/-- The view with another marker. -/
def setMarker (v : View) (marker : FileNode) : View := { v with marker := some marker }

variable (v : View) (e : Identity) (node node' : Option Node) (marker : FileNode)

@[simp] lemma setNode_node : (v.setNode e node).node = Function.update v.node e node := rfl

@[simp] lemma setNode_temp : (v.setNode e node).temp = v.temp := rfl

@[simp] lemma setNode_marker : (v.setNode e node).marker = v.marker := rfl

@[simp] lemma setTemp_node : (v.setTemp e node).node = v.node := rfl

@[simp] lemma setTemp_temp : (v.setTemp e node).temp = Function.update v.temp e node := rfl

@[simp] lemma setTemp_marker : (v.setTemp e node).marker = v.marker := rfl

@[simp] lemma setTemp_setTemp : (v.setTemp e node).setTemp e node' = v.setTemp e node' := by
  simp [setTemp]

@[simp] lemma setMarker_node : (v.setMarker marker).node = v.node := rfl

@[simp] lemma setMarker_temp : (v.setMarker marker).temp = v.temp := rfl

@[simp] lemma setMarker_marker : (v.setMarker marker).marker = some marker := rfl

lemma setTemp_self (h : v.temp e = node) : v.setTemp e node = v := by
  subst h
  simp [setTemp]

/-- Renaming a staged node that the view had not. -/
lemma setTemp_setNode_setTemp (h : v.temp e = none) :
    ((v.setTemp e node).setNode e node').setTemp e none = v.setNode e node' := by
  ext1
  · rfl
  · simp [← h]
  · rfl

end View

namespace Committed

variable (t : Committed)

/-- The file system shows the view, and is elsewhere as `begin` left it. -/
structure Shows (v : View) (fs : Fs) : Prop where
  node : ∀ e, fs.node (t.entry e) = v.node e
  temp : ∀ e, fs.node (t.staging e) = v.temp e
  elsewhere : ∀ parts, t.Elsewhere parts → fs.node parts = t.fs.node parts
  pending : fs.pending = some (t.dir v.marker)
  candidate : fs.candidate = t.fs.candidate
  taken : fs.taken = t.fs.taken

variable {t} {v : View} {fs fs' : Fs} {e : Identity}

/-- A view is shown by one file system. -/
lemma Shows.unique (h : t.Shows v fs) (h' : t.Shows v fs') : fs' = fs := by
  have hnode : fs'.node = fs.node := by
    funext parts
    by_cases hentry : ∃ e, parts = t.entry e
    · obtain ⟨e, rfl⟩ := hentry
      rw [h.node, h'.node]
    by_cases hstaging : ∃ e, parts = t.staging e
    · obtain ⟨e, rfl⟩ := hstaging
      rw [h.temp, h'.temp]
    have helse : t.Elsewhere parts :=
      fun e => ⟨fun heq => hentry ⟨e, heq⟩, fun heq => hstaging ⟨e, heq⟩⟩
    rw [h.elsewhere parts helse, h'.elsewhere parts helse]
  obtain ⟨node, candidate, pending, taken⟩ := fs
  obtain ⟨node', candidate', pending', taken'⟩ := fs'
  simp only [Fs.mk.injEq]
  exact ⟨hnode, h'.candidate.trans h.candidate.symm, h'.pending.trans h.pending.symm,
    h'.taken.trans h.taken.symm⟩

lemma Shows.setNode (h : t.Shows v fs) (e : Identity) (node : Option Node) :
    t.Shows (v.setNode e node) (fs.setNode (t.manifest.path e) node) where
  node e' := by
    by_cases he : e' = e
    · subst he
      simp [Fs.setNode]
    · have hne : t.entry e' ≠ t.entry e := fun heq => he (t.entry_inj heq)
      simp [Fs.setNode, Function.update_of_ne hne, Function.update_of_ne he, h.node]
  temp e' := by
    have hne : t.staging e' ≠ t.entry e := (t.entry_ne_staging e e').symm
    simp [Fs.setNode, Function.update_of_ne hne, h.temp]
  elsewhere parts helse := by
    simp [Fs.setNode, Function.update_of_ne (helse e).1, h.elsewhere parts helse]
  pending := h.pending
  candidate := h.candidate
  taken := h.taken

lemma Shows.setTemp (h : t.Shows v fs) (e : Identity) (node : Option Node) :
    t.Shows (v.setTemp e node) (fs.setNode (tempPath (t.manifest.path e)) node) where
  node e' := by
    have hne : t.entry e' ≠ t.staging e := t.entry_ne_staging e' e
    simp [Fs.setNode, Function.update_of_ne hne, h.node]
  temp e' := by
    by_cases he : e' = e
    · subst he
      simp [Fs.setNode]
    · have hne : t.staging e' ≠ t.staging e := fun heq => he (t.staging_inj heq)
      simp [Fs.setNode, Function.update_of_ne hne, Function.update_of_ne he, h.temp]
  elsewhere parts helse := by
    simp [Fs.setNode, Function.update_of_ne (helse e).2, h.elsewhere parts helse]
  pending := h.pending
  candidate := h.candidate
  taken := h.taken

lemma Shows.setMarker (h : t.Shows v fs) (marker : FileNode) :
    t.Shows (v.setMarker marker) (fs.setMarker marker) where
  node := h.node
  temp := h.temp
  elsewhere := h.elsewhere
  pending := by
    have hpayloads : ∀ file ∈ payloadFiles t.baseline t.payloads, file.1 ≠ .recovered := by
      intro file hfile
      simp only [payloadFiles, List.mem_append, List.mem_map, List.mem_flatMap,
        List.mem_singleton] at hfile
      rcases hfile with ((⟨e, -, data, -, rfl⟩ | ⟨e, -, rfl⟩) | ⟨data, -, rfl⟩) | rfl
      all_goals
        intro hrecovered
        cases hrecovered
    have hfilter : (t.dir v.marker).files.filter (fun f => f.1 ≠ .recovered) =
        payloadFiles t.baseline t.payloads := by
      simp only [txDir, List.filter_append]
      rw [List.filter_eq_self.mpr fun file hfile => decide_eq_true (hpayloads file hfile)]
      cases v.marker <;> simp
    simp only [Fs.setMarker, h.pending, Option.map_some, hfilter]
    rfl
  candidate := h.candidate
  taken := h.taken

lemma Shows.marker? (h : t.Shows v fs) : fs.marker? = v.marker := by
  simp only [Fs.marker?, h.pending, Option.bind_some]
  rw [lookup_txDir]

end Committed

/-! ## Matching -/

section matching

variable {e : Identity} {gid : Nat} {node node' : Option Node} {identity identity' : Meta}
  {data data' : Option (List UInt8)}

lemma Records.matches (h : Records e gid node identity data) :
    matchesIdentity node identity data = true := by
  cases h with
  | absent => rfl
  | regular hkind hlen => simp [matchesIdentity, hlen]
  | symlink hkind hsafe => simp [matchesIdentity]

/-- A node matches an identity exactly if its own is the same. -/
lemma Records.matches_iff (h : Records e gid node identity data)
    (h' : Records e gid node' identity' data') :
    matchesIdentity node identity' data' = true ↔ identity = identity' := by
  constructor
  · intro hmatch
    cases h with
    | absent =>
        cases h' with
        | absent => rfl
        | regular => cases hmatch
        | symlink => cases hmatch
    | regular hkind hlen =>
        cases h' with
        | absent => cases hmatch
        | regular hkind' hlen' =>
            simp only [matchesIdentity, Bool.and_eq_true, beq_iff_eq] at hmatch
            obtain ⟨⟨-, hbytes⟩, hsha⟩ := hmatch
            rw [hbytes, hsha]
        | symlink => cases hmatch
    | symlink hkind hsafe =>
        cases h' with
        | absent => cases hmatch
        | regular => cases hmatch
        | symlink hkind' hsafe' =>
            simp only [matchesIdentity, Bool.and_eq_true, beq_iff_eq] at hmatch
            rw [hmatch.2]
  · rintro rfl
    have hsome : data'.isSome = data.isSome := by
      rw [Bool.eq_iff_iff, h'.isSome_iff, h.isSome_iff]
    have hmatch := h.matches
    unfold matchesIdentity at hmatch ⊢
    rw [hsome]
    exact hmatch

end matching

namespace Committed

variable (t : Committed)

lemma payload_dir (marker : Option FileNode) (variant : Variant) (e : Identity) :
    payload (t.dir marker) e variant = .ok (t.dataOf variant e) := by
  have hrecords := t.records variant e
  have hlookup : (t.dir marker).files.lookup (.payload variant e) =
      (t.dataOf variant e).map fun data => { data := data, attr := writtenAttr } := by
    rw [lookup_txDir]
    by_cases he : e ∈ Identity.payloadNames
    · cases variant with
      | baseline => simp only [he, if_true, dataOf]
      | candidate =>
          simp only [he, if_true, dataOf]
          cases e with
          | manifest | current => exact absurd he (by decide)
          | _ => rfl
    · have hlink : e.isSymlink = true := by
        cases e with
        | manifest | current => rfl
        | _ => exact absurd (by decide) he
      have hdata : t.dataOf variant e = none := by
        generalize t.dataOf variant e = data, t.nodeOf variant e = node,
          t.manifest.identity variant e = identity at hrecords
        cases hrecords with
        | absent => rfl
        | regular hkind => rw [hlink] at hkind; cases hkind
        | symlink => rfl
      rw [hdata]
      cases variant <;> simp only [he, if_false, Option.map_none]
  unfold payload
  rw [hlookup]
  generalize t.dataOf variant e = data, t.nodeOf variant e = node,
    t.manifest.identity variant e = identity at hrecords ⊢
  cases hrecords with
  | absent => rfl
  | symlink => rfl
  | regular hkind hlen =>
      simp only [Option.map_some, FileNode.readBounded, except_bind_ok, check_ok, except_pure_ok]
      exact ⟨_, ⟨(), rfl, (), hlen, rfl⟩, rfl⟩

variable {t} {v : View} {fs : Fs} {e : Identity}

lemma Shows.entryMatches (h : t.Shows v fs) (variant : Variant) (e : Identity) :
    entryMatches (t.dir v.marker) fs variant e =
      .ok (matchesIdentity (v.node e) (t.manifest.identity variant e) (t.dataOf variant e)) := by
  unfold Activation.entryMatches
  rw [t.payload_dir, ← h.node e]
  rfl

/-! ## The invariant -/

variable (t)

/-- The entry has two different identities. -/
def Changes (e : Identity) : Prop := t.manifest.baseline e ≠ t.manifest.candidate e

/-- What a staging path may hold: nothing, a part of a payload before or after its mode and its
owner are set, or a link before or after its owner is set. -/
inductive Staged (e : Identity) : Option Node → Prop where
  | free : Staged e none
  | file {variant : Variant} {data full : List UInt8} {mode gid : Nat}
      (hfull : t.dataOf variant e = some full) (hpart : data <+: full)
      (hmode : mode = 0o600 ∨ mode = regularMode e) (hgid : gid = 0 ∨ gid = t.manifest.gid e) :
      Staged e (some (.file
        { data := data, attr := { mode := mode, uid := 0, gid := gid, nlink := 1 } }))
  | link {variant : Variant} {target : List Char} {gid : Nat}
      (htarget : (t.manifest.identity variant e).target? = some target)
      (hgid : gid = 0 ∨ gid = t.manifest.gid e) : Staged e (some (.symlink target 0 gid 1))

/-- An entry that is at its baseline, or that is being changed. -/
def EntrySafe (v : View) (e : Identity) : Prop :=
  (v.node e = t.nodeOf .baseline e ∧ v.temp e = none) ∨
    (t.Changes e ∧ (∃ variant, v.node e = t.nodeOf variant e) ∧ t.Staged e (v.temp e))

/-- Every entry is at its baseline, and nothing is staged. -/
def Settled (v : View) : Prop := ∀ e, v.node e = t.nodeOf .baseline e ∧ v.temp e = none

/-- The invariant: every entry has one of its identities, what is staged may be discarded, and the
marker is there only when the baseline is. -/
structure Recovering (v : View) : Prop where
  entries : ∀ e, t.EntrySafe v e
  marker : ∀ file, v.marker = some file → file.attr = writtenAttr ∧ t.Settled v

variable {t}

lemma Staged.safe {node : Option Node} (h : t.Staged e node) :
    safeRecoveryTemp node (t.manifest.baseline e) (t.manifest.candidate e)
      (t.dataOf .baseline e) (t.dataOf .candidate e) (t.manifest.gid e) = true := by
  cases h with
  | free => rfl
  | @file variant data full mode gid hfull hpart hmode hgid =>
      have hrecords := t.records variant e
      rw [hfull] at hrecords
      generalize hidentity : t.manifest.identity variant e = identity at hrecords
      generalize t.nodeOf variant e = node at hrecords
      cases hrecords with
      | regular hkind hlen =>
          have hle : data.length ≤ maxWrapperBytes := hpart.length_le.trans hlen
          have hprefix : data.isPrefixOf full = true := List.isPrefixOf_iff_prefix.mpr hpart
          have hmode' : mode = 0o600 ∨ (t.manifest.identity variant e).mode? = some mode := by
            rw [hidentity]
            exact hmode.imp_right fun h => congrArg some h.symm
          have hkind' : (t.manifest.identity variant e).kind = .regular := hidentity ▸ rfl
          cases variant with
          | baseline =>
              have hkind' : (t.manifest.baseline e).kind = .regular := hkind'
              have hmode' : mode = 0o600 ∨ (t.manifest.baseline e).mode? = some mode := hmode'
              simp only [safeRecoveryTemp, hfull, hle, hkind', Option.any_some, hprefix]
              rcases hmode' with rfl | hmode' <;> rcases hgid with rfl | rfl <;> simp [*]
          | candidate =>
              have hkind' : (t.manifest.candidate e).kind = .regular := hkind'
              have hmode' : mode = 0o600 ∨ (t.manifest.candidate e).mode? = some mode := hmode'
              simp only [safeRecoveryTemp, hfull, hle, hkind', Option.any_some, hprefix]
              rcases hmode' with rfl | hmode' <;> rcases hgid with rfl | rfl <;> simp [*]
  | @link variant target gid htarget hgid =>
      cases variant with
      | baseline =>
          have htarget : (t.manifest.baseline e).target? = some target := htarget
          rcases hgid with rfl | rfl <;> simp [safeRecoveryTemp, htarget]
      | candidate =>
          have htarget : (t.manifest.candidate e).target? = some target := htarget
          rcases hgid with rfl | rfl <;> simp [safeRecoveryTemp, htarget]

lemma EntrySafe.staged (h : t.EntrySafe v e) : t.Staged e (v.temp e) := by
  rcases h with ⟨-, htemp⟩ | ⟨-, -, hstaged⟩
  · rw [htemp]
    exact .free
  · exact hstaged

lemma EntrySafe.variant (h : t.EntrySafe v e) : ∃ variant, v.node e = t.nodeOf variant e := by
  rcases h with ⟨hnode, -⟩ | ⟨-, hnode, -⟩
  · exact ⟨.baseline, hnode⟩
  · exact hnode

lemma matches_nodeOf (variant variant' : Variant) (e : Identity) :
    matchesIdentity (t.nodeOf variant e) (t.manifest.identity variant' e) (t.dataOf variant' e) =
      true ↔ t.manifest.identity variant e = t.manifest.identity variant' e :=
  (t.records variant e).matches_iff (t.records variant' e)

/-- An entry that does not match one of its identities has two. -/
lemma EntrySafe.changes_of_mismatch (h : t.EntrySafe v e) {variant : Variant}
    (hmatch : ¬ matchesIdentity (v.node e) (t.manifest.identity variant e) (t.dataOf variant e) =
      true) : t.Changes e := by
  rcases h with ⟨hnode, -⟩ | ⟨hchanges, -, -⟩
  · rw [hnode, matches_nodeOf] at hmatch
    cases variant with
    | baseline => exact absurd rfl hmatch
    | candidate => exact hmatch
  · exact hchanges

/-- An entry that matches its baseline is at its baseline. -/
lemma EntrySafe.eq_of_matches (h : t.EntrySafe v e)
    (hmatch : matchesIdentity (v.node e) (t.manifest.baseline e) (t.dataOf .baseline e) = true) :
    v.node e = t.nodeOf .baseline e := by
  rcases h with ⟨hnode, -⟩ | ⟨hchanges, ⟨variant, hnode⟩, -⟩
  · exact hnode
  · cases variant with
    | baseline => exact hnode
    | candidate =>
        rw [hnode] at hmatch
        exact absurd ((matches_nodeOf .candidate .baseline e).mp hmatch).symm hchanges

lemma EntrySafe.matches_some (h : t.EntrySafe v e) :
    matchesIdentity (v.node e) (t.manifest.baseline e) (t.dataOf .baseline e) = true ∨
      matchesIdentity (v.node e) (t.manifest.candidate e) (t.dataOf .candidate e) = true := by
  obtain ⟨variant, hnode⟩ := h.variant
  rw [hnode]
  cases variant with
  | baseline => exact .inl (t.records .baseline e).matches
  | candidate => exact .inr (t.records .candidate e).matches

/-- Two settled views with one marker are one. -/
lemma Settled.unique {v' : View} (h : t.Settled v) (h' : t.Settled v')
    (hmarker : v'.marker = v.marker) : v' = v := by
  ext1
  · funext e
    rw [(h e).1, (h' e).1]
  · funext e
    rw [(h e).2, (h' e).2]
  · exact hmarker

namespace Recovering

/-- Something that may be discarded is staged. -/
lemma setTemp (h : t.Recovering v) (hmarker : v.marker = none) (hchanges : t.Changes e)
    {node : Option Node} (hstaged : t.Staged e node) : t.Recovering (v.setTemp e node) where
  entries e' := by
    by_cases he : e' = e
    · subst he
      refine .inr ⟨hchanges, (h.entries e').variant, ?_⟩
      simpa using hstaged
    · have hentry := h.entries e'
      simpa [EntrySafe, Function.update_of_ne he] using hentry
  marker file hfile := by
    rw [View.setTemp_marker, hmarker] at hfile
    cases hfile

/-- What is staged is discarded. -/
lemma discard (h : t.Recovering v) (e : Identity) : t.Recovering (v.setTemp e none) where
  entries e' := by
    by_cases he : e' = e
    · subst he
      rcases h.entries e' with ⟨hnode, -⟩ | ⟨hchanges, hnode, -⟩
      · exact .inl ⟨hnode, by simp⟩
      · refine .inr ⟨hchanges, hnode, ?_⟩
        simpa using Staged.free
    · have hentry := h.entries e'
      simpa [EntrySafe, Function.update_of_ne he] using hentry
  marker file hfile := by
    obtain ⟨hattr, hsettled⟩ := h.marker file hfile
    refine ⟨hattr, ?_⟩
    rw [View.setTemp_self v e none (hsettled e).2]
    exact hsettled

/-- An entry is published. -/
lemma setNode (h : t.Recovering v) (hmarker : v.marker = none) (hchanges : t.Changes e)
    (variant : Variant) : t.Recovering (v.setNode e (t.nodeOf variant e)) where
  entries e' := by
    by_cases he : e' = e
    · subst he
      refine .inr ⟨hchanges, ⟨variant, by simp⟩, (h.entries e').staged⟩
    · have hentry := h.entries e'
      simpa [EntrySafe, Function.update_of_ne he] using hentry
  marker file hfile := by
    rw [View.setNode_marker, hmarker] at hfile
    cases hfile

/-- The marker is written when the baseline is there. -/
lemma setMarker (hsettled : t.Settled v) {file : FileNode} (hattr : file.attr = writtenAttr) :
    t.Recovering (v.setMarker file) where
  entries e := .inl (hsettled e)
  marker file' hfile := by
    cases hfile
    exact ⟨hattr, hsettled⟩

end Recovering

/-! ## Loading in between -/

lemma Shows.dir_node (h : t.Shows v fs) {parts : List Name} {attr : Attr}
    (hdir : t.fs.node parts = some (.dir attr)) : fs.node parts = some (.dir attr) :=
  (h.elsewhere parts (t.elsewhere_of_dir hdir)).trans hdir

lemma isRootControlled_dir {immediate : Bool} {node : Node}
    (h : isRootControlled immediate node = true) : ∃ attr, node = .dir attr := by
  cases node with
  | dir attr => exact ⟨attr, rfl⟩
  | file => cases h
  | symlink => cases h
  | other => cases h

/-- The directories above an endpoint. -/
lemma validateParentChain_ok {fs : Fs} {p : Path} :
    validateParentChain fs p = .ok () ↔ ∀ ancestor ∈ ancestors p.parts, ∃ node,
      fs.node ancestor = some node ∧
        isRootControlled (ancestor == p.parts.dropLast) node = true := by
  simp only [validateParentChain, requireEach_ok, except_bind_ok, orRaise_ok, check_ok]

lemma Shows.validateParentChain (h : t.Shows v fs) {p : Path}
    (hp : validateParentChain t.fs p = .ok ()) : validateParentChain fs p = .ok () := by
  rw [validateParentChain_ok] at hp ⊢
  intro ancestor hancestor
  obtain ⟨node, hnode, hcontrolled⟩ := hp ancestor hancestor
  obtain ⟨attr, rfl⟩ := isRootControlled_dir hcontrolled
  exact ⟨_, h.dir_node hnode, hcontrolled⟩

lemma Shows.validateEndpointIsolation (h : t.Shows v fs) :
    validateEndpointIsolation fs t.manifest.path (pendingPath t.root) = .ok () := by
  have hisolation := t.prepared.isolation
  simp only [Activation.validateEndpointIsolation, except_bind_ok, check_ok, requireEach_ok]
    at hisolation ⊢
  obtain ⟨_, hnodup, _, heach, _, hmanifest, hcurrent⟩ := hisolation
  refine ⟨(), hnodup, (), fun endpoint hendpoint => ?_, (), hmanifest, hcurrent⟩
  obtain ⟨_, hchain, hoverlap⟩ := heach endpoint hendpoint
  exact ⟨(), h.validateParentChain hchain, hoverlap⟩

/-- A path along directories is its own resolution. -/
lemma resolve_dirs {fs : Fs} (fuel : Nat) (done rest : List Name)
    (hparts : ∀ part ∈ rest, isPart part = true)
    (hdirs : ∀ front, front <+: rest → ∃ attr, fs.node (done ++ front) = some (.dir attr)) :
    fs.resolve fuel done rest = done ++ rest := by
  induction fuel generalizing done rest with
  | zero => rfl
  | succ fuel ih =>
      cases rest with
      | nil => simp [Fs.resolve]
      | cons part rest =>
          have hpart := hparts part List.mem_cons_self
          simp only [isPart, Bool.and_eq_true, bne_iff_ne] at hpart
          obtain ⟨attr, hnode⟩ := hdirs [part] (by simp)
          have hnext := ih (done ++ [part]) rest
            (fun part' hpart' => hparts part' (List.mem_cons_of_mem _ hpart'))
            (fun front hfront => by
              have hd := hdirs (part :: front) (List.cons_prefix_cons.mpr ⟨rfl, hfront⟩)
              simpa using hd)
          simp only [Fs.resolve, hpart, or_self, if_false, hnode]
          simpa using hnext

lemma parts_ofText {text : List Char} {p : Path} (h : Path.ofText? text = some p) :
    ∀ part ∈ p.parts, isPart part = true := by
  have hrest : ∀ {doubled : Bool} {rest : List Char}, Path.ofRest? doubled rest = some p →
      ∀ part ∈ p.parts, isPart part = true := by
    intro doubled rest hr
    unfold Path.ofRest? at hr
    split_ifs at hr with hnil hall
    · cases hr
      nofun
    · cases hr
      exact List.all_eq_true.mp hall
  unfold Path.ofText? at h
  split at h
  · exact hrest h
  · exact hrest h
  · cases h

/-- Every directory down to the install root is one. -/
lemma root_dirs (t : Committed) {front : List Name} (hfront : front <+: t.root.parts) :
    ∃ attr, t.fs.node front = some (.dir attr) := by
  have hisolation := t.prepared.isolation
  simp only [Activation.validateEndpointIsolation, except_bind_ok, check_ok, requireEach_ok]
    at hisolation
  obtain ⟨_, -, _, heach, _, hmanifest, -⟩ := hisolation
  have hmem : t.manifest.path .manifest ∈ visiblePaths t.manifest.path :=
    List.mem_append_left _ (List.mem_map_of_mem (Identity.mem_all .manifest))
  obtain ⟨_, hchain, -⟩ := heach _ hmem
  have hparts : (t.manifest.path .manifest).parts.dropLast = t.root.parts := by
    rw [hmanifest, pendingPath, Path.parent_child]
    simp [Path.child]
  have hancestor : front ∈ ancestors (t.manifest.path .manifest).parts := by
    rw [ancestors, hparts, List.mem_reverse, List.mem_inits]
    exact hfront
  obtain ⟨node, hnode, hcontrolled⟩ := validateParentChain_ok.mp hchain front hancestor
  obtain ⟨attr, rfl⟩ := isRootControlled_dir hcontrolled
  exact ⟨attr, hnode⟩

lemma lstat_root {fs : Fs} (hdirs : ∀ front, front <+: t.root.parts →
    ∃ attr, fs.node front = some (.dir attr)) :
    fs.lstat t.root = orRaise (fs.node t.root.parts) (.os "No such file or directory") := by
  have hparts := parts_ofText (safeAbsolute_ok t.prepared.installRoot)
  have hresolve := @resolve_dirs fs 1000 [] t.root.parts.dropLast
    (fun part hpart => hparts part (List.dropLast_subset _ hpart))
    (fun front hfront => hdirs front (hfront.trans (List.dropLast_prefix _)))
  simp only [Fs.lstat, hresolve, List.nil_append]
  congr 2
  cases h : t.root.parts using List.reverseRecOn with
  | nil => rfl
  | append_singleton front last => simp

lemma Shows.lstat_root (h : t.Shows v fs) : fs.lstat t.root = t.fs.lstat t.root := by
  have hdirs : ∀ front, front <+: t.root.parts → ∃ attr, fs.node front = some (.dir attr) := by
    intro front hfront
    obtain ⟨attr, hattr⟩ := t.root_dirs hfront
    exact ⟨attr, h.dir_node hattr⟩
  obtain ⟨attr, hattr⟩ := t.root_dirs (List.prefix_refl _)
  rw [Committed.lstat_root hdirs, Committed.lstat_root fun _ => t.root_dirs, hattr,
    h.dir_node hattr]

/-- The transaction can be loaded whatever the runs before have left. -/
lemma Shows.load (h : t.Shows v fs) (hr : t.Recovering v) :
    loadTransaction t.args fs = .ok (t.dir v.marker) :=
  (load_iff t.prepared
    (validateRootControlledDirectory_congr h.lstat_root t.prepared.rootDir)
    h.validateEndpointIsolation h.pending (fun file hfile => (hr.marker file hfile).1) _).mpr
    ⟨t.loads, rfl⟩

end Committed

end AgentRuntimeOps.Activation
