import AgentRuntimeOps.Activation.Load

/-!
# Can a committed transaction be loaded?

`begin` and `_load_transaction` check much the same, each in its own words.  `Prepared` collects
what `begin` has established; the loader asks for three things more (`Loadable`), and
`load_after_begin_iff` says that a committed transaction loads exactly if they hold.
-/

namespace AgentRuntimeOps.Activation

open AgentRuntimeOps.Lib

/-! ## Identities and what they record -/

/-- An identity of an entry, the node that it describes, and the bytes of its payload. -/
inductive Records (e : Identity) (gid : Nat) :
    Option Node → Meta → Option (List UInt8) → Prop where
  | absent : Records e gid none .absent none
  | regular {data : List UInt8} (hkind : e.isSymlink = false)
      (hlen : data.length ≤ maxWrapperBytes) :
      Records e gid
        (some (.file
          { data := data, attr := { mode := regularMode e, uid := 0, gid := gid, nlink := 1 } }))
        (.regular (hexdigest data) data.length (regularMode e) 0 gid 1) (some data)
  | symlink {target : List Char} (hkind : e.isSymlink = true)
      (hsafe : isSafeTarget target = true) :
      Records e gid (some (.symlink target 0 gid 1)) (.symlink target 0o777 0 gid 1) none

variable {e : Identity} {gid : Nat} {node : Option Node} {identity : Meta}
  {data : Option (List UInt8)}

/-- A recorded identity passes the loader's check. -/
lemma Records.validate (h : Records e gid node identity data) {allowed : List Kind}
    (hallowed : identity.kind ∈ allowed) (whereText : String) :
    validateMeta identity whereText allowed gid (regularMode e) = .ok () := by
  unfold validateMeta
  rw [check_of hallowed]
  cases h with
  | absent => rfl
  | regular hkind hlen =>
      exact check_of ⟨length_hexdigest _, hexdigest_all _, hlen, rfl, rfl, rfl, rfl⟩
  | symlink hkind hsafe => exact check_of ⟨hsafe, rfl, rfl, rfl, rfl⟩

lemma Records.kind_mem (h : Records e gid node identity data) :
    identity.kind ∈ baselineKinds e := by
  cases h with
  | absent =>
      unfold baselineKinds
      split
      · exact List.mem_cons_self
      · exact List.mem_cons_self
  | regular hkind => simp [baselineKinds, hkind, Meta.kind]
  | symlink hkind => simp [baselineKinds, hkind, Meta.kind]

lemma Records.isSome_iff (h : Records e gid node identity data) :
    data.isSome = true ↔ identity.kind = .regular := by
  cases h with
  | absent => exact ⟨nofun, nofun⟩
  | regular => exact ⟨fun _ => rfl, fun _ => rfl⟩
  | symlink => exact ⟨nofun, nofun⟩

lemma regularMeta_ok {fs : Fs} {p : Path} {found : Meta × List UInt8}
    (hkind : e.isSymlink = false) (h : regularMeta fs p (regularMode e) 0 gid = .ok found) :
    Records e gid (fs.node p.parts) found.1 (some found.2) ∧ found.1.kind = .regular := by
  unfold regularMeta at h
  obtain ⟨node, hnode, h⟩ := except_bind_ok.mp h
  rw [orRaise_ok.mp hnode]
  cases node with
  | file file =>
      simp only [FileNode.readBounded, except_bind_ok, check_ok, except_pure_ok] at h
      obtain ⟨_, hattr, _, ⟨_, -, _, hlen, rfl⟩, rfl⟩ := h
      obtain ⟨data, attr⟩ := file
      obtain rfl : attr = _ := hattr
      exact ⟨.regular hkind hlen, rfl⟩
  | symlink => cases h
  | dir => cases h
  | other => cases h

lemma symlinkMeta_ok {fs : Fs} {p : Path} {target : List Char} {found : Meta}
    (hkind : e.isSymlink = true) (h : symlinkMeta fs p 0 gid target = .ok found) :
    Records e gid (fs.node p.parts) found none ∧ found.target? = some target := by
  unfold symlinkMeta at h
  obtain ⟨node, hnode, h⟩ := except_bind_ok.mp h
  rw [orRaise_ok.mp hnode]
  cases node with
  | symlink target' uid gid' nlink =>
      simp only [except_bind_ok, check_ok, except_pure_ok] at h
      obtain ⟨_, ⟨rfl, rfl, rfl⟩, _, rfl, _, hsafe, rfl⟩ := h
      exact ⟨.symlink hkind hsafe, rfl⟩
  | file => cases h
  | dir => cases h
  | other => cases h

/-! ## What `begin` has established -/

/-- The node and the payload of a candidate. -/
def candidateNode (payloads : Payloads) (gid : Nat) (e : Identity) : Node :=
  if e.isSymlink then .symlink (payloads.target e) 0 gid 1
  else .file
    { data := payloads.regular e
      attr := { mode := regularMode e, uid := 0, gid := gid, nlink := 1 } }

/-- The bytes of a candidate. -/
def candidateData (payloads : Payloads) (e : Identity) : Option (List UInt8) :=
  if e.isSymlink then none else some (payloads.regular e)

/-- The transaction directory of an install root. -/
def pendingPath (root : Path) : Path := root.child ".activation-transaction.pending".toList

/-- The baselines of a first install, or of one over a previous release. -/
def BaselineKinds (m : Manifest) : Prop :=
  match m.previousRelease with
  | none => ∀ e ∈ Identity.entryNames, (m.baseline e).kind = .absent
  | some previous =>
      (∀ e ∈ Identity.regularNames, (m.baseline e).kind = .regular) ∧
        (m.baseline .manifest).target? = some manifestTarget ∧
        (m.baseline .current).target? = some (currentTarget previous)

/-- What `begin` has established of the manifest and the files it writes. -/
structure Prepared (args : Args) (fs : Fs) (m : Manifest) (root : Path) (baseline : Baseline)
    (payloads : Payloads) : Prop where
  installRoot : safeAbsolute args.installRoot "install_root" = .ok root
  transactionDir : safeAbsolute args.transactionDir "transaction_dir" = .ok (pendingPath root)
  release : safeAbsolute args.candidateRelease "candidate_release" = .ok m.candidateRelease
  paths : ∃ paths, configFromArgs args = .ok paths ∧ ∀ e ∈ Identity.entryNames, m.path e = paths e
  opsGid : (m.opsGid : Int) = args.opsGid
  rootDir : validateRootControlledDirectory fs root "install_root" = .ok ()
  commit : isCommit m.candidateCommit = true
  bound : (m.candidateCommit ++ ['.']).isPrefixOf m.candidateRelease.name = true
  unit : safeAbsolute (args.link .broker) "broker_unit" = .ok (m.path .broker)
  service : isServiceName m.serviceName = true
  unitName : (m.path .broker).name = m.serviceName
  isolation : validateEndpointIsolation fs m.path (pendingPath root) = .ok ()
  previous : previousPath args = .ok m.previousRelease
  state : checkBrokerState m.state (m.baseline .broker).kind m.previousRelease "unit"
    "an exact previous release" = .ok ()
  baselines : ∀ e, Records e (m.gid e) (fs.node (m.path e).parts) (m.baseline e) (baseline.data e)
  kinds : BaselineKinds m
  candidates : ∀ e, Records e (m.gid e) (some (candidateNode payloads (m.gid e) e)) (m.candidate e)
    (candidateData payloads e)
  manifestLink : (m.candidate .manifest).target? = some manifestTarget
  currentLink : (m.candidate .current).target? = some (currentTarget m.candidateRelease)
  temps : ∀ e, fs.node (tempPath (m.path e)).parts = none
  size : m.size ≤ maxManifestBytes

lemma candidatePayloads_ok {fs : Fs} {payloads : Payloads}
    (h : candidatePayloads fs = .ok payloads) (opsGid gid : Nat)
    (hgid : gid = match e with | .broker => 0 | _ => opsGid) :
    Records e gid (some (candidateNode payloads gid e)) (candidateMeta payloads opsGid e)
      (candidateData payloads e) := by
  have hpayload : ∀ {d : CandidateDir} {name : Name} {bytes : List UInt8},
      d.payload name = .ok bytes → bytes.length ≤ maxWrapperBytes := by
    intro d name bytes hd
    simp only [CandidateDir.payload, FileNode.readBounded, except_bind_ok, check_ok,
      except_pure_ok] at hd
    obtain ⟨file, -, _, -, _, -, _, hlen, rfl⟩ := hd
    exact hlen
  have hbroker : ∀ {d : CandidateDir} {bytes : List UInt8},
      d.brokerUnit = .ok bytes → bytes.length ≤ maxWrapperBytes := by
    intro d bytes hd
    simp only [CandidateDir.brokerUnit, FileNode.readBounded, except_bind_ok, check_ok,
      except_pure_ok] at hd
    obtain ⟨file, -, _, ⟨_, -, _, hlen, rfl⟩, _, -, rfl⟩ := hd
    exact hlen
  have htarget : ∀ {d : CandidateDir} {name : Name} {target : List Char},
      d.targetLine name = .ok target → isSafeTarget target = true := by
    intro d name target hd
    simp only [CandidateDir.targetLine, except_bind_ok, check_ok, except_pure_ok] at hd
    obtain ⟨file, -, _, -, _, -, _, -, _, hsafe, rfl⟩ := hd
    exact hsafe
  simp only [candidatePayloads, except_bind_ok, check_ok, except_pure_ok] at h
  obtain ⟨d, -, _, -, _, -, opsctl, hopsctl, mcp, hmcp, gemini, hgemini, manifest, hmanifest,
    current, hcurrent, broker, hb, rfl⟩ := h
  subst hgid
  cases e with
  | opsctl => exact .regular rfl (hpayload hopsctl)
  | mcp => exact .regular rfl (hpayload hmcp)
  | gemini => exact .regular rfl (hpayload hgemini)
  | manifest => exact .symlink rfl (htarget hmanifest)
  | current => exact .symlink rfl (htarget hcurrent)
  | broker => exact .regular rfl (hbroker hb)

/-- The baselines of the five entries. -/
lemma entriesBaseline_ok {fs : Fs} {paths : Identity → Path} {previous : Option Path}
    {releasesDir : Path} {opsGid : Nat} {found : Baseline}
    (h : entriesBaseline fs paths previous releasesDir opsGid = .ok found) :
    (∀ e ∈ Identity.entryNames,
      Records e opsGid (fs.node (paths e).parts) (found.identity e) (found.data e)) ∧
    match previous with
    | none => ∀ e ∈ Identity.entryNames, (found.identity e).kind = .absent
    | some previous =>
        (∀ e ∈ Identity.regularNames, (found.identity e).kind = .regular) ∧
          (found.identity .manifest).target? = some manifestTarget ∧
          (found.identity .current).target? = some (currentTarget previous) := by
  cases previous with
  | none =>
      simp only [entriesBaseline, firstInstallBaseline, except_bind_ok, requireEach_ok, check_ok,
        except_pure_ok] at h
      obtain ⟨_, habsent, rfl⟩ := h
      refine ⟨fun e he => ?_, fun _ _ => rfl⟩
      rw [habsent e he]
      exact .absent
  | some previous =>
      simp only [entriesBaseline, previousInstallBaseline, except_bind_ok] at h
      obtain ⟨node, -, h⟩ := h
      cases node with
      | dir attr =>
          simp only [except_bind_ok, check_ok, except_pure_ok] at h
          obtain ⟨_, -, current, hcurrent, _, -, manifest, hmanifest, opsctl, hopsctl, mcp, hmcp,
            gemini, hgemini, rfl⟩ := h
          have hcurrent := symlinkMeta_ok (e := .current) rfl hcurrent
          have hmanifest := symlinkMeta_ok (e := .manifest) rfl hmanifest
          have hopsctl := regularMeta_ok (e := .opsctl) rfl hopsctl
          have hmcp := regularMeta_ok (e := .mcp) rfl hmcp
          have hgemini := regularMeta_ok (e := .gemini) rfl hgemini
          refine ⟨fun e he => ?_, fun e he => ?_, hmanifest.2, hcurrent.2⟩
          · cases e with
            | opsctl => exact hopsctl.1
            | mcp => exact hmcp.1
            | gemini => exact hgemini.1
            | manifest => exact hmanifest.1
            | current => exact hcurrent.1
            | broker => exact absurd he (by decide)
          · cases e with
            | opsctl => exact hopsctl.2
            | mcp => exact hmcp.2
            | gemini => exact hgemini.2
            | _ => exact absurd he (by decide)
      | file => cases h
      | symlink => cases h
      | other => cases h

lemma brokerBaseline_ok {fs : Fs} {unit : Path} {found : Meta × Option (List UInt8)}
    (h : brokerBaseline fs unit = .ok found) :
    Records .broker 0 (fs.node unit.parts) found.1 found.2 := by
  unfold brokerBaseline at h
  split at h
  · rename_i hnone
    obtain rfl := except_pure_ok.mp h
    rw [hnone]
    exact .absent
  · simp only [except_bind_ok, except_pure_ok] at h
    obtain ⟨unit', hunit, rfl⟩ := h
    exact (regularMeta_ok (e := .broker) rfl hunit).1

/-- What `begin` has established. -/
lemma prepared_of_ok {machine : Machine} {args : Args} {fs : Fs} {m : Manifest}
    {files : List (TxName × FileNode)} (h : prepare machine args fs = .ok (m, files)) :
    ∃ root baseline payloads, Prepared args fs m root baseline payloads ∧
      files = payloadFiles baseline payloads := by
  simp only [prepare, except_bind_ok, check_ok, orRaise_ok, except_pure_ok, requireEach_ok,
    Prod.mk.injEq, exists_and_left, exists_const] at h
  obtain ⟨-, txDir, htx, root, hroot, releasesDir, -, release, hrelease, candidateDir, -, paths,
    hpaths, hgid, -, rfl, rfl, rfl, _, hrootDir, _, -, hcommit, _, -, payloads, hpayloads,
    hmanifest, hcurrent, hbound, unit, hunit, state, -, hservice, hname, _, hisolation, previous,
    hprevious, entries, hentries, broker, hbroker, _, hstate, htemps, h⟩ := h
  obtain ⟨hsize, rfl, rfl⟩ := h
  obtain ⟨hrecords, hkinds⟩ := entriesBaseline_ok hentries
  have hmem : ∀ e : Identity, e ∈ Identity.all := by
    intro e
    cases e <;> decide
  refine ⟨root, _, payloads, ?_, rfl⟩
  exact {
    installRoot := hroot
    transactionDir := htx
    release := hrelease
    paths := by
      refine ⟨paths, hpaths, fun e he => ?_⟩
      cases e with
      | broker => exact absurd he (by decide)
      | _ => rfl
    opsGid := Int.toNat_of_nonneg hgid
    rootDir := hrootDir
    commit := hcommit
    bound := hbound
    unit := hunit
    service := hservice
    unitName := hname
    isolation := hisolation
    previous := hprevious
    state := hstate
    baselines := by
      intro e
      cases e with
      | broker => exact brokerBaseline_ok hbroker
      | opsctl => exact hrecords .opsctl (by decide)
      | mcp => exact hrecords .mcp (by decide)
      | gemini => exact hrecords .gemini (by decide)
      | manifest => exact hrecords .manifest (by decide)
      | current => exact hrecords .current (by decide)
    kinds := by
      cases previous with
      | none =>
          intro e he
          cases e with
          | broker => exact absurd he (by decide)
          | _ => exact hkinds _ he
      | some previous =>
          refine ⟨fun e he => ?_, hkinds.2⟩
          cases e with
          | opsctl | mcp | gemini => exact hkinds.1 _ he
          | _ => exact absurd he (by decide)
    candidates := by
      intro e
      refine candidatePayloads_ok hpayloads _ _ ?_
      cases e <;> rfl
    manifestLink := congrArg some hmanifest
    currentLink := congrArg some hcurrent
    temps := fun e => htemps e (hmem e)
    size := hsize }

/-! ## The transaction directory -/

/-- The transaction directory that `begin` commits, with the recovery marker if there is one. -/
def txDir (links : Nat) (m : Manifest) (baseline : Baseline) (payloads : Payloads)
    (marker : Option FileNode) : TxDir where
  attr := { mode := 0o700, uid := 0, gid := 0, nlink := links }
  manifest := m
  manifestAttr := writtenAttr
  files := marker.toList.map (fun file => (.recovered, file)) ++ payloadFiles baseline payloads

section directory

variable {baseline : Baseline} {payloads : Payloads} {m : Manifest} {marker : Option FileNode}
  {links : Nat}

lemma lookup_payloadFile (key : TxName) (variant : Variant) (e : Identity) (data : List UInt8)
    (rest : List (TxName × FileNode)) :
    (payloadFile variant e data :: rest).lookup key =
      if key = .payload variant e then some { data := data, attr := writtenAttr }
      else rest.lookup key := by
  by_cases hkey : key = .payload variant e
  · simp [payloadFile, hkey]
  · have hbeq : (key == .payload variant e) = false := beq_eq_false_iff_ne.mpr hkey
    simp [payloadFile, List.lookup_cons, hkey, hbeq]

lemma lookup_payloads (key : TxName) (variant : Variant) (e : Identity)
    (data : Option (List UInt8)) :
    (data.toList.map (payloadFile variant e)).lookup key =
      if key = .payload variant e then
        data.map fun data => { data := data, attr := writtenAttr }
      else none := by
  cases data with
  | none => simp
  | some data => simp [lookup_payloadFile]

/-- The files of the directory, entry by entry. -/
lemma lookup_txDir (key : TxName) :
    (txDir links m baseline payloads marker).files.lookup key =
      match key with
      | .recovered => marker
      | .payload .baseline e => if e ∈ Identity.payloadNames then
          (baseline.data e).map fun data => { data := data, attr := writtenAttr } else none
      | .payload .candidate e => if e ∈ Identity.payloadNames then
          some { data := payloads.regular e, attr := writtenAttr } else none
      | .other _ => none := by
  have hmarker : (marker.toList.map fun file => (TxName.recovered, file)).lookup key =
      if key = .recovered then marker else none := by
    cases marker with
    | none => simp
    | some file =>
        by_cases hkey : key = .recovered
        · simp [hkey]
        · have hbeq : (key == TxName.recovered) = false := beq_eq_false_iff_ne.mpr hkey
          simp [List.lookup_cons, hkey, hbeq]
  simp only [txDir, payloadFiles, Identity.regularNames, List.flatMap_cons, List.flatMap_nil,
    List.map_cons, List.map_nil, List.lookup_append, hmarker, lookup_payloads,
    lookup_payloadFile]
  rcases key with ⟨variant, e⟩ | _ | name
  · cases variant with
    | baseline =>
        cases e <;> simp [Identity.payloadNames, Identity.regularNames]
    | candidate =>
        cases e <;> simp [Identity.payloadNames, Identity.regularNames]
  · simp
  · simp

lemma recovered_txDir : (txDir links m baseline payloads marker).recovered = marker.isSome := by
  unfold TxDir.recovered
  rw [lookup_txDir]

lemma sameNames_iff {α : Type} [BEq α] [LawfulBEq α] {a b : List α} :
    sameNames a b = true ↔ ∀ k, k ∈ a ↔ k ∈ b := by
  simp only [sameNames, Bool.and_eq_true, List.all_eq_true, List.contains_iff_mem]
  exact ⟨fun h k => ⟨h.1 k, h.2 k⟩, fun h => ⟨fun k => (h k).mp, fun k => (h k).mpr⟩⟩

lemma mem_names_iff {files : List (TxName × FileNode)} {key : TxName} :
    key ∈ files.map Prod.fst ↔ (files.lookup key).isSome = true := by
  rw [← not_iff_not, Bool.not_eq_true, Option.isSome_eq_false_iff, Option.isNone_iff_eq_none,
    List.lookup_eq_none_iff]
  simp only [List.mem_map, not_exists, not_and, bne_iff_ne, ne_eq]
  exact ⟨fun h p hp heq => h p hp heq.symm, fun h p hp heq => h p hp heq.symm⟩

lemma attr_txDir (hmarker : ∀ file, marker = some file → file.attr = writtenAttr) :
    ∀ file ∈ (txDir links m baseline payloads marker).files, file.2.attr = writtenAttr := by
  intro file hfile
  simp only [txDir, payloadFiles, List.mem_append, List.mem_map, List.mem_flatMap,
    List.mem_singleton, Option.mem_toList] at hfile
  rcases hfile with ⟨found, hfound, rfl⟩ | ((⟨e, -, data, -, rfl⟩ | ⟨e, -, rfl⟩) | ⟨data, -, rfl⟩) |
    rfl
  · exact hmarker found hfound
  · rfl
  · rfl
  · rfl
  · rfl

/-- The directory has the files it must have, and their payloads have their digests. -/
lemma checkFiles_txDir {gid : Identity → Nat} {node : Identity → Option Node}
    (hbaseline : ∀ e, Records e (gid e) (node e) (m.baseline e) (baseline.data e))
    (hcandidate : ∀ e, Records e (gid e) (some (candidateNode payloads (gid e) e)) (m.candidate e)
      (candidateData payloads e))
    (hmarker : ∀ file, marker = some file → file.attr = writtenAttr) :
    (txDir links m baseline payloads marker).checkFiles = .ok () := by
  have hpayload : ∀ variant e gid node identity data, Records e gid node identity data →
      (txDir links m baseline payloads marker).files.lookup (.payload variant e) =
        data.map (fun data => { data := data, attr := writtenAttr }) →
      (txDir links m baseline payloads marker).checkPayload variant e identity = .ok () := by
    intro variant e gid node identity data hrecords hlookup
    cases hrecords with
    | absent => rfl
    | symlink => rfl
    | regular hkind hlen =>
        simp only [TxDir.checkPayload, hlookup, Option.map_some, FileNode.readBounded,
          except_bind_ok, orRaise_ok, check_ok, except_pure_ok]
        exact ⟨_, rfl, _, ⟨(), rfl, (), hlen, rfl⟩, rfl, rfl⟩
  simp only [TxDir.checkFiles, except_bind_ok, check_ok, requireEach_ok]
  refine ⟨(), ?_, (), ⟨rfl, attr_txDir hmarker⟩, ?_⟩
  · rw [sameNames_iff]
    intro key
    rw [mem_names_iff, lookup_txDir]
    have hmem : key ∈ (txDir links m baseline payloads marker).expectedFiles ↔
        (key = .recovered ∧ marker.isSome = true) ∨
          (∃ e ∈ Identity.payloadNames, TxName.payload .candidate e = key) ∨
          ∃ e, (e ∈ Identity.payloadNames ∧ (m.baseline e).kind = .regular) ∧
            TxName.payload .baseline e = key := by
      simp only [TxDir.expectedFiles, expectedPayloads, recovered_txDir, List.mem_append,
        List.mem_map, List.mem_filter, decide_eq_true_eq]
      cases marker <;> simp [txDir]
    rw [hmem]
    rcases key with ⟨variant, e⟩ | _ | name
    · cases variant with
      | baseline =>
          by_cases he : e ∈ Identity.payloadNames
          · simp [he, ← (hbaseline e).isSome_iff]
          · simp [he]
      | candidate =>
          by_cases he : e ∈ Identity.payloadNames
          · simp [he]
          · simp [he]
    · simp
    · simp
  · intro e he
    refine ⟨(), hpayload _ _ _ _ _ _ (hbaseline e) ?_, hpayload _ _ _ _ _ _ (hcandidate e) ?_⟩
    · rw [lookup_txDir]
      simp only [he, if_true]
    · rw [lookup_txDir]
      simp only [he, if_true]
      cases e with
      | manifest | current => exact absurd he (by decide)
      | _ => rfl

end directory

/-! ## Loading -/

@[simp] lemma Path.parent_child (p : Path) (name : Name) : (p.child name).parent = p := by
  simp [Path.parent, Path.child]

@[simp] lemma Path.name_child (p : Path) (name : Name) : (p.child name).name = name := by
  simp [Path.name, Path.child]

/-- The loader's checks that `begin` does not make. -/
structure Loads (links : Nat) (m : Manifest) (root : Path) : Prop where
  links : links = 2
  candidate : m.candidateRelease.parent = root.child "releases".toList
  previous : ∀ previous, m.previousRelease = some previous →
    previous.parent = m.candidateRelease.parent ∧ previous ≠ m.candidateRelease

section loading

variable {args : Args} {fs fs' : Fs} {m : Manifest} {root : Path} {baseline : Baseline}
  {payloads : Payloads} {links : Nat} {marker : Option FileNode}

lemma checkManifest_iff (h : Prepared args fs m root baseline payloads) :
    checkManifest args (pendingPath root) m = .ok () ↔
      m.candidateRelease.parent = root.child "releases".toList ∧
        ∀ previous, m.previousRelease = some previous →
          previous.parent = m.candidateRelease.parent ∧ previous ≠ m.candidateRelease := by
  obtain ⟨paths, hpaths, hsame⟩ := h.paths
  simp only [checkManifest, hpaths, except_bind_ok, check_ok]
  constructor
  · rintro ⟨_, ⟨⟩, _, -, _, -, _, -, _, hparent, _, -, hprevious⟩
    refine ⟨by simpa [pendingPath] using hparent, ?_⟩
    rintro previous hp
    rw [hp] at hprevious
    exact check_ok.mp hprevious
  · rintro ⟨hparent, hprevious⟩
    refine ⟨paths, rfl, (), hsame, (), h.opsGid, (), h.commit, (), ?_, (), h.bound, ?_⟩
    · simpa [pendingPath] using hparent
    · cases hp : m.previousRelease with
      | none => rfl
      | some previous => exact check_of (hprevious previous hp)

lemma validateBaselines_ok (h : Prepared args fs m root baseline payloads) :
    validateBaselines m = .ok () := by
  have hkinds := h.kinds
  unfold BaselineKinds at hkinds
  unfold validateBaselines
  cases hp : m.previousRelease with
  | none =>
      rw [hp] at hkinds
      exact check_of hkinds
  | some previous =>
      rw [hp] at hkinds
      obtain ⟨hregular, hmanifest, hcurrent⟩ := hkinds
      have hsymlink : ∀ {value : Meta} {target : List Char}, value.target? = some target →
          value.kind = .symlink := by
        intro value target hvalue
        cases value with
        | symlink => rfl
        | absent => cases hvalue
        | regular => cases hvalue
      simp only [except_bind_ok, check_ok]
      refine ⟨(), hregular, (), fun e he => ?_, (), hmanifest, hcurrent⟩
      cases e with
      | manifest => exact hsymlink hmanifest
      | current => exact hsymlink hcurrent
      | _ => exact absurd he (by decide)

lemma validateEntry_ok (h : Prepared args fs m root baseline payloads) (e : Identity) :
    validateEntry m e = .ok () := by
  have hkind : (m.candidate e).kind ∈ [candidateKind e] := by
    have hc := h.candidates e
    generalize m.candidate e = identity at hc
    unfold candidateNode candidateData at hc
    unfold candidateKind
    cases hlink : e.isSymlink with
    | true =>
        rw [hlink] at hc
        cases hc
        exact List.mem_singleton_self _
    | false =>
        rw [hlink] at hc
        cases hc
        exact List.mem_singleton_self _
  simp only [validateEntry, except_bind_ok]
  exact ⟨(), (h.baselines e).validate (h.baselines e).kind_mem _, (h.candidates e).validate hkind _⟩

lemma checkBrokerState_congr {state : BrokerState} {kind : Kind} {previous : Option Path}
    {unitText releaseText unitText' releaseText' : String}
    (h : checkBrokerState state kind previous unitText releaseText = .ok ()) :
    checkBrokerState state kind previous unitText' releaseText' = .ok () := by
  simp only [checkBrokerState, except_bind_ok, check_ok] at h ⊢
  exact h

/-- A transaction that `begin` committed loads exactly if the loader's own checks hold. -/
lemma load_iff (h : Prepared args fs m root baseline payloads)
    (hroot : validateRootControlledDirectory fs' root "transaction parent" = .ok ())
    (hisolation : validateEndpointIsolation fs' m.path (pendingPath root) = .ok ())
    (hpending : fs'.pending = some (txDir links m baseline payloads marker))
    (hmarker : ∀ file, marker = some file → file.attr = writtenAttr) (d : TxDir) :
    loadTransaction args fs' = .ok d ↔
      Loads links m root ∧ d = txDir links m baseline payloads marker := by
  have hname : (pendingPath root).name = ".activation-transaction.pending".toList := by
    simp [pendingPath]
  have hparent : (pendingPath root).parent = root := by simp [pendingPath]
  simp only [loadTransaction, except_bind_ok, check_ok, orRaise_ok, except_pure_ok,
    requireEach_ok, h.transactionDir, hpending, h.unit]
  constructor
  · rintro ⟨_, ⟨⟩, _, -, _, -, _, ⟨⟩, _, hattr, _, -, _, -, _, hmanifest, _, -, _, -, _, -, _, -,
      _, -, _, -, _, -, _, -, _, -, _, -, _, -, _, -, rfl⟩
    obtain ⟨hcandidate, hprevious⟩ := (checkManifest_iff h).mp hmanifest
    refine ⟨⟨?_, hcandidate, hprevious⟩, rfl⟩
    exact congrArg Attr.nlink hattr
  · rintro ⟨hloads, rfl⟩
    rw [← hparent] at hroot
    refine ⟨_, rfl, (), hname, (), hroot, _, rfl, (), ?_, (), rfl, (), h.size, (),
      (checkManifest_iff h).mpr ⟨hloads.candidate, hloads.previous⟩, (),
      fun e _ => validateEntry_ok h e, (), validateBaselines_ok h, (), h.manifestLink, (),
      h.currentLink, _, rfl, (), rfl, (), hisolation, (), h.service, (), h.unitName, (),
      validateEntry_ok h .broker, (), checkBrokerState_congr h.state, (),
      checkFiles_txDir h.baselines h.candidates hmarker, rfl⟩
    rw [hloads.links]
    rfl

end loading

/-! ## Committed transactions -/

/-- The parts of the arguments and of the machine that only the loader checks: the two releases are
different children of the install root's `releases`, as they are spelled, and a directory without
subdirectories has two links. -/
structure Loadable (machine : Machine) (args : Args) : Prop where
  links : machine.dirLinks = 2
  candidate : ∀ release root, Path.ofText? args.candidateRelease = some release →
    Path.ofText? args.installRoot = some root → release.parent = root.child "releases".toList
  previous : args.previousRelease ≠ [] → ∀ previous release,
    Path.ofText? args.previousRelease = some previous →
    Path.ofText? args.candidateRelease = some release →
    previous.parent = release.parent ∧ previous ≠ release

lemma safeAbsolute_ok {value : List Char} {whereText : String} {p : Path}
    (h : safeAbsolute value whereText = .ok p) : Path.ofText? value = some p := by
  simp only [safeAbsolute, except_bind_ok, check_ok, orRaise_ok] at h
  obtain ⟨_, -, _, -, h⟩ := h
  exact h

lemma Fs.resolve_congr {fs fs' : Fs} (h : fs'.node = fs.node) (fuel : Nat)
    (done rest : List Name) : fs'.resolve fuel done rest = fs.resolve fuel done rest := by
  induction fuel generalizing done rest with
  | zero => rfl
  | succ fuel ih =>
      cases rest with
      | nil => rfl
      | cons part rest => simp only [Fs.resolve, h, ih]

lemma Fs.lstat_congr {fs fs' : Fs} (h : fs'.node = fs.node) (p : Path) :
    fs'.lstat p = fs.lstat p := by
  simp only [Fs.lstat, h, Fs.resolve_congr h]

lemma validateRootControlledDirectory_congr {fs fs' : Fs} {p : Path} {text text' : String}
    (hsame : fs'.lstat p = fs.lstat p)
    (h : validateRootControlledDirectory fs p text = .ok ()) :
    validateRootControlledDirectory fs' p text' = .ok () := by
  unfold validateRootControlledDirectory at h ⊢
  rw [hsame]
  obtain ⟨node, hnode, h⟩ := except_bind_ok.mp h
  refine except_bind_ok.mpr ⟨node, hnode, ?_⟩
  cases node with
  | dir attr => exact check_of (check_ok.mp h)
  | file => cases h
  | symlink => cases h
  | other => cases h

lemma begin_ok {machine : Machine} {args : Args} {fs fs' : Fs}
    (h : begin machine args fs = .ok fs') :
    ∃ m root baseline payloads, Prepared args fs m root baseline payloads ∧
      fs' = { fs with pending := some (txDir machine.dirLinks m baseline payloads none) } := by
  simp only [begin, except_bind_ok, except_pure_ok] at h
  obtain ⟨⟨m, files⟩, hprepare, rfl⟩ := h
  obtain ⟨root, baseline, payloads, hprepared, rfl⟩ := prepared_of_ok hprepare
  exact ⟨m, root, baseline, payloads, hprepared, rfl⟩

lemma validateEndpointIsolation_congr {fs fs' : Fs} (h : fs'.node = fs.node)
    (path : Identity → Path) (pendingDir : Path) :
    validateEndpointIsolation fs' path pendingDir =
      validateEndpointIsolation fs path pendingDir := by
  simp only [validateEndpointIsolation, validateParentChain, h]

lemma Prepared.loads_iff {machine : Machine} {args : Args} {fs : Fs} {m : Manifest} {root : Path}
    {baseline : Baseline} {payloads : Payloads}
    (h : Prepared args fs m root baseline payloads) :
    Loads machine.dirLinks m root ↔ Loadable machine args := by
  have hrelease := safeAbsolute_ok h.release
  have hroot := safeAbsolute_ok h.installRoot
  have hprevious := h.previous
  unfold previousPath at hprevious
  constructor
  · intro hloads
    refine ⟨hloads.links, fun release root' hr hr' => ?_, fun hnamed previous release hp hr => ?_⟩
    · rw [hrelease] at hr
      rw [hroot] at hr'
      cases hr
      cases hr'
      exact hloads.candidate
    · rw [hrelease] at hr
      cases hr
      rw [if_neg hnamed] at hprevious
      obtain ⟨found, hfound, hprevious⟩ := except_bind_ok.mp hprevious
      rw [safeAbsolute_ok hfound] at hp
      cases hp
      exact hloads.previous previous (except_pure_ok.mp hprevious).symm
  · intro hloadable
    refine ⟨hloadable.links, hloadable.candidate _ _ hrelease hroot, fun previous hp => ?_⟩
    rw [hp] at hprevious
    split at hprevious
    · cases hprevious
    · rename_i hnamed
      obtain ⟨found, hfound, hprevious⟩ := except_bind_ok.mp hprevious
      cases hprevious
      exact hloadable.previous hnamed previous _ (safeAbsolute_ok hfound) hrelease

/-- A transaction that `begin` has committed can be loaded, and is in phase `publishing`, exactly
if the releases and the file system meet what only the loader checks. -/
theorem load_after_begin_iff {machine : Machine} {args : Args} {fs fs' : Fs}
    (h : begin machine args fs = .ok fs') :
    (∃ d, loadTransaction args fs' = .ok d ∧ d.recovered = false) ↔ Loadable machine args := by
  obtain ⟨m, root, baseline, payloads, hprepared, hfs⟩ := begin_ok h
  have hnode : fs'.node = fs.node := by rw [hfs]
  have hpending : fs'.pending = some (txDir machine.dirLinks m baseline payloads none) := by
    rw [hfs]
  have hload := load_iff hprepared
    (validateRootControlledDirectory_congr (Fs.lstat_congr hnode root) hprepared.rootDir)
    ((validateEndpointIsolation_congr hnode _ _).trans hprepared.isolation) hpending nofun
  rw [← hprepared.loads_iff]
  constructor
  · rintro ⟨d, hd, -⟩
    exact ((hload d).mp hd).1
  · intro hloads
    exact ⟨_, (hload _).mpr ⟨hloads, rfl⟩, recovered_txDir⟩

/-! ## A sample install -/

section samples

/-- A machine on which the installer runs as root. -/
def sampleMachine : Machine := { euid := 0, egid := 0, umask := 0o022, dirLinks := 2 }

/-- A directory of root's. -/
def rootDir : Node := .dir { mode := 0o755, uid := 0, gid := 0, nlink := 2 }

/-- The release of a commit. -/
def sampleRelease (digit : Char) : List Char := List.replicate 40 digit ++ ".1".toList

/-- An installed wrapper. -/
def sampleWrapper : Node :=
  .file { data := [], attr := { mode := 0o755, uid := 0, gid := 7, nlink := 1 } }

/-- The install root. -/
def sampleRoot : List Name := [['o', 'p', 't'], ['o', 'p', 's']]

/-- The directory of the wrappers. -/
def sampleBin : List Name := [['u', 's', 'r'], ['b', 'i', 'n']]

/-- `releases` -/
def releasesName : Name := ['r', 'e', 'l', 'e', 'a', 's', 'e', 's']

/-- The entries of a host with an installed release. -/
def sampleNodes (installed : Char) : List (List Name × Node) :=
  [([], rootDir), ([['o', 'p', 't']], rootDir), (sampleRoot, rootDir),
    (sampleRoot ++ [releasesName], rootDir),
    (sampleRoot ++ [releasesName, sampleRelease 'a'], rootDir),
    (sampleRoot ++ [releasesName, sampleRelease 'b'], rootDir),
    ([['u', 's', 'r']], rootDir), (sampleBin, rootDir), ([['e', 't', 'c']], rootDir),
    (sampleBin ++ [['o', 'p', 's', 'c', 't', 'l']], sampleWrapper),
    (sampleBin ++ [['m', 'c', 'p']], sampleWrapper),
    (sampleBin ++ [['g', 'e', 'm', 'i', 'n', 'i']], sampleWrapper),
    (sampleRoot ++ [".agent-runtime-ops-manifest".toList], .symlink manifestTarget 0 7 1),
    (sampleRoot ++ [['c', 'u', 'r', 'r', 'e', 'n', 't']],
      .symlink (releasesName ++ ['/'] ++ sampleRelease installed) 0 7 1)]

/-- A file of the candidate directory. -/
def sampleCandidateFile (name : String) (data : List UInt8) : Name × FileNode :=
  (name.toList, { data := data, attr := writtenAttr })

/-- The bytes of a line. -/
def sampleLine (text : List Char) : List UInt8 :=
  (text ++ ['\n']).map fun c => UInt8.ofNat c.toNat

/-- The host, with the candidate `a` prepared. -/
def sampleFs (installed : Char) : Fs where
  node parts := (sampleNodes installed).lookup parts
  candidate := some {
    attr := { mode := 0o700, uid := 0, gid := 0, nlink := 2 }
    files := [sampleCandidateFile "opsctl" [], sampleCandidateFile "mcp" [],
      sampleCandidateFile "gemini" [],
      sampleCandidateFile "manifest-target" (sampleLine manifestTarget),
      sampleCandidateFile "current-target"
        (sampleLine ("releases/".toList ++ sampleRelease 'a')),
      sampleCandidateFile "broker-unit" []] }
  pending := none
  taken := false

/-- The install of the release `a` over the installed one. -/
def sampleArgs (installed : Char) : Args where
  transactionDir := "/opt/ops/.activation-transaction.pending".toList
  opsGid := 7
  link
    | .opsctl => "/usr/bin/opsctl".toList
    | .mcp => "/usr/bin/mcp".toList
    | .gemini => "/usr/bin/gemini".toList
    | .manifest => "/opt/ops/.agent-runtime-ops-manifest".toList
    | .current => "/opt/ops/current".toList
    | .broker => "/etc/broker.service".toList
  installRoot := "/opt/ops".toList
  releasesDir := "/opt/ops/releases".toList
  candidateDir := "/opt/ops/.activation-candidate.prepare".toList
  candidateRelease := "/opt/ops/releases/".toList ++ sampleRelease 'a'
  candidateCommit := List.replicate 40 'a'
  previousRelease := "/opt/ops/releases/".toList ++ sampleRelease installed
  brokerServiceName := "broker.service".toList
  brokerState := some .unavailable

lemma exists_of_isOk {ε α : Type} {x : Except ε α} (h : x.isOk = true) : ∃ a, x = .ok a := by
  cases x with
  | ok a => exact ⟨a, rfl⟩
  | error => cases h

lemma upgrade_begins :
    ∃ fs', begin sampleMachine (sampleArgs 'b') (sampleFs 'b') = .ok fs' :=
  exists_of_isOk (by decide +kernel)

lemma upgrade_loadable : Loadable sampleMachine (sampleArgs 'b') where
  links := rfl
  candidate release root hrelease hroot := by
    have hparent : (Path.ofText? (sampleArgs 'b').candidateRelease).map Path.parent =
        (Path.ofText? (sampleArgs 'b').installRoot).map (·.child "releases".toList) := by
      decide +kernel
    rw [hrelease, hroot] at hparent
    exact Option.some.inj hparent
  previous _ previous release hprevious hrelease := by
    have hparent : (Path.ofText? (sampleArgs 'b').previousRelease).map Path.parent =
        (Path.ofText? (sampleArgs 'b').candidateRelease).map Path.parent ∧
        Path.ofText? (sampleArgs 'b').previousRelease ≠
          Path.ofText? (sampleArgs 'b').candidateRelease := by
      decide +kernel
    rw [hprevious, hrelease] at hparent
    exact ⟨Option.some.inj hparent.1, fun h => hparent.2 (congrArg some h)⟩

theorem upgrade_loads :
    ∃ fs', begin sampleMachine (sampleArgs 'b') (sampleFs 'b') = .ok fs' ∧
      ∃ d, loadTransaction (sampleArgs 'b') fs' = .ok d ∧ d.recovered = false := by
  obtain ⟨fs', h⟩ := upgrade_begins
  exact ⟨fs', h, (load_after_begin_iff h).mpr upgrade_loadable⟩

/-- An install of the installed release begins, and cannot be loaded. -/
lemma reinstall_begins :
    ∃ fs', begin sampleMachine (sampleArgs 'a') (sampleFs 'a') = .ok fs' ∧
      ∃ e, loadTransaction (sampleArgs 'a') fs' = .error e := by
  have hrun : (match begin sampleMachine (sampleArgs 'a') (sampleFs 'a') with
      | .ok fs' => (loadTransaction (sampleArgs 'a') fs').isOk
      | .error _ => true) = false := by decide +kernel
  cases hbegin : begin sampleMachine (sampleArgs 'a') (sampleFs 'a') with
  | error e =>
      rw [hbegin] at hrun
      cases hrun
  | ok fs' =>
      rw [hbegin] at hrun
      dsimp only at hrun
      cases hload : loadTransaction (sampleArgs 'a') fs' with
      | error e => exact ⟨fs', rfl, e, hload⟩
      | ok d =>
          rw [hload] at hrun
          cases hrun

theorem reinstall_does_not_load :
    ∃ fs', begin sampleMachine (sampleArgs 'a') (sampleFs 'a') = .ok fs' ∧
      ¬ ∃ d, loadTransaction (sampleArgs 'a') fs' = .ok d ∧ d.recovered = false := by
  obtain ⟨fs', hbegin, e, hload⟩ := reinstall_begins
  refine ⟨fs', hbegin, ?_⟩
  rintro ⟨d, hd, -⟩
  rw [hload] at hd
  cases hd

end samples

end AgentRuntimeOps.Activation
