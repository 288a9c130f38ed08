import AgentRuntimeOps.Nas.Policy

/-!
# What a policy allows

The grants of an account are tried one after another, and one that spells a share out wrongly raises
when its turn comes.  So their order matters where there is such a grant besides one that matches.
-/

namespace AgentRuntimeOps.Nas

open AgentRuntimeOps.Lib AgentRuntimeOps.Routing

/-! ## Views -/

/-- The text has no bracket. -/
def Unbracketed (text : Text) : Prop := 91 ∉ text ∧ 93 ∉ text

/-- A path below a share: `/`, and parts that lead on. -/
structure IsSubpath (subpath : Text) : Prop where
  slash : [47] <+: subpath
  unbracketed : Unbracketed subpath
  inside : isInside subpath = true

/-- The source of a view. -/
def viewText (base subpath : Text) : Text := base ++ 91 :: subpath ++ [93]

section views

variable {share : SmbShare} {subpath : Text}

lemma viewSource_eq_none {text : Text} (h : 91 ∉ text) : viewSource text = none := by
  refine if_neg fun hparts => h ?_
  rw [hparts.1]
  simp

lemma parseCifsMountSource_source (h : Unbracketed share.source) :
    parseCifsMountSource share.source = some (share, none) := by
  unfold parseCifsMountSource
  rw [share.source_strip, viewSource_eq_none h.1]
  dsimp only
  rw [parseSmbShare_source]
  rfl

/-- The source of a view is read as the share and the path. -/
lemma parseCifsMountSource_view (h : Unbracketed share.source) (hsubpath : IsSubpath subpath) :
    parseCifsMountSource (viewText share.source subpath) = some (share, some subpath) := by
  have hstrip : (viewText share.source subpath).strip = viewText share.source subpath := by
    have hfirst : viewText share.source subpath = 47 :: (47 :: share.spelledHost ++
        47 :: share.share ++ 91 :: subpath) ++ [93] := by
      simp [viewText, SmbShare.source]
    have hdrop : (viewText share.source subpath).dropWhile Text.isSpace =
        viewText share.source subpath := by
      rw [hfirst, List.cons_append]
      exact List.dropWhile_cons_of_neg (by decide)
    unfold Text.strip
    rw [hdrop, hfirst, List.reverse_append, List.reverse_singleton, List.singleton_append,
      List.dropWhile_cons_of_neg (by decide), List.reverse_cons, List.reverse_reverse]
  have hbase : (viewText share.source subpath).takeWhile (· ≠ 91) = share.source := by
    unfold viewText
    have hpos : ∀ c ∈ share.source, decide (c ≠ 91) = true := fun c hc =>
      decide_eq_true fun heq => h.1 (heq ▸ hc)
    rw [List.append_assoc, List.takeWhile_append_of_pos hpos]
    simp
  have hpath : ((viewText share.source subpath).drop (share.source.length + 1)).dropLast =
      subpath := by
    unfold viewText
    rw [List.append_assoc, ← List.drop_drop, List.drop_left]
    simp
  have hview : viewSource (viewText share.source subpath) = some (share.source, subpath) := by
    unfold viewSource
    dsimp only
    rw [hbase, hpath, if_pos]
    refine ⟨rfl, ⟨_, rfl⟩, ?_, h.2, hsubpath.slash, hsubpath.unbracketed⟩
    simp [SmbShare.source]
    omega
  unfold parseCifsMountSource
  rw [hstrip, hview]
  dsimp only
  rw [if_pos hsubpath.inside, parseSmbShare_source]
  rfl

end views

/-! ## Grants -/

/-- A grant that spells a share out wrongly. -/
def Malformed (grant : Text) : Prop :=
  grant ≠ [42] ∧ isExact grant = true ∧ parseSmbShare (slashed grant) = none

section grants

variable [NasHost] {share : SmbShare} {grant : Text} {grants : List Text}

lemma sourceMatches_eq_none_iff : sourceMatches grant share = none ↔ Malformed grant := by
  unfold sourceMatches Malformed
  split_ifs with hstar hexact hshare
  · simp [hstar]
  · cases parseSmbShare (slashed grant) <;> simp [hstar, hexact]
  · simp [hexact]
  · simp [hexact]

/-- The grants are tried up to one that matches. -/
def Admits (share : SmbShare) (grants : List Text) : Prop :=
  ∃ grant, firstMatch share grants = some (some grant)

lemma admits_cons : Admits share (grant :: grants) ↔
    sourceMatches grant share = some true ∨
      (sourceMatches grant share = some false ∧ Admits share grants) := by
  unfold Admits
  rw [firstMatch]
  cases sourceMatches grant share with
  | none => simp
  | some found => cases found <;> simp

/-- A grant has to match. -/
lemma exists_of_admits (h : Admits share grants) :
    ∃ grant ∈ grants, sourceMatches grant share = some true := by
  induction grants with
  | nil =>
      obtain ⟨grant, hnil⟩ := h
      cases hnil
  | cons grant rest ih =>
      obtain hmatch | ⟨-, hrest⟩ := admits_cons.mp h
      · exact ⟨grant, List.mem_cons_self, hmatch⟩
      · obtain ⟨later, hlater, hmatch⟩ := ih hrest
        exact ⟨later, List.mem_cons_of_mem _ hlater, hmatch⟩

/-- Where no grant is malformed, one that matches is enough. -/
lemma admits_of_exists (h : ∀ grant ∈ grants, ¬Malformed grant)
    (hmatch : ∃ grant ∈ grants, sourceMatches grant share = some true) :
    Admits share grants := by
  induction grants with
  | nil =>
      obtain ⟨grant, hmem, -⟩ := hmatch
      cases hmem
  | cons grant rest ih =>
      rw [admits_cons]
      rw [List.forall_mem_cons] at h
      rw [List.exists_mem_cons_iff] at hmatch
      cases hfound : sourceMatches grant share with
      | none => exact absurd (sourceMatches_eq_none_iff.mp hfound) h.1
      | some found =>
          cases found with
          | true => exact .inl rfl
          | false =>
              refine .inr ⟨rfl, ih h.2 (hmatch.resolve_left ?_)⟩
              rw [hfound]
              nofun

/-- There is no malformed grant besides one that matches. -/
def Harmless (share : SmbShare) (pool : List Text) : Prop :=
  (∃ grant ∈ pool, sourceMatches grant share = some true) → ∀ grant ∈ pool, ¬Malformed grant

lemma admits_iff {pool : List Text} (h : Harmless share pool) (hsub : grants ⊆ pool) :
    Admits share grants ↔ ∃ grant ∈ grants, sourceMatches grant share = some true := by
  refine ⟨exists_of_admits, fun hmatch => admits_of_exists (fun grant hgrant => ?_) hmatch⟩
  obtain ⟨found, hfound, htrue⟩ := hmatch
  exact h ⟨found, hsub hfound, htrue⟩ grant (hsub hgrant)

end grants

/-! ## Decisions -/

/-- The policy answers whether mounts are approved, and gives these grants to the account. -/
def Grants (policy : Option Yaml) (account : String) (auto : Bool) (grants : List Text) : Prop :=
  ∃ document maxMounts, policy = some document ∧
    grantPatterns document (Text.of account) = some (auto, grants, maxMounts)

/-- A policy with these grants. -/
def policyOf (account : String) (auto : Bool) (grants : List Text) : Yaml :=
  .dict [(.str (Text.of "accounts"), .dict [(.str (Text.of account), .dict [
    (.str (Text.of "auto_approve"), .other [] auto),
    (.str (Text.of "grants"), .list (grants.map .str))])])]

lemma grants_policyOf (account : String) (auto : Bool) (grants : List Text) :
    Grants (some (policyOf account auto grants)) account auto grants := by
  refine ⟨_, none, rfl, ?_⟩
  have hgrants : (grants.map Yaml.str).filterMap grantOf = grants := by
    rw [List.filterMap_map]
    exact List.filterMap_some
  have hdefaults : Text.of "accounts" ≠ Text.of "defaults" := by decide
  have hauto : Text.of "auto_approve" ≠ Text.of "grants" := by decide
  have hmax : Text.of "auto_approve" ≠ Text.of "max_mounts" ∧
      Text.of "grants" ≠ Text.of "max_mounts" := by decide
  simp [policyOf, grantPatterns, getDict, getField, valueOf, hdefaults, hauto, hmax, hgrants,
    Yaml.isTrue]

section decisions

variable [NasHost] (slot : String) (source : Text) (bindings : List RuntimeBinding)

/-- The source is allowed. -/
def Allows (policy : Option Yaml) : Prop :=
  ∃ decision, checkNasPolicy slot source bindings policy = some decision ∧ decision.allowed = true

/-- What is asked of the policies that give grants of the pool to the account of a binding. -/
structure Lawful (auto : Bool) (pool : List Text) (binding : RuntimeBinding) : Prop where
  order : ∀ policy policy' grants grants', Grants policy binding.linuxAccount auto grants →
    Grants policy' binding.linuxAccount auto grants' → grants ⊆ pool → grants.Perm grants' →
      (Allows slot source bindings policy ↔ Allows slot source bindings policy')
  grow : ∀ policy policy' front grant back,
    Grants policy binding.linuxAccount auto (front ++ back) →
    Grants policy' binding.linuxAccount auto (front ++ grant :: back) →
    front ++ grant :: back ⊆ pool →
      Allows slot source bindings policy → Allows slot source bindings policy'
  view : ∀ (share : SmbShare) subpath policy, Unbracketed share.source → IsSubpath subpath →
    (Allows slot (viewText share.source subpath) bindings policy ↔
      Allows slot share.source bindings policy)
  named : ∀ policy grants decision, Grants policy binding.linuxAccount auto grants →
    grants ⊆ pool → checkNasPolicy slot source bindings policy = some decision →
      decision.slot = binding.linuxAccount

/-- The binding and the share are known, and so is where the share is to be mounted. -/
structure Ready (binding : RuntimeBinding) (share : SmbShare) : Prop where
  bound : getRuntimeBinding slot bindings = .ok binding
  parsed : ∃ view, parseCifsMountSource source = some (share, view)
  customer : binding.runtimeClass = "customer"
  mounted : (mountpointForShare binding.linuxAccount share).isSome = true

variable {slot source bindings} {binding : RuntimeBinding} {share : SmbShare} {auto : Bool}
  {grants : List Text} {policy : Option Yaml}

/-- A source is allowed if a grant is found, and the account approves mounts. -/
lemma Ready.allows_iff (h : Ready slot source bindings binding share)
    (hgrants : Grants policy binding.linuxAccount auto grants) :
    Allows slot source bindings policy ↔ auto = true ∧ Admits share grants := by
  obtain ⟨view, hview⟩ := h.parsed
  obtain ⟨mountpoint, hmount⟩ := Option.isSome_iff_exists.mp h.mounted
  obtain ⟨document, maxMounts, rfl, hpatterns⟩ := hgrants
  unfold Allows checkNasPolicy Admits
  rw [h.bound, hview]
  simp only [Except.toOption, Option.bind_eq_bind, Option.bind_some, h.customer, ne_eq,
    not_true_eq_false, if_false, hmount, hpatterns]
  cases auto with
  | false => simp
  | true =>
      cases firstMatch share grants with
      | none => simp
      | some found => cases found <;> simp

/-- Otherwise nothing is allowed, and the decision names the account. -/
lemma not_ready (hbound : getRuntimeBinding slot bindings = .ok binding)
    (h : ∀ share, ¬Ready slot source bindings binding share) :
    ¬Allows slot source bindings policy ∧ ∀ decision,
      checkNasPolicy slot source bindings policy = some decision →
        decision.slot = binding.linuxAccount := by
  unfold Allows checkNasPolicy
  rw [hbound]
  cases hparsed : parseCifsMountSource source with
  | none => simp [Except.toOption]
  | some parsed =>
      obtain ⟨share, view⟩ := parsed
      by_cases hcustomer : binding.runtimeClass = "customer"
      · have hmount : mountpointForShare binding.linuxAccount share = none := by
          by_contra hsome
          exact h share ⟨hbound, ⟨view, hparsed⟩, hcustomer, Option.isSome_iff_ne_none.mpr hsome⟩
        simp [Except.toOption, hcustomer, hmount]
      · simp [Except.toOption, hcustomer]

/-- The decision names the account or, without an approval, whatever the caller wrote. -/
lemma Ready.slot_eq (h : Ready slot source bindings binding share)
    (hgrants : Grants policy binding.linuxAccount auto grants) {decision : NasPolicyDecision}
    (hcheck : checkNasPolicy slot source bindings policy = some decision) :
    decision.slot = if auto then binding.linuxAccount else slot := by
  obtain ⟨view, hview⟩ := h.parsed
  obtain ⟨mountpoint, hmount⟩ := Option.isSome_iff_exists.mp h.mounted
  obtain ⟨document, maxMounts, rfl, hpatterns⟩ := hgrants
  unfold checkNasPolicy at hcheck
  rw [h.bound, hview] at hcheck
  simp only [Except.toOption, Option.bind_eq_bind, Option.bind_some, h.customer, ne_eq,
    not_true_eq_false, if_false, hmount, hpatterns] at hcheck
  cases auto with
  | false =>
      cases hcheck
      rfl
  | true =>
      cases hfound : firstMatch share grants with
      | none =>
          rw [hfound] at hcheck
          cases hcheck
      | some found =>
          rw [hfound] at hcheck
          cases found <;> cases hcheck <;> rfl

/-- Without an approval there is a decision. -/
lemma Ready.exists_decision (h : Ready slot source bindings binding share)
    (hgrants : Grants policy binding.linuxAccount false grants) :
    ∃ decision, checkNasPolicy slot source bindings policy = some decision := by
  obtain ⟨view, hview⟩ := h.parsed
  obtain ⟨mountpoint, hmount⟩ := Option.isSome_iff_exists.mp h.mounted
  obtain ⟨document, maxMounts, rfl, hpatterns⟩ := hgrants
  unfold checkNasPolicy
  rw [h.bound, hview]
  simp [Except.toOption, h.customer, hmount, hpatterns]

/-- Two sources of one share are allowed alike. -/
lemma allows_congr {source' : Text} {view view' : Option Text}
    (h : parseCifsMountSource source = some (share, view))
    (h' : parseCifsMountSource source' = some (share, view')) :
    Allows slot source bindings policy ↔ Allows slot source' bindings policy := by
  unfold Allows checkNasPolicy
  rw [h, h']
  cases getRuntimeBinding slot bindings with
  | error raised => rfl
  | ok binding =>
      simp only [Except.toOption, Option.bind_eq_bind, Option.bind_some]
      by_cases hcustomer : binding.runtimeClass = "customer"
      · simp only [hcustomer, ne_eq, not_true_eq_false, if_false]
        cases mountpointForShare binding.linuxAccount share with
        | none => rfl
        | some mountpoint =>
            cases policy with
            | none => rfl
            | some document =>
                simp only [Option.bind_some]
                cases grantPatterns document (Text.of binding.linuxAccount) with
                | none => rfl
                | some patterns =>
                    obtain ⟨auto, grants, maxMounts⟩ := patterns
                    cases auto with
                    | false => simp
                    | true =>
                        cases hfound : firstMatch share grants with
                        | none => simp [hfound]
                        | some found => cases found <;> simp [hfound]
      · simp [hcustomer]

/-- With a malformed grant and one that matches, the order decides. -/
lemma Ready.harmless {pool : List Text} (h : Ready slot source bindings binding share)
    (hlaw : Lawful slot source bindings true pool binding) : Harmless share pool := by
  rintro ⟨found, hfound, hmatch⟩ bad hbad hmalformed
  have hnone : sourceMatches bad share = none := sourceMatches_eq_none_iff.mpr hmalformed
  have hfirst := grants_policyOf binding.linuxAccount true [found, bad]
  have hlast := grants_policyOf binding.linuxAccount true [bad, found]
  have hsub : [found, bad] ⊆ pool := List.cons_subset.mpr ⟨hfound, by simpa using hbad⟩
  have hallowed := (h.allows_iff hfirst).mpr ⟨rfl, admits_cons.mpr (.inl hmatch)⟩
  have hswapped := (hlaw.order _ _ _ _ hfirst hlast hsub (.swap bad found [])).mp hallowed
  obtain htrue | ⟨hfalse, -⟩ := admits_cons.mp ((h.allows_iff hlast).mp hswapped).2
  · rw [hnone] at htrue
    cases htrue
  · rw [hnone] at hfalse
    cases hfalse

/-- What is allowed is a question of what the grants are. -/
lemma Ready.lawful {pool : List Text} (h : Ready slot source bindings binding share)
    (hcond : if auto then Harmless share pool else slot = binding.linuxAccount) :
    Lawful slot source bindings auto pool binding := by
  have hallows : ∀ {policy grants}, Grants policy binding.linuxAccount auto grants →
      grants ⊆ pool → (Allows slot source bindings policy ↔
        auto = true ∧ ∃ grant ∈ grants, sourceMatches grant share = some true) := by
    intro policy grants hgrants hsub
    rw [h.allows_iff hgrants]
    refine and_congr_right fun hauto => admits_iff ?_ hsub
    rwa [if_pos hauto] at hcond
  refine ⟨?_, ?_, ?_, ?_⟩
  · intro policy policy' grants grants' hgrants hgrants' hsub hperm
    rw [hallows hgrants hsub, hallows hgrants' (List.Subset.trans hperm.symm.subset hsub)]
    simp only [hperm.mem_iff]
  · intro policy policy' front grant back hgrants hgrants' hsub
    have hfewer : front ++ back ⊆ front ++ grant :: back :=
      List.append_subset.mpr ⟨List.subset_append_left _ _,
        List.Subset.trans (List.subset_cons_self _ _) (List.subset_append_right _ _)⟩
    rw [hallows hgrants (List.Subset.trans hfewer hsub), hallows hgrants' hsub]
    exact And.imp_right fun ⟨found, hmem, hmatch⟩ => ⟨found, hfewer hmem, hmatch⟩
  · exact fun share subpath policy hshare hsubpath =>
      allows_congr (parseCifsMountSource_view hshare hsubpath) (parseCifsMountSource_source hshare)
  · intro policy grants decision hgrants _ hcheck
    rw [h.slot_eq hgrants hcheck]
    split_ifs at hcond ⊢
    · rfl
    · exact hcond

/-- **When policies are order-independent and monotone**: no malformed grant may stand besides one
that matches, and without an approval the caller has to use the name of the account. -/
theorem lawful_iff (slot : String) (source : Text) (bindings : List RuntimeBinding) (auto : Bool)
    (pool : List Text) :
    (∀ binding, getRuntimeBinding slot bindings = .ok binding →
      Lawful slot source bindings auto pool binding) ↔
    ∀ binding share, Ready slot source bindings binding share →
      if auto then Harmless share pool else slot = binding.linuxAccount := by
  constructor
  · intro h binding share hready
    have hlaw := h binding hready.bound
    split_ifs with hauto
    · subst hauto
      exact hready.harmless hlaw
    · have hgrants := grants_policyOf binding.linuxAccount auto []
      rw [Bool.not_eq_true] at hauto
      subst hauto
      obtain ⟨decision, hcheck⟩ := hready.exists_decision hgrants
      exact (hready.slot_eq hgrants hcheck).symm.trans
        (hlaw.named _ _ _ hgrants (List.nil_subset _) hcheck)
  · intro h binding hbound
    by_cases hready : ∃ share, Ready slot source bindings binding share
    · obtain ⟨share, hready⟩ := hready
      exact hready.lawful (h binding share hready)
    · have hnot : ∀ policy, _ ∧ _ := fun policy =>
        @not_ready _ slot source bindings binding policy hbound (not_exists.mp hready)
      refine ⟨fun policy policy' _ _ _ _ _ _ => iff_of_false (hnot policy).1 (hnot policy').1,
        fun policy _ _ _ _ _ _ _ hallowed => absurd hallowed (hnot policy).1, ?_,
        fun policy _ decision _ _ => (hnot policy).2 decision⟩
      exact fun share subpath policy hshare hsubpath => allows_congr
        (parseCifsMountSource_view hshare hsubpath) (parseCifsMountSource_source hshare)

end decisions

/-! ## A malformed grant -/

/-- A host with plain letters, where no path is a link. -/
@[reducible] def plainHost (digest : Text → Text) : NasHost where
  lower := List.map fun c => if 65 ≤ c ∧ c ≤ 90 then c + 32 else c
  isDecimal := fun c => 48 ≤ c && c ≤ 57
  digest := fun text => some (digest text)
  resolve := some

lemma mounted_of_plain (digest : Text → Text) (share : SmbShare) {slot : String}
    (h : (validateLinuxAccount slot).isSome = true) :
    (@mountpointForShare (plainHost digest) slot share).isSome = true := by
  let _ := plainHost digest
  obtain ⟨account, haccount⟩ := Option.isSome_iff_exists.mp h
  have hname : (shareComponent share.share).isSome = true := by
    unfold shareComponent
    split_ifs <;> rfl
  obtain ⟨name, hname⟩ := Option.isSome_iff_exists.mp hname
  have hdigest : ∀ text, NasHost.digest text = some (digest text) := fun _ => rfl
  have hresolve : ∀ path, NasHost.resolve path = some path := fun _ => rfl
  have hnested : ∀ root, (nestedMountpoint root share).isSome = true := by
    intro root
    simp [nestedMountpoint, hostComponent, hdigest, hresolve, hname]
  unfold mountpointForShare nasRwRoot nasRoot homeDir
  rw [haccount]
  cases share.isWritable
  · exact hnested _
  · exact hnested _

/-- A binding of a customer. -/
def customerSample : RuntimeBinding where
  instanceId := "00000000-0000-4000-8000-000000000001"
  linuxAccount := "client1"
  publicHost := "client1.example.com"
  family := "openclaw"
  runtimeClass := "customer"
  gatewayPort := 18789
  bridgePort := 18790

/-- A share and a grant without one. -/
def grantSamples : List Text := [Text.of "//nas/docs", Text.of "//nas"]

/-- The order of these two grants decides, whatever the host hashes names to. -/
theorem order_matters : ¬∃ digest, @Lawful (plainHost digest) "client1" (Text.of "//nas/docs")
    [customerSample] true grantSamples customerSample := by
  rintro ⟨digest, hlaw⟩
  let _ := plainHost digest
  have hparsed : parseCifsMountSource (Text.of "//nas/docs") =
      some (⟨Text.of "nas", Text.of "docs", by decide, by decide, by decide⟩, none) := by decide
  have hready : Ready "client1" (Text.of "//nas/docs") [customerSample] customerSample _ :=
    ⟨by decide, ⟨_, hparsed⟩, rfl, mounted_of_plain digest _ (by decide)⟩
  have hharmless := hready.harmless hlaw
  exact hharmless ⟨Text.of "//nas/docs", by decide, rfl⟩ (Text.of "//nas") (by decide)
    (by unfold Malformed; decide)

end AgentRuntimeOps.Nas
