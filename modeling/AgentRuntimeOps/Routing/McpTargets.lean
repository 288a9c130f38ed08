import AgentRuntimeOps.Routing.Documents

/-!
# Targets of the MCP server

`mcp/validation.py` has patterns of its own for the names of bindings.  They agree with those of
`routing.py`, but for an underscore: an account may have one, and a target may not.
-/

namespace AgentRuntimeOps.Routing

open AgentRuntimeOps.Lib

/-! ## Validators -/

/-- `[a-z][a-z0-9-]{0,31}` -/
def isTargetAccount (text : List Char) : Bool :=
  match text with
  | [] => false
  | c :: rest => c.isLower && decide (rest.length ≤ 31) &&
      rest.all fun c => c.isLower || c.isDigit || c == '-'

/-- `TARGET_RE`, up to its `$`. -/
def isTarget (text : List Char) : Bool :=
  isTargetAccount text || isInstanceId text || isHostName text

namespace Mcp

/-- `linux_account` -/
def linuxAccount (value : String) : Option String :=
  let account := strip value.toList
  if atEnd isLinuxAccount account then some (String.ofList account) else none

/-- `target` -/
def target (value : String) : Option String :=
  let targetValue := normalize value
  if atEnd isTarget targetValue then some (String.ofList targetValue) else none

end Mcp

section validators

variable {name : String}

/-- An account is taken as it is. -/
lemma linuxAccount_self (h : isLinuxAccount name.toList = true) :
    Mcp.linuxAccount name = some name := by
  unfold Mcp.linuxAccount
  dsimp only
  rw [strip_linuxAccount h, if_pos (by rw [atEnd, h]; rfl), String.ofList_toList]

/-- A target is taken as it is. -/
lemma target_self (h : isTarget name.toList = true) (hnormal : normalize name = name.toList) :
    Mcp.target name = some name := by
  unfold Mcp.target
  dsimp only
  rw [hnormal, if_pos (by rw [atEnd, h]; rfl), String.ofList_toList]

lemma target_eq {value : String} (h : Mcp.target name = some value) :
    value = String.ofList (normalize name) := by
  unfold Mcp.target at h
  dsimp only at h
  split_ifs at h
  exact (Option.some.inj h).symm

/-- An account is a target unless it has an underscore. -/
lemma isTarget_account_iff {text : List Char} (h : isLinuxAccount text = true) :
    isTarget text = true ↔ '_' ∉ text := by
  obtain ⟨-, hdot, hlength⟩ := isLinuxAccount_chars h
  have hid : isInstanceId text = false := by
    refine Bool.eq_false_iff.mpr fun hid => ?_
    have hlong := (isInstanceId_chars hid).2.2
    omega
  have hhost : isHostName text = false :=
    Bool.eq_false_iff.mpr fun hhost => hdot (isHostName_chars hhost).2.1
  unfold isTarget
  rw [hid, hhost, Bool.or_false, Bool.or_false]
  cases text with
  | nil => cases h
  | cons c rest =>
      unfold isLinuxAccount at h
      simp only [Bool.and_eq_true, decide_eq_true_eq, List.all_eq_true] at h
      obtain ⟨⟨hfirst, hlength⟩, hrest⟩ := h
      have hne : c ≠ '_' := by
        rintro rfl
        cases hfirst
      simp only [isTargetAccount, hfirst, hlength, decide_true, Bool.true_and, List.all_eq_true,
        List.mem_cons, hne.symm, false_or]
      constructor
      · exact fun hall hmem => absurd (hall _ hmem) (by decide)
      · intro hfree d hd
        have hchar := hrest d hd
        have hd' : (d == '_') = false := beq_eq_false_iff_ne.mpr fun heq => hfree (heq ▸ hd)
        rwa [hd', Bool.or_false] at hchar

end validators

/-! ## Documents -/

section documents

variable [Builtins] {fresh : Nat → Nat} {bindings : List RuntimeBinding}
  {binding : RuntimeBinding}

/-- Every binding is addressed by its names: the validators take them, and what they return is a
name of that binding. -/
structure Addressable (data : Json) : Prop where
  account : ∀ fresh bindings, loadRuntimeBindings fresh data = some bindings → ∀ again,
    ∀ binding ∈ bindings, ∃ value, Mcp.linuxAccount binding.linuxAccount = some value ∧
      lookupBinding again data value = some binding
  target : ∀ fresh bindings, loadRuntimeBindings fresh data = some bindings → ∀ again,
    ∀ binding ∈ bindings,
      ∀ name ∈ [binding.instanceId, binding.linuxAccount, binding.publicHost],
        ∃ value, Mcp.target name = some value ∧ lookupBinding again data value = some binding

/-- No account of the document has an underscore. -/
def NoUnderscore (data : Json) : Prop := ∀ item, .obj item ∈ itemsIn data →
  '_' ∉ strip (textOf (valueAt item "linux_account")).toList

omit [Builtins] in
/-- A name stays as it is once it has been normalised. -/
lemma RuntimeBinding.Names.normalize_normalize (h : binding.Names) {name : String}
    (hname : name ∈ [binding.instanceId, binding.linuxAccount, binding.publicHost]) :
    normalize (String.ofList (normalize name)) = normalize name := by
  have hself : ∀ {text : List Char}, (∀ c ∈ text, isPlain c = true) →
      text.getLast? ≠ some '.' → normalize (String.ofList text) = text := by
    intro text hplain hlast
    have hnormal : normalize (String.ofList text) = (String.ofList text).toList :=
      normalize_of_isPlain (by rwa [String.toList_ofList]) (by rwa [String.toList_ofList])
    rwa [String.toList_ofList] at hnormal
  have hplain : ∀ {name : String}, (∀ c ∈ name.toList, isPlain c = true) →
      name.toList.getLast? ≠ some '.' →
        normalize (String.ofList (normalize name)) = normalize name := by
    intro name hplain hlast
    rw [normalize_of_isPlain hplain hlast]
    exact hself hplain hlast
  simp only [List.mem_cons, List.not_mem_nil, or_false] at hname
  rcases hname with rfl | rfl | rfl
  · obtain ⟨hchars, hdot, -⟩ := isInstanceId_chars h.instanceId
    exact hplain hchars fun hlast => hdot (List.mem_of_getLast? hlast)
  · obtain ⟨hchars, hdot, -⟩ := isLinuxAccount_chars h.linuxAccount
    exact hplain hchars fun hlast => hdot (List.mem_of_getLast? hlast)
  · obtain hhost | ⟨front, hfront, hhost⟩ := isHostName_or_feed h.publicHost
    · obtain ⟨hchars, -, hlast⟩ := isHostName_chars hhost
      exact hplain hchars hlast
    · obtain ⟨hchars, -, hlast⟩ := isHostName_chars hhost
      rw [normalize_feed hhost hfront]
      exact hself hchars hlast

/-- A lookup sees what is normalised. -/
lemma lookupBinding_congr {data : Json} {name value : String} (again : Nat → Nat)
    (h : normalize value = normalize name) :
    lookupBinding again data value = lookupBinding again data name := by
  unfold lookupBinding getRuntimeBinding
  rw [h]

lemma Addressable.finds {data : Json} (h : Addressable data) : Finds data := by
  intro fresh bindings hload again binding hmem name hname
  obtain ⟨value, hvalue, hlookup⟩ := h.target fresh bindings hload again binding hmem name hname
  have hnames := RuntimeBinding.names_of_accepted ((loadable_of_load hload).1 _ hmem)
  rwa [target_eq hvalue, lookupBinding_congr again (hnames.normalize_normalize hname)] at hlookup

/-- The accounts of a document are those of its items. -/
lemma account_of_reads {n : Nat} {item : List (String × Json)} (h : Reads n item binding) :
    binding.linuxAccount.toList = strip (textOf (valueAt item "linux_account")).toList := by
  have haccount := h.account
  unfold validateLinuxAccount at haccount
  dsimp only at haccount
  split_ifs at haccount
  rw [← Option.some.inj haccount, String.toList_ofList]

/-- **When every runtime is addressed through MCP.** -/
theorem addressable_iff (data : Json) : Addressable data ↔
    ((∃ fresh bindings, loadRuntimeBindings fresh data = some bindings) →
      Plain data ∧ NoUnderscore data) := by
  constructor
  · rintro h ⟨fresh, bindings, hload⟩
    refine ⟨plain_of_finds h.finds hload, fun item hitem => ?_⟩
    obtain ⟨-, hitems, -⟩ := load_iff.mp hload
    obtain ⟨i, hi⟩ := List.mem_iff_getElem?.mp hitem
    obtain ⟨binding, hbinding, hreads⟩ := exists_reads hitems hi
    have hmem := List.mem_of_getElem? hbinding
    have haccount := isLinuxAccount_of_validate hreads.account
    obtain ⟨hchars, hdot, -⟩ := isLinuxAccount_chars haccount
    have hnormal := normalize_of_isPlain hchars fun hlast => hdot (List.mem_of_getLast? hlast)
    obtain ⟨value, hvalue, -⟩ := h.target fresh bindings hload fresh binding hmem
      binding.linuxAccount (by simp)
    rw [← account_of_reads hreads, ← isTarget_account_iff haccount]
    unfold Mcp.target at hvalue
    dsimp only at hvalue
    split_ifs at hvalue with htarget
    rw [hnormal, atEnd, Bool.or_eq_true, Bool.and_eq_true, beq_iff_eq] at htarget
    refine htarget.resolve_right fun hfeed => ?_
    exact absurd (hchars _ (List.mem_of_getLast? hfeed.1)) (by decide)
  · intro h
    refine ⟨fun fresh bindings hload again binding hmem => ?_,
      fun fresh bindings hload again binding hmem name hname => ?_⟩
    · have hnames := RuntimeBinding.names_of_accepted ((loadable_of_load hload).1 _ hmem)
      exact ⟨_, linuxAccount_self hnames.linuxAccount,
        (h ⟨_, _, hload⟩).1.finds hload again hmem (by simp)⟩
    · obtain ⟨hplain, hfree⟩ := h ⟨_, _, hload⟩
      have hnames := RuntimeBinding.names_of_accepted ((loadable_of_load hload).1 _ hmem)
      refine ⟨name, ?_, hplain.finds hload again hmem hname⟩
      simp only [List.mem_cons, List.not_mem_nil, or_false] at hname
      rcases hname with rfl | rfl | rfl
      · obtain ⟨hchars, hdot, -⟩ := isInstanceId_chars hnames.instanceId
        refine target_self ?_
          (normalize_of_isPlain hchars fun hlast => hdot (List.mem_of_getLast? hlast))
        rw [isTarget, hnames.instanceId, Bool.or_true, Bool.true_or]
      · obtain ⟨hchars, hdot, -⟩ := isLinuxAccount_chars hnames.linuxAccount
        refine target_self ((isTarget_account_iff hnames.linuxAccount).mpr ?_)
          (normalize_of_isPlain hchars fun hlast => hdot (List.mem_of_getLast? hlast))
        obtain ⟨-, hitems, -⟩ := load_iff.mp hload
        obtain ⟨i, item, hitem, -, hreads⟩ := mem_itemsOf hitems hmem
        rw [account_of_reads hreads]
        exact hfree item (List.mem_of_getElem? hitem)
      · have hhost := isHostName_of_atEnd hnames.publicHost (hplain.publicHost hload hmem)
        obtain ⟨hchars, -, hlast⟩ := isHostName_chars hhost
        refine target_self ?_ (normalize_of_isPlain hchars hlast)
        rw [isTarget, hhost, Bool.or_true]

end documents

/-- A binding of an account with an underscore. -/
def underscoreBinding : RuntimeBinding where
  instanceId := "11111111-1111-4111-8111-111111111111"
  linuxAccount := "client_a"
  publicHost := "example.com"
  family := "hermes"
  runtimeClass := "dev"
  gatewayPort := 3000
  bridgePort := 4000

/-- The account is not taken for a target. -/
theorem account_not_a_target :
    ¬@Addressable Builtins.digitsOnly (.obj [("bindings", .arr [underscoreBinding.toJson])]) := by
  let _ := Builtins.digitsOnly
  intro h
  have hload : loadRuntimeBindings (fun _ => 0)
      (.obj [("bindings", .arr [underscoreBinding.toJson])]) = some [underscoreBinding] := by
    decide +kernel
  obtain ⟨value, hvalue, -⟩ := h.target _ _ hload (fun _ => 0) underscoreBinding
    List.mem_cons_self underscoreBinding.linuxAccount (by simp)
  have hnone : Mcp.target underscoreBinding.linuxAccount = none := by decide
  rw [hnone] at hvalue
  cases hvalue

end AgentRuntimeOps.Routing
