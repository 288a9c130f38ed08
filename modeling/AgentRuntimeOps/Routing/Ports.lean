import AgentRuntimeOps.Routing.Lookup
import AgentRuntimeOps.Routing.Rewrites

/-!
# Ports of the host

A gateway port and a bridge port are both bound on the host.  Each is checked against the ports of
its own kind only, so a port that comes from outside the list may be one of the other kind.
-/

namespace AgentRuntimeOps.Routing

open AgentRuntimeOps.Lib Program

/-! ## Distinct ports -/

/-- All ports of all bindings are pairwise distinct. -/
def DistinctPorts (bindings : List RuntimeBinding) : Prop :=
  (bindings.map RuntimeBinding.gatewayPort ++ bindings.map RuntimeBinding.bridgePort).Nodup

instance (bindings : List RuntimeBinding) : Decidable (DistinctPorts bindings) := by
  unfold DistinctPorts
  infer_instance

/-- No binding has the port for its bridge. -/
def NoBridge (bindings : List RuntimeBinding) (port : Nat) : Prop :=
  ∀ binding ∈ bindings, port ≠ binding.bridgePort

lemma distinctPorts_iff {bindings : List RuntimeBinding} (h : uniqueBindings bindings) :
    DistinctPorts bindings ↔ ∀ binding ∈ bindings, NoBridge bindings binding.gatewayPort := by
  obtain ⟨-, -, -, hgateways, hbridges⟩ := h
  unfold DistinctPorts
  rw [List.nodup_append]
  constructor
  · rintro ⟨-, -, hcross⟩ binding hmem other hother
    exact hcross _ (List.mem_map_of_mem hmem) _ (List.mem_map_of_mem hother)
  · intro hcross
    refine ⟨hgateways, hbridges, ?_⟩
    simp only [List.forall_mem_map]
    exact hcross

/-! ## What is remembered for a rollback -/

/-- The target is the id or the account of the binding. -/
def RuntimeBinding.calls (binding : RuntimeBinding) (target : String) : Prop :=
  String.ofList (normalize target) = binding.instanceId ∨
    String.ofList (normalize target) = binding.linuxAccount

/-- What a state remembers for its target is the binding of the target, but for its gateway, which
may be bound again. -/
structure RemembersOwn (bindings : List RuntimeBinding) (target : String) (state : DevState) :
    Prop where
  undotted : '.' ∉ normalize target
  own : ∀ binding ∈ bindings, binding.calls target →
    state.rollbackBinding.instanceId = binding.instanceId ∧
      state.rollbackBinding.linuxAccount = binding.linuxAccount ∧
      state.rollbackBinding.bridgePort = binding.bridgePort
  free : NoBridge bindings state.rollbackBinding.gatewayPort

/-- No gateway port is a bridge port, and no rollback makes it one. -/
structure Apart (w : World) : Prop where
  gateways : ∀ binding ∈ w.bindings, NoBridge w.bindings binding.gatewayPort
  remembered : ∀ target state, w.states target = some state →
    RemembersOwn w.bindings target state

/-- The answers of a host whose developers' containers publish no port of a bridge. -/
def ApartAnswers : Program.Answers Op Op.Res Raised World := fun w op =>
  match op with
  | .inspectRootless owner container => fun r w' =>
      Outcome w (.inspectRootless owner container) r w' ∧
        ∀ found, r = .ok found → NoBridge w.bindings found.1
  | op => Outcome w op

lemma ApartAnswers.outcome {w w' : World} {op : Op} {r : Except Raised op.Res}
    (h : ApartAnswers w op r w') : Outcome w op r w' := by
  cases op with
  | inspectRootless => exact h.1
  | _ => exact h

/-- A command that returns 0. -/
def Succeeds (answers : Program.Answers Op Op.Res Raised World) (w w' : World) : Prop :=
  ∃ request : Request, Ends answers request.program w (.ok 0) w'

/-! ## What a command rewrites -/

/-- A row is replaced in bindings that are loaded. -/
structure Rewritten (w w' : World) (binding replacement : RuntimeBinding) : Prop where
  loadable : Loadable w.bindings
  mem : binding ∈ w.bindings
  rows : w'.bindings = replaceRows w.bindings binding.instanceId replacement
  unique : uniqueBindings w'.bindings

/-- What the updates write. -/
inductive Updated (w w' : World) : Prop where
  | publicHost {binding : RuntimeBinding} {host : String}
      (rewritten : Rewritten w w' binding (binding.withPublicHost host))
      (states : w'.states = w.states)
  | apply {switch : Switch} {upstream : Upstream} {status : DevStatus}
      (rewritten : Rewritten w w' switch.desired (switch.replacement upstream))
      (states : w'.states =
        Function.update w.states switch.target (some (switch.state upstream status)))
      (called : switch.desired.calls switch.target) (undotted : '.' ∉ normalize switch.target)
      (free : NoBridge w.bindings upstream.port)
  | rollback {target : String} {binding : RuntimeBinding} {state : DevState}
      (rewritten : Rewritten w w' binding state.rollbackBinding)
      (found : w.states target = some state) (called : binding.calls target)
      (states : w'.states = Function.update w.states target none)

section kept

variable {w w' : World} {binding replacement : RuntimeBinding}

/-- The rows that are left are the old ones and the new one. -/
lemma mem_replaceRows {bindings : List RuntimeBinding} {id : String} {row : RuntimeBinding}
    (h : row ∈ replaceRows bindings id replacement) : row = replacement ∨ row ∈ bindings := by
  obtain ⟨old, hold, rfl⟩ := List.mem_map.mp h
  split_ifs
  · exact .inl rfl
  · exact .inr hold

/-- A row with the old bridge leaves the bridges as they are. -/
lemma Rewritten.noBridge (h : Rewritten w w' binding replacement)
    (hbridge : replacement.bridgePort = binding.bridgePort) {port : Nat}
    (hfree : NoBridge w.bindings port) : NoBridge w'.bindings port := by
  intro row hrow
  rw [h.rows] at hrow
  obtain rfl | hrow := mem_replaceRows hrow
  · rw [hbridge]
    exact hfree binding h.mem
  · exact hfree row hrow

/-- A row with the old names and the old bridge keeps what is remembered. -/
lemma Rewritten.remembersOwn (h : Rewritten w w' binding replacement)
    (hid : replacement.instanceId = binding.instanceId)
    (haccount : replacement.linuxAccount = binding.linuxAccount)
    (hbridge : replacement.bridgePort = binding.bridgePort) {target : String} {state : DevState}
    (hstate : RemembersOwn w.bindings target state) :
    RemembersOwn w'.bindings target state where
  undotted := hstate.undotted
  free := h.noBridge hbridge hstate.free
  own row hrow hcalled := by
    rw [h.rows] at hrow
    obtain rfl | hrow := mem_replaceRows hrow
    · unfold RuntimeBinding.calls at hcalled
      rw [hid, haccount] at hcalled ⊢
      rw [hbridge]
      exact hstate.own binding h.mem hcalled
    · exact hstate.own row hrow hcalled

/-- A row with the old names, the old bridge and a free gateway keeps the ports apart. -/
lemma Rewritten.apart (h : Rewritten w w' binding replacement) (hw : Apart w)
    (hid : replacement.instanceId = binding.instanceId)
    (haccount : replacement.linuxAccount = binding.linuxAccount)
    (hbridge : replacement.bridgePort = binding.bridgePort)
    (hgateway : NoBridge w.bindings replacement.gatewayPort)
    (hstates : ∀ target state, w'.states target = some state →
      RemembersOwn w.bindings target state) : Apart w' where
  gateways row hrow := by
    refine h.noBridge hbridge ?_
    rw [h.rows] at hrow
    obtain rfl | hrow := mem_replaceRows hrow
    · exact hgateway
    · exact hw.gateways row hrow
  remembered target state hstate :=
    h.remembersOwn hid haccount hbridge (hstates target state hstate)

/-- A target without a dot calls the binding that it names. -/
lemma calls_of_named {target : String} (hnames : binding.Names)
    (hnamed : binding.named target = true) (hdot : '.' ∉ normalize target) :
    binding.calls target := by
  simp only [RuntimeBinding.named, decide_eq_true_eq, List.mem_cons, List.not_mem_nil,
    or_false] at hnamed
  rcases hnamed with heq | heq | heq
  · exact .inl heq
  · exact .inr heq
  · refine absurd hnames.dot_mem ?_
    rw [← heq, String.toList_ofList]
    exact hdot

/-- A target calls one binding only. -/
lemma calls_unique {bindings : List RuntimeBinding} {other : RuntimeBinding} {target : String}
    (h : Loadable bindings) (hmem : binding ∈ bindings) (hmem' : other ∈ bindings)
    (hcalled : binding.calls target) (hcalled' : other.calls target) : binding = other := by
  have hnamed : ∀ {row : RuntimeBinding}, row.calls target → row.named target = true := by
    intro row hrow
    refine decide_eq_true ?_
    rcases hrow with hrow | hrow
    · exact hrow ▸ List.mem_cons_self
    · exact hrow ▸ List.mem_cons_of_mem _ List.mem_cons_self
  exact named_unique h hmem hmem' (hnamed hcalled) (hnamed hcalled')

/-- **An update keeps the ports apart.** -/
theorem Updated.apart (h : Updated w w') (hw : Apart w) : Apart w' := by
  cases h with
  | @publicHost binding host hrewritten hstates =>
      have hgateway : NoBridge w.bindings binding.gatewayPort := hw.gateways _ hrewritten.mem
      refine hrewritten.apart hw rfl rfl rfl hgateway ?_
      rw [hstates]
      exact hw.remembered
  | @apply switch upstream status hrewritten hstates hcalled hundotted hfree =>
      refine hrewritten.apart hw rfl rfl rfl hfree fun target state hstate => ?_
      rw [hstates] at hstate
      by_cases htarget : target = switch.target
      · subst htarget
        rw [Function.update_self] at hstate
        cases hstate
        refine ⟨hundotted, fun row hrow hrow' => ?_, hw.gateways _ hrewritten.mem⟩
        rw [calls_unique hrewritten.loadable hrow hrewritten.mem hrow' hcalled]
        exact ⟨rfl, rfl, rfl⟩
      · rw [Function.update_of_ne htarget] at hstate
        exact hw.remembered target state hstate
  | @rollback target binding state hrewritten hfound hcalled hstates =>
      have hremembered := hw.remembered target state hfound
      obtain ⟨hid, haccount, hbridge⟩ := hremembered.own binding hrewritten.mem hcalled
      refine hrewritten.apart hw hid haccount hbridge hremembered.free fun other state' hstate => ?_
      rw [hstates] at hstate
      by_cases hother : other = target
      · rw [hother, Function.update_self] at hstate
        cases hstate
      · rw [Function.update_of_ne hother] at hstate
        exact hw.remembered other state' hstate

end kept

/-! ## The commands -/

/-- Neither the bindings nor the states have changed. -/
structure SameBooks (w w' : World) : Prop where
  bindings : w'.bindings = w.bindings
  states : w'.states = w.states

lemma SameBooks.trans {w w' w'' : World} (h : SameBooks w w') (h' : SameBooks w' w'') :
    SameBooks w w'' := ⟨h'.bindings.trans h.bindings, h'.states.trans h.states⟩

/-- A site that is written leaves the books alone. -/
lemma sameBooks_of_writtenInPlace {w w' : World} {account : String} {site : Site}
    {r : Except Raised Unit} (h : WrittenInPlace (w.setSite account) site w r w') :
    SameBooks w w' := by
  rcases h with ⟨-, rfl⟩ | ⟨-, rfl | ⟨torn, -, rfl⟩⟩
  · exact ⟨rfl, rfl⟩
  · exact ⟨rfl, rfl⟩
  · exact ⟨rfl, rfl⟩

lemma sameBooks_of_calm {w w' : World} {op : Op} {r : Except Raised op.Res} (hop : Calm op)
    (h : Outcome w op r w') : SameBooks w w' := by
  have hsame : ∀ {w w' : World}, w' = w → SameBooks w w' := fun heq => heq ▸ ⟨rfl, rfl⟩
  cases op with
  | writeBindings => exact hop.elim
  | writeBindingsText => exact hop.elim
  | writeState => exact hop.elim
  | unlinkState => exact hop.elim
  | writeSite => exact sameBooks_of_writtenInPlace h
  | restoreSite => exact sameBooks_of_writtenInPlace h
  | readBindingsText => exact hsame h.1
  | loadBindings => exact hsame h.1
  | readSite => exact hsame h.1
  | readState => exact hsame h.1
  | _ => exact hsame h

/-- The rules of a host that keeps the ports apart. -/
abbrev apartRules : Rules Op Op.Res Raised World := ⟨fun _ _ => True, ApartAnswers⟩

lemma Rewritten.congr {w w₁ w' : World} {binding replacement : RuntimeBinding}
    (h : Rewritten w w₁ binding replacement) (hsame : w'.bindings = w₁.bindings) :
    Rewritten w w' binding replacement :=
  ⟨h.loadable, h.mem, hsame.trans h.rows, hsame ▸ h.unique⟩

lemma Updated.of_sameBooks {w w₁ w' : World} (h : Updated w w₁) (hsame : SameBooks w₁ w') :
    Updated w w' := by
  cases h with
  | publicHost hrewritten hstates =>
      exact .publicHost (hrewritten.congr hsame.bindings) (hsame.states.trans hstates)
  | apply hrewritten hstates hcalled hundotted hfree =>
      exact .apply (hrewritten.congr hsame.bindings) (hsame.states.trans hstates) hcalled hundotted
        hfree
  | rollback hrewritten hfound hcalled hstates =>
      exact .rollback (hrewritten.congr hsame.bindings) hfound hcalled (hsame.states.trans hstates)

lemma SameBooks.apart {w w₁ : World} (hsame : SameBooks w w₁) (h : Apart w) : Apart w₁ := by
  obtain ⟨hbindings, hstates⟩ := hsame
  refine ⟨?_, ?_⟩
  · rw [hbindings]
    exact h.gateways
  · rw [hbindings, hstates]
    exact h.remembered

lemma SameBooks.rewritten {w w₁ w' : World} {binding replacement : RuntimeBinding}
    (hsame : SameBooks w w₁) (h : Rewritten w₁ w' binding replacement) :
    Rewritten w w' binding replacement :=
  ⟨hsame.bindings ▸ h.loadable, hsame.bindings ▸ h.mem, hsame.bindings ▸ h.rows, h.unique⟩

lemma SameBooks.updated {w w₁ w' : World} (hsame : SameBooks w w₁) (h : Updated w₁ w') :
    Updated w w' := by
  cases h with
  | publicHost hrewritten hstates =>
      exact .publicHost (hsame.rewritten hrewritten) (hstates.trans hsame.states)
  | apply hrewritten hstates hcalled hundotted hfree =>
      exact .apply (hsame.rewritten hrewritten) (hsame.states ▸ hstates) hcalled hundotted
        (hsame.bindings ▸ hfree)
  | rollback hrewritten hfound hcalled hstates =>
      exact .rollback (hsame.rewritten hrewritten) (hsame.states ▸ hfound) hcalled
        (hsame.states ▸ hstates)

section commands

variable {α : Type} {w : World}

lemma safe_books {p : Run α} (hp : AllOps Calm p) :
    Safe apartRules (fun w' _ => SameBooks w w') (fun _ _ => True) w p := by
  have hkept : Safe ⟨fun w' op => SameBooks w w' ∧ Calm op, ApartAnswers⟩
      (fun w' _ => SameBooks w w') (fun w' _ => SameBooks w w') w p := safe_invariant hp
    (fun _ _ _ _ hop hsame h => hsame.trans (sameBooks_of_calm hop h.outcome)) ⟨rfl, rfl⟩
  exact (safe_mono_pre hkept fun _ _ _ => trivial).mono (fun _ _ h => h) fun _ _ _ => trivial

/-- What is handled by raising again returns nothing. -/
lemma safe_reraise {p : Run Unit} {e : Raised} {Q : World → Unit → Prop} :
    Safe apartRules Q (fun _ _ => True) w (do p; throw e) :=
  (safe_true w p).bind fun _ _ _ => trivial

/-- Bindings are loaded as they are stored. -/
lemma safe_loadBindings : Safe apartRules
    (fun w' bindings => w' = w ∧ bindings = w.bindings ∧ Loadable w.bindings) (fun _ _ => True) w
    Op.loadBindings.run :=
  safe_perform.mpr ⟨trivial, fun _ _ h => loadBindings_ok h, fun _ _ _ => trivial⟩

/-- Rows are written for a binding that is replaced. -/
lemma rewritten_of_write {w₀ w' : World} {binding replacement : RuntimeBinding}
    {rows : List RuntimeBinding} (hloadable : Loadable w₀.bindings) (hmem : binding ∈ w₀.bindings)
    (hrows : replaceRuntimeBinding w₀.bindings binding.instanceId replacement = .ok rows)
    (hwritten : Outcome w (.writeBindings rows binding.instanceId) (.ok ()) w') :
    Rewritten w₀ w' binding replacement := by
  obtain ⟨hunique, rfl⟩ := writeBindings_ok hwritten
  exact ⟨hloadable, hmem, (replaceRuntimeBinding_ok hrows).1, hunique⟩

/-- `set-public-host` replaces one row. -/
lemma safe_setPublicHost_updated (target host : String) :
    Safe apartRules (fun w' _ => Updated w w') (fun _ _ => True) w (setPublicHost target host) := by
  unfold setPublicHost
  refine (safe_books (p := Op.readBindingsText.run) (allOps_perform.mpr trivial)).bind
    fun w₁ text h₁ => ?_
  refine safe_loadBindings.bind fun w₂ bindings ⟨h₂, hbindings, hloadable⟩ => ?_
  refine safe_loadBindings.bind fun w₃ again ⟨h₃, hagain, _⟩ => ?_
  subst h₂ h₃ hbindings
  refine safe_bind.mpr (safe_ofExcept.mpr ⟨fun binding hget => ?_, fun _ _ => trivial⟩)
  refine safe_bind.mpr (safe_ofExcept.mpr ⟨fun rows hrows => ?_, fun _ _ => trivial⟩)
  rw [hagain] at hget
  have hmem := mem_of_getRuntimeBinding hget
  refine (safe_books (calm_setApacheHost _ _ _)).bind fun w₄ _ h₄ => ?_
  have hwrite : Safe apartRules (fun w' _ => Updated w w') (fun _ _ => True) w₄
      (writeOrCompensate text rows binding) := by
    refine safe_tryCatch.mpr (safe_perform.mpr ⟨trivial, fun _ w₅ h₅ => ?_, fun e w₅ _ => ?_⟩)
    · have hsame := h₁.trans h₄
      rw [h₁.bindings] at hloadable hmem hrows
      refine .publicHost (rewritten_of_write hloadable hmem hrows h₅) ?_
      rw [(writeBindings_ok h₅).2, World.states_store, hsame.states]
    · exact (safe_true w₅ _).bind fun w₆ _ _ => safe_reraise
  refine hwrite.bind fun w₅ _ h₅ => ?_
  refine (safe_books (calm_parseApacheRoute _)).bind fun w₆ after h₆ => ?_
  exact safe_ofExcept.mpr ⟨fun _ _ => h₅.of_sameBooks h₆, fun _ _ => trivial⟩

/-- An upstream whose port is no bridge is inspected. -/
lemma safe_inspectUpstream (owner container : String) :
    Safe apartRules (fun w' upstream => SameBooks w w' ∧ NoBridge w.bindings upstream.port)
      (fun _ _ => True) w (inspectUpstream owner container) := by
  unfold inspectUpstream
  split_ifs
  · exact trivial
  · refine safe_bind.mpr (safe_perform.mpr ⟨trivial, fun found w₁ h₁ => ?_, fun _ _ _ => trivial⟩)
    obtain rfl : w₁ = w := h₁.1
    refine safe_bind.mpr (safe_perform.mpr ⟨trivial, fun _ w₂ h₂ => ?_, fun _ _ _ => trivial⟩)
    obtain rfl : w₂ = w₁ := h₂
    exact ⟨⟨rfl, rfl⟩, h₁.2 found rfl⟩

/-- A target whose site can be written is an account. -/
lemma undotted_of_siteAccount {target account : String} (h : siteAccount target = .ok account) :
    '.' ∉ normalize target := by
  unfold siteAccount validateLinuxAccount at h
  split at h
  case h_2 => cases h
  case h_1 found hfound =>
    dsimp only at hfound
    split_ifs at hfound with haccount
    obtain ⟨hplain, hdot, -⟩ := isLinuxAccount_chars haccount
    intro hmem
    unfold normalize dropRight at hmem
    rw [List.mem_reverse] at hmem
    have hmem := List.mem_reverse.mp ((List.dropWhile_suffix _).subset hmem)
    obtain ⟨c, hc, hlower⟩ := List.mem_map.mp hmem
    rw [(lowerChar_of_isPlain (hplain c hc)).2] at hlower
    exact hdot (hlower ▸ hc)

/-- A port is changed for an account only. -/
lemma safe_setApacheProxyPort_undotted (target : String) (port : Nat) :
    Safe apartRules (fun w' _ => SameBooks w w' ∧ '.' ∉ normalize target) (fun _ _ => True) w
      (setApacheProxyPort target port) := by
  cases haccount : siteAccount target with
  | error e =>
      unfold setApacheProxyPort
      rw [haccount]
      exact trivial
  | ok account =>
      exact (safe_books (calm_setApacheProxyPort target port)).mono
        (fun _ _ h => ⟨h, undotted_of_siteAccount haccount⟩) fun _ _ h => h

/-- The books are those of `w`, but for the state of a target. -/
structure SameBut (target : String) (w w' : World) : Prop where
  bindings : w'.bindings = w.bindings
  states : ∀ state, Function.update w'.states target state = Function.update w.states target state

lemma SameBut.trans {target : String} {w₁ w₂ : World} (h : SameBut target w w₁)
    (hsame : SameBooks w₁ w₂) : SameBut target w w₂ :=
  ⟨hsame.bindings.trans h.bindings, hsame.states ▸ h.states⟩

lemma SameBut.setState {target : String} {w₁ : World} (h : SameBut target w w₁)
    (state : Option DevState) : SameBut target w (w₁.setState target state) :=
  ⟨h.bindings, fun state' => (Function.update_idem _ _ _).trans (h.states state')⟩

/-- The switch of an apply replaces one row, and remembers it. -/
lemma safe_applySwitch_updated {switch : Switch} {upstream : Upstream} {w₁ : World}
    (hloadable : Loadable w.bindings) (hmem : switch.desired ∈ w.bindings)
    (hnamed : switch.desired.named switch.target = true) (hfree : NoBridge w.bindings upstream.port)
    (hsame : SameBut switch.target w w₁) :
    Safe apartRules (fun w' _ => Updated w w') (fun _ _ => True) w₁
      (applySwitch switch upstream w.bindings) := by
  unfold applySwitch
  refine safe_bind.mpr (safe_ofExcept.mpr ⟨fun rows hrows => ?_, fun _ _ => trivial⟩)
  refine safe_bind.mpr (safe_perform.mpr ⟨trivial, fun _ w₂ h₂ => ?_, fun _ _ _ => trivial⟩)
  have hrewritten := rewritten_of_write hloadable hmem hrows h₂
  obtain ⟨-, rfl⟩ := writeBindings_ok h₂
  refine (safe_setApacheProxyPort_undotted _ _).bind fun w₃ _ ⟨h₃, hundotted⟩ => ?_
  refine safe_perform.mpr ⟨trivial, fun _ w₄ h₄ => ?_, fun _ _ _ => trivial⟩
  obtain rfl := replaced_ok h₄
  have hstates : (w₃.setState switch.target (some (switch.state upstream .active))).states =
      Function.update w.states switch.target (some (switch.state upstream .active)) := by
    rw [← hsame.states, ← World.states_store (w := w₁), ← h₃.states]
    rfl
  have hcalled : switch.desired.calls switch.target :=
    calls_of_named (RuntimeBinding.names_of_accepted (hloadable.1 _ hmem)) hnamed hundotted
  exact .apply (hrewritten.congr h₃.bindings) hstates hcalled hundotted hfree

/-- `apply` replaces one row, and remembers it. -/
lemma safe_applyUpstream_updated {switch : Switch} {w₁ : World} (state : Option DevState)
    (container : String) (hmem : switch.desired ∈ w.bindings)
    (hnamed : switch.desired.named switch.target = true) (hsame : SameBut switch.target w w₁) :
    Safe apartRules (fun w' _ => Updated w w') (fun _ _ => True) w₁
      (applyUpstream switch state container) := by
  unfold applyUpstream
  refine (safe_books (p := Op.sudoUser.run) (allOps_perform.mpr trivial)).bind fun w₂ owner h₂ => ?_
  split_ifs
  · exact trivial
  refine (safe_inspectUpstream owner container).bind fun w₃ upstream ⟨h₃, hfree⟩ => ?_
  rw [h₂.bindings, hsame.bindings] at hfree
  refine safe_bind.mpr (safe_perform.mpr ⟨trivial, fun _ w₄ h₄ => ?_, fun _ _ _ => trivial⟩)
  obtain rfl := replaced_ok h₄
  have hsame' := ((hsame.trans h₂).trans h₃).setState
    (some (switch.state upstream .prepared))
  refine safe_loadBindings.bind fun w₅ bindings ⟨h₅, hbindings, hloadable⟩ => ?_
  subst h₅ hbindings
  rw [hsame'.bindings] at hloadable ⊢
  have hswitch := safe_applySwitch_updated hloadable hmem hnamed hfree hsame'
  exact safe_tryCatch.mpr (hswitch.mono (fun _ _ h => h) fun _ _ _ => safe_reraise)

/-- `rollback` puts the row back that was remembered. -/
lemma safe_rollbackUpstream_updated (switch : Switch) (hw : Apart w)
    (hloaded : Loadable w.bindings) (hmem : switch.desired ∈ w.bindings)
    (hnamed : switch.desired.named switch.target = true) :
    Safe apartRules (fun w' _ => Updated w w') (fun _ _ => True) w
      (rollbackUpstream switch (w.states switch.target)) := by
  unfold rollbackUpstream
  cases hfound : w.states switch.target with
  | none => exact trivial
  | some state =>
      have hnames := RuntimeBinding.names_of_accepted (hloaded.1 _ hmem)
      have hcalled := calls_of_named hnames hnamed (hw.remembered _ _ hfound).undotted
      dsimp only
      split_ifs
      · exact trivial
      refine safe_loadBindings.bind fun w₁ bindings ⟨h₁, hbindings, hloadable⟩ => ?_
      subst h₁ hbindings
      refine safe_bind.mpr (safe_ofExcept.mpr ⟨fun rows hrows => ?_, fun _ _ => trivial⟩)
      refine safe_bind.mpr (safe_perform.mpr ⟨trivial, fun _ w₂ h₂ => ?_, fun _ _ _ => trivial⟩)
      have hrewritten := rewritten_of_write hloadable hmem hrows h₂
      obtain ⟨-, rfl⟩ := writeBindings_ok h₂
      have hrestore : Safe apartRules (fun w' _ => SameBooks (w₁.store rows _) w') (fun _ _ => True)
          (w₁.store rows switch.desired.instanceId)
          (restoreOrWriteBack switch state.rollbackBinding w₁.bindings) :=
        safe_tryCatch.mpr ((safe_books (calm_setApacheProxyPort _ _)).mono (fun _ _ h => h)
          fun _ _ _ => safe_reraise)
      refine hrestore.bind fun w₃ _ h₃ => ?_
      refine safe_perform.mpr ⟨trivial, fun _ w₄ h₄ => ?_, fun _ _ _ => trivial⟩
      obtain rfl := unlinkState_ok h₄
      have hstates : (w₃.setState switch.target none).states =
          Function.update w₁.states switch.target none := by
        show Function.update w₃.states _ _ = _
        rw [h₃.states]
        rfl
      exact .rollback (hrewritten.congr h₃.bindings) hfound hcalled hstates

/-- The binding of a target is one of the list. -/
lemma safe_loadTarget_named (target : String) :
    Safe apartRules (fun w' binding => SameBooks w w' ∧ Loadable w.bindings ∧
      binding ∈ w.bindings ∧ binding.named target = true) (fun _ _ => True) w
      (loadTarget target) := by
  unfold loadTarget
  refine safe_loadBindings.bind fun w₁ bindings ⟨h₁, hbindings, hloadable⟩ => ?_
  subst h₁ hbindings
  refine safe_bind.mpr (safe_ofExcept.mpr ⟨fun binding hget => ?_, fun _ _ => trivial⟩)
  refine safe_bind.mpr (safe_perform.mpr ⟨trivial, fun manifest w₂ h₂ => ?_, fun _ _ _ => trivial⟩)
  obtain rfl : w₂ = w₁ := h₂
  split_ifs
  · exact trivial
  · exact ⟨⟨rfl, rfl⟩, hloadable, mem_of_getRuntimeBinding hget, named_of_getRuntimeBinding hget⟩

/-- Removing an intent changes the state of its target only. -/
lemma safe_clearPrepared_sameBut (switch : Switch) {w₁ : World} (state : Option DevState)
    (hsame : SameBut switch.target w w₁) :
    Safe apartRules (fun w' _ => SameBut switch.target w w') (fun _ _ => True) w₁
      (clearPrepared switch state) := by
  cases state with
  | none => exact hsame
  | some state =>
      unfold clearPrepared
      dsimp only
      split_ifs
      · exact hsame
      · exact trivial
      · refine safe_bind.mpr (safe_perform.mpr ⟨trivial, fun _ w₂ h₂ => ?_, fun _ _ _ => trivial⟩)
        obtain rfl := unlinkState_ok h₂
        exact hsame.setState none

/-- The `try` of a command that updates. -/
lemma safe_succeeds {p : Run Unit} {w₁ : World}
    (hp : Safe apartRules (fun w' _ => Updated w w') (fun _ _ => True) w₁ p) :
    Safe apartRules (fun w' code => code = 0 → Updated w w') (fun _ _ => True) w₁ (do
      match ← attempt p with
      | .error _ => return 1
      | .ok () => return (0 : Nat)) :=
  safe_bind.mpr (safe_tryCatch.mpr (safe_bind.mpr
    (hp.mono (fun _ _ h _ => h) fun _ _ _ => nofun)))

/-- A command that returns 0 is an update. -/
lemma safe_program_updated (hw : Apart w) (request : Request) :
    Safe apartRules (fun w' code => code = 0 → Updated w w') (fun _ _ => True) w
      request.program := by
  cases request with
  | setPublicHost target host =>
      unfold Request.program cmdBindingSetPublicHost
      refine safe_bind.mpr (safe_perform.mpr ⟨trivial, fun root w₁ h₁ => ?_, fun _ _ _ => trivial⟩)
      obtain rfl : w₁ = w := h₁
      cases root with
      | false => exact nofun
      | true =>
          cases validatePublicHost host with
          | none => exact trivial
          | some newHost => exact safe_succeeds (safe_setPublicHost_updated target newHost)
  | devUpstream target action =>
      refine safe_succeeds ?_
      unfold devUpstream
      refine (safe_loadTarget_named target).bind
        fun w₁ desired ⟨h₁, hloaded, hmem, hnamed⟩ => ?_
      refine (safe_books (calm_parseApacheRoute _)).bind fun w₂ route h₂ => ?_
      refine safe_bind.mpr (safe_perform.mpr ⟨trivial, fun found w₃ h₃ => ?_, fun _ _ _ => trivial⟩)
      obtain ⟨rfl, rfl⟩ := readState_ok h₃
      have hsame := h₁.trans h₂
      cases action with
      | apply container =>
          have hbut : SameBut target w w₃ := ⟨hsame.bindings, fun _ => by rw [hsame.states]⟩
          refine (safe_clearPrepared_sameBut ⟨target, desired, route⟩ _ hbut).bind
            fun w₄ state h₄ => ?_
          refine safe_bind.mpr
            (safe_perform.mpr ⟨trivial, fun root w₅ h₅ => ?_, fun _ _ _ => trivial⟩)
          obtain rfl : w₅ = w₄ := h₅
          cases root with
          | false => exact trivial
          | true => exact safe_applyUpstream_updated state container hmem hnamed h₄
      | rollback =>
          refine safe_bind.mpr
            (safe_perform.mpr ⟨trivial, fun root w₄ h₄ => ?_, fun _ _ _ => trivial⟩)
          obtain rfl : w₄ = w₃ := h₄
          cases root with
          | false => exact trivial
          | true =>
              have hrollback := safe_rollbackUpstream_updated ⟨target, desired, route⟩
                (hsame.apart hw) (hsame.bindings.symm ▸ hloaded) (hsame.bindings.symm ▸ hmem) hnamed
              exact hrollback.mono (fun _ _ h => hsame.updated h) fun _ _ h => h

end commands

/-! ## Runs -/

/-- An update leaves bindings that can be loaded as far as ports and names go. -/
lemma Updated.unique {w w' : World} (h : Updated w w') : uniqueBindings w'.bindings := by
  cases h with
  | publicHost hrewritten => exact hrewritten.unique
  | apply hrewritten => exact hrewritten.unique
  | rollback hrewritten => exact hrewritten.unique

/-- A host where no container can be inspected. -/
def closedHost : Host where
  user := ""
  port := 0
  raises
    | .inspectRootless .. => true
    | _ => false

lemma closedHost_apart (op : Op) (w : World) :
    ApartAnswers w op (closedHost.answer op w).1 (closedHost.answer op w).2 := by
  have houtcome := closedHost.answer_outcome op w
  cases op with
  | inspectRootless =>
      refine ⟨houtcome, fun found h => ?_⟩
      cases (show Except.error Raised.outside = .ok found from h)
  | _ => exact houtcome

end AgentRuntimeOps.Routing
