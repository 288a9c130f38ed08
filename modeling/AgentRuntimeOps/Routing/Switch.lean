import Mathlib
import AgentRuntimeOps.Routing.PublicHost

/-!
# Whether a switched route can be switched back

`cmd_dev_upstream` writes three things one after the other: the state of the target, the stored
bindings and the Apache site.  A run may be cut off between any two of them.  `Known` holds of every
state reached from a managed baseline, and `Admitted` says which of these states the guards of the
two actions let out of again (`dev_upstream_restorable`); another one stays (`dev_upstream_stuck`).
-/

namespace AgentRuntimeOps.Routing

open AgentRuntimeOps.Lib Program

-- a goal about a program is not to be unfolded into the texts that it compares
attribute [local irreducible] getRuntimeBinding replaceRuntimeBinding siteAccount parseSite
  replaceServerName replaceProxyPort validatePublicHost apacheRouteChecks

/-! ## The baseline -/

/-- A managed binding of a Hermes dev target among the stored ones. -/
structure Baseline where
  bindings : List RuntimeBinding
  binding : RuntimeBinding
  account : String
  loadable : Loadable bindings
  get : getRuntimeBinding binding.linuxAccount bindings = .ok binding
  managed : binding.upstreamKind = .managedRootful
  family : binding.family = "hermes"
  runtimeClass : binding.runtimeClass = "dev"
  named : "dev-".toList <+: binding.linuxAccount.toList
  site : siteAccount binding.linuxAccount = .ok account

namespace Baseline

variable (base : Baseline)

/-- The target of the commands. -/
def target : String := base.binding.linuxAccount

/-- The binding of the target, switched to an upstream. -/
def replacement (upstream : Upstream) : RuntimeBinding :=
  { base.binding with
    gatewayPort := upstream.port
    upstreamKind := .developerRootless
    upstreamOwner := upstream.owner
    upstreamContainer := upstream.container }

/-- The bindings, with that of the target switched. -/
def switched (upstream : Upstream) : List RuntimeBinding :=
  replaceRows base.bindings base.binding.instanceId (base.replacement upstream)

/-- The site of the target is read as a route to this port. -/
def Routes (w : World) (port : Nat) : Prop :=
  ∃ site route, w.sites base.account = some site ∧ parseSite site = .ok route ∧
    route.gatewayPort = port

/-- The baseline is there: the binding, the port, and no state. -/
structure Restored (w : World) : Prop where
  state : w.states base.target = none
  bindings : w.bindings = base.bindings
  routes : base.Routes w base.binding.gatewayPort

/-- The state remembers the baseline. -/
structure Remembered (state : DevState) : Prop where
  target : state.target = base.target
  instanceId : state.instanceId = base.binding.instanceId
  rollbackBinding : state.rollbackBinding = base.binding

/-- A state remembers the baseline, and the bindings are the old ones or switched. -/
structure Held (w : World) : Prop where
  state : ∃ state, w.states base.target = some state ∧ base.Remembered state
  bindings : w.bindings = base.bindings ∨ ∃ upstream, w.bindings = base.switched upstream

/-- What holds in every state reached. -/
def Known (w : World) : Prop := base.Restored w ∨ base.Held w

/-- An intent that an apply removes. -/
structure Clearable (w : World) : Prop where
  state : ∃ state, w.states base.target = some state ∧ state.status = .prepared
  bindings : w.bindings = base.bindings
  routes : base.Routes w base.binding.gatewayPort

/-- A switch that a rollback undoes. -/
structure Undoable (w : World) : Prop where
  state : ∃ state, w.states base.target = some state ∧ state.status = .active
  bindings : w.bindings ≠ base.bindings
  loadable : Loadable w.bindings
  routes : ∃ port, base.Routes w port

/-- The guards of the commands let the target out of its state. -/
def Admitted (w : World) : Prop :=
  w.states base.target = none ∨
    1024 ≤ base.binding.gatewayPort ∧ (base.Clearable w ∨ base.Undoable w)

/-- Runs of the commands reach a world; each may be cut off before any operation. -/
def Reached (w w' : World) : Prop :=
  Relation.ReflTransGen (fun w w' => ∃ action,
    Stops Outcome (fun _ _ => True) (cmdDevUpstream base.target action) w w') w w'

/-- Some commands that all return 0 lead back to the baseline. -/
def Restorable (w : World) : Prop :=
  ∃ w', Relation.ReflTransGen (fun w w' => ∃ action,
    Ends Outcome (cmdDevUpstream base.target action) w (.ok 0) w') w w' ∧ base.Restored w'

end Baseline

/-! ## Rows -/

section rows

variable {bindings : List RuntimeBinding} {id : String} {binding replacement : RuntimeBinding}

/-- With a row of the same names the same row is found. -/
lemma getRuntimeBinding_replaceRows {target : String}
    (hget : getRuntimeBinding target bindings = .ok binding)
    (hids : (bindings.map RuntimeBinding.instanceId).Nodup)
    (hid : replacement.instanceId = binding.instanceId)
    (haccount : replacement.linuxAccount = binding.linuxAccount)
    (hhost : replacement.publicHost = binding.publicHost) :
    getRuntimeBinding target (replaceRows bindings binding.instanceId replacement) =
      .ok replacement := by
  have hmem := mem_of_getRuntimeBinding hget
  unfold getRuntimeBinding at hget ⊢
  dsimp only at hget ⊢
  split at hget
  case h_2 => cases hget
  case h_1 found hfound =>
    cases hget
    have hsame : bindings.find? ((fun row : RuntimeBinding => decide
        (String.ofList (normalize target) ∈ [row.instanceId, row.linuxAccount, row.publicHost])) ∘
          fun row => if row.instanceId = binding.instanceId then replacement else row) =
        some binding := by
      rw [← hfound]
      refine List.find?_congr fun row hrow => ?_
      by_cases hrow' : row.instanceId = binding.instanceId
      · have heq : row = binding := List.inj_on_of_nodup_map hids hrow hmem hrow'
        simp [heq, haccount, hhost, hid]
      · simp [hrow']
    unfold replaceRows
    rw [List.find?_map, hsame]
    simp

/-- A row that is put back. -/
lemma replaceRows_replaceRows (hmem : binding ∈ bindings)
    (hids : (bindings.map RuntimeBinding.instanceId).Nodup)
    (hid : replacement.instanceId = binding.instanceId) :
    replaceRows (replaceRows bindings binding.instanceId replacement) binding.instanceId binding =
      bindings := by
  unfold replaceRows
  rw [List.map_map]
  refine (List.map_congr_left fun row hrow => ?_).trans (List.map_id bindings)
  by_cases hsame : row.instanceId = binding.instanceId
  · have heq : row = binding := List.inj_on_of_nodup_map hids hrow hmem hsame
    simp [hid, heq]
  · simp [hsame]

end rows

namespace Baseline

variable {base : Baseline} {w w' : World} {upstream : Upstream}

lemma mem : base.binding ∈ base.bindings := mem_of_getRuntimeBinding base.get

lemma ids_nodup : (base.bindings.map RuntimeBinding.instanceId).Nodup := base.loadable.2.1

/-- The switched binding is found. -/
lemma get_switched :
    getRuntimeBinding base.target (base.switched upstream) = .ok (base.replacement upstream) :=
  getRuntimeBinding_replaceRows base.get ids_nodup rfl rfl rfl

/-- The old binding is put back among the switched ones. -/
lemma replaceRows_switched :
    replaceRows (base.switched upstream) base.binding.instanceId base.binding = base.bindings :=
  replaceRows_replaceRows mem ids_nodup rfl

/-- The switched bindings are not the old ones. -/
lemma switched_ne : base.switched upstream ≠ base.bindings := by
  intro heq
  have hget : getRuntimeBinding base.target (base.switched upstream) = _ := get_switched
  rw [heq, target, base.get] at hget
  have hkind := congrArg RuntimeBinding.upstreamKind (Except.ok.inj hget)
  rw [base.managed] at hkind
  cases hkind

/-- In a known world the binding of the target is the old one or a switched one. -/
lemma Known.desired (h : base.Known w) {desired : RuntimeBinding}
    (hget : getRuntimeBinding base.target w.bindings = .ok desired) :
    w.bindings = base.bindings ∧ desired = base.binding ∨
      ∃ upstream, w.bindings = base.switched upstream ∧ desired = base.replacement upstream := by
  have hcases : w.bindings = base.bindings ∨ ∃ upstream, w.bindings = base.switched upstream :=
    h.elim (fun h => .inl h.bindings) fun h => h.bindings
  rcases hcases with hold | ⟨upstream, hswitched⟩
  · rw [hold, target, base.get] at hget
    exact .inl ⟨hold, (Except.ok.inj hget).symm⟩
  · rw [hswitched, get_switched] at hget
    exact .inr ⟨upstream, hswitched, (Except.ok.inj hget).symm⟩

/-- What does not touch the state and the bindings keeps them known. -/
lemma Held.of_eq (h : base.Held w) (hbindings : w'.bindings = w.bindings)
    (hstates : w'.states = w.states) : base.Held w' where
  state := by rw [hstates]; exact h.state
  bindings := by rw [hbindings]; exact h.bindings

/-! ## Looking at the target -/

/-- The answers, where every operation finds a known world. -/
abbrev knownRules (base : Baseline) : Rules Op Op.Res Raised World :=
  ⟨fun w _ => base.Known w, Outcome⟩

/-- One operation, and what follows it. -/
lemma safe_run_bind {α : Type} {op : Op} {f : op.Res → Run α} {Q : World → α → Prop}
    {E : World → Raised → Prop} (hw : base.Known w)
    (hok : ∀ a w', Outcome w op (.ok a) w' → Safe base.knownRules Q E w' (f a))
    (herror : ∀ e w', Outcome w op (.error e) w' → E w' e) :
    Safe base.knownRules Q E w (op.run >>= f) :=
  safe_bind.mpr (safe_perform.mpr ⟨hw, hok, herror⟩)

lemma safe_parseApacheRoute (hw : base.Known w) :
    Safe base.knownRules
      (fun w' route => w' = w ∧ ∃ site, w.sites base.account = some site ∧
        parseSite site = .ok route)
      (fun w' _ => w' = w) w (parseApacheRoute base.target) := by
  unfold parseApacheRoute target
  rw [base.site]
  refine safe_run_bind hw (fun site w₁ h => ?_) fun e w₁ h => h.1
  obtain ⟨rfl, hsite⟩ := readSite_ok h
  exact safe_ofExcept.mpr ⟨fun route hroute => ⟨rfl, site, hsite, hroute⟩, fun e _ => rfl⟩

lemma safe_loadTarget (hw : base.Known w) :
    Safe base.knownRules
      (fun w' desired => w' = w ∧ Loadable w.bindings ∧
        getRuntimeBinding base.target w.bindings = .ok desired)
      (fun w' _ => w' = w) w (loadTarget base.target) := by
  unfold loadTarget
  refine safe_run_bind hw (fun bindings w₁ h => ?_) fun e w₁ h => h.1
  obtain ⟨rfl, rfl, hloadable⟩ := loadBindings_ok h
  refine safe_bind.mpr (safe_ofExcept.mpr ⟨fun desired hget => ?_, fun e _ => rfl⟩)
  refine safe_run_bind hw (fun manifest w₂ h => ?_) fun e w₂ h => h
  have hworld : w₂ = w₁ := h
  rw [hworld]
  split_ifs
  · exact rfl
  · exact ⟨rfl, hloadable, hget⟩

/-! ## Changing the site -/

/-- Only sites differ. -/
structure SameTruth (w w' : World) : Prop where
  bindings : w'.bindings = w.bindings
  states : w'.states = w.states

lemma SameTruth.refl (w : World) : SameTruth w w := ⟨rfl, rfl⟩

lemma SameTruth.setSite {account : String} {site : Site} (h : SameTruth w w') :
    SameTruth w (w'.setSite account site) := ⟨h.bindings, h.states⟩

lemma SameTruth.held (h : SameTruth w w') (hw : base.Held w) : base.Known w' :=
  .inr (hw.of_eq h.bindings h.states)

lemma safe_installSite {account : String} {original updated : Site} (hw : base.Held w) :
    Safe base.knownRules (fun w' _ => w' = w.setSite account updated) (fun w' _ => SameTruth w w') w
      (installSite .change account original updated (return ())) := by
  have hwritten : ∀ phase {site} {w₁ w₂ : World} {r : Except Raised Unit}, SameTruth w w₁ →
      Outcome w₁ (.writeSite phase account site) r w₂ → SameTruth w w₂ := by
    rintro phase site w₁ w₂ r h (⟨-, rfl⟩ | ⟨-, rfl | ⟨torn, -, rfl⟩⟩)
    · exact h.setSite
    · exact h
    · exact h.setSite
  have hback : ∀ {w₁ : World} {rest : Run Unit}, SameTruth w w₁ →
      (∀ w₂, SameTruth w w₂ → Safe base.knownRules (fun w' _ => w' = w.setSite account updated)
        (fun w' _ => SameTruth w w') w₂ rest) →
      Safe base.knownRules (fun w' _ => w' = w.setSite account updated)
        (fun w' _ => SameTruth w w') w₁ (do
          (Op.restoreSite .change account original).run
          rest) := by
    intro w₁ rest h₁ hrest
    refine safe_run_bind (h₁.held hw) (fun _ w₂ h => ?_) fun e w₂ h => ?_
    · exact hrest w₂ (hwritten .change h₁ h)
    · exact hwritten .change h₁ h
  unfold installSite
  refine safe_run_bind (.inr hw) (fun _ w₁ h => ?_) fun e w₁ h => ?_
  swap
  · rw [show w₁ = w from h]
    exact .refl w
  rw [show w₁ = w from h]
  refine safe_run_bind (.inr hw) (fun _ w₂ h => ?_) fun e w₂ h => ?_
  swap
  · exact hwritten .change (.refl w) h
  have hupdated : w₂ = w.setSite account updated := writtenInPlace_ok h
  have h₂ : SameTruth w w₂ := hwritten .change (.refl w) h
  refine safe_run_bind (h₂.held hw) (fun tested w₃ h => ?_) fun e w₃ h => ?_
  swap
  · rw [show w₃ = w₂ from h]
    exact h₂
  rw [show w₃ = w₂ from h]
  cases tested with
  | false => exact hback h₂ fun w₄ h₄ => h₄
  | true =>
      refine safe_run_bind (h₂.held hw) (fun reloaded w₄ h => ?_) fun e w₄ h => ?_
      swap
      · rw [show w₄ = w₂ from h]
        exact h₂
      rw [show w₄ = w₂ from h]
      cases reloaded with
      | true => exact hupdated
      | false =>
          refine hback h₂ fun w₅ h₅ => ?_
          refine safe_run_bind (h₅.held hw) (fun _ w₆ h => ?_) fun e w₆ h => ?_
          · rw [show w₆ = w₅ from h]
            exact h₅
          · rw [show w₆ = w₅ from h]
            exact h₅

/-- A port that is set is there. -/
lemma safe_setApacheProxyPort {port : Nat} (hw : base.Held w) :
    Safe base.knownRules
      (fun w' _ => SameTruth w w' ∧ 1024 ≤ port ∧
        ((∃ old, base.Routes w old) → base.Routes w' port))
      (fun w' _ => SameTruth w w') w (setApacheProxyPort base.target port) := by
  unfold setApacheProxyPort target
  rw [base.site]
  refine safe_run_bind (.inr hw) (fun original w₁ h => ?_) fun e w₁ h => ?_
  swap
  · rw [h.1]
    exact .refl w
  obtain ⟨rfl, hsite⟩ := readSite_ok h
  refine safe_bind.mpr (safe_ofExcept.mpr ⟨fun replaced hreplaced => ?_, fun e _ => .refl w₁⟩)
  obtain ⟨updated, oldPort⟩ := replaced
  obtain ⟨ports, hlow, -, hports, hsame, hsockets, hupdated⟩ := replaceProxyPort_ok hreplaced
  dsimp only
  by_cases hold : oldPort = port
  · rw [if_pos hold]
    refine ⟨.refl w₁, hlow, ?_⟩
    rintro ⟨old, site, route, hsite', hroute, -⟩
    rw [hsite] at hsite'
    cases hsite'
    obtain ⟨name, ports', -, hports', -⟩ := parseSite_ok hroute
    rw [hports] at hports'
    cases hports'
    exact ⟨original, route, hsite, hroute, hold⟩
  · rw [if_neg hold]
    refine (safe_installSite hw).mono ?_ fun _ _ h => h
    rintro w₂ _ rfl
    refine ⟨(SameTruth.refl w₁).setSite, hlow, ?_⟩
    rintro ⟨old, site, route, hsite', hroute, -⟩
    rw [hsite] at hsite'
    cases hsite'
    obtain ⟨name, ports', hnames, -, hhost, -⟩ := parseSite_ok hroute
    have hparsed := @parseSite_eq updated _ _ port _
      (by rw [hupdated, serverNames_map_withPort, hnames])
      (by rw [hupdated, proxyPorts_map_withPort, hports]; rfl) hhost
      ⟨by simp [samePorts], by simp [samePorts, hupdated, webSocketPorts_map_withPort]⟩
    exact ⟨updated, _, World.sites_setSite_self, hparsed, rfl⟩

/-! ## The apply -/

/-- The state of a switch of the baseline remembers it. -/
lemma remembered_state {switch : Switch} (htarget : switch.target = base.target)
    (hdesired : switch.desired = base.binding) {status : DevStatus} :
    base.Remembered (switch.state upstream status) where
  target := htarget
  instanceId := congrArg RuntimeBinding.instanceId hdesired
  rollbackBinding := hdesired

/-- What is stored by a write of the old bindings or of switched ones. -/
lemma Held.written (h : base.Held w) {bindings : List RuntimeBinding} {id : String}
    {r : Except Raised Unit} (hout : Outcome w (.writeBindings bindings id) r w')
    (hbindings : bindings = base.bindings ∨ ∃ upstream, bindings = base.switched upstream) :
    base.Held w' := by
  have hstore : base.Held (w.store bindings id) := ⟨h.state, hbindings⟩
  cases r with
  | ok _ => rw [(writeBindings_ok hout).2]; exact hstore
  | error e =>
      rcases writeBindings_error hout with hsame | ⟨-, hstored⟩
      · rw [hsame]; exact h
      · rw [hstored]; exact hstore

/-- A state that remembers the baseline is written. -/
lemma held_writeState {state : DevState} (hstate : base.Remembered state)
    (hbindings : w.bindings = base.bindings ∨ ∃ upstream, w.bindings = base.switched upstream) :
    base.Held (w.setState base.target (some state)) :=
  ⟨⟨state, World.states_setState_self, hstate⟩, hbindings⟩

lemma safe_applySwitch {switch : Switch} (htarget : switch.target = base.target)
    (hdesired : switch.desired = base.binding) (hw : base.Held w) :
    Safe base.knownRules (fun w' _ => base.Held w') (fun w' _ => base.Held w') w
      (applySwitch switch upstream base.bindings) := by
  unfold applySwitch
  refine safe_bind.mpr (safe_ofExcept.mpr ⟨fun rows hrows => ?_, fun e _ => hw⟩)
  have hswitched : rows = base.switched upstream := by
    rw [(replaceRuntimeBinding_ok hrows).1, hdesired]
    unfold Switch.replacement
    rw [hdesired]
    rfl
  have hrows' : rows = base.bindings ∨ ∃ upstream, rows = base.switched upstream :=
    .inr ⟨upstream, hswitched⟩
  refine safe_run_bind (.inr hw) (fun _ w₁ h => ?_) fun e w₁ h => hw.written h hrows'
  have h₁ : base.Held w₁ := hw.written h hrows'
  rw [htarget]
  refine Safe.bind ((safe_setApacheProxyPort h₁).mono (fun _ _ h => h) fun w₂ e h₂ =>
    h₁.of_eq h₂.bindings h₂.states) ?_
  rintro w₂ _ ⟨hsame, -, -⟩
  have h₂ : base.Held w₂ := h₁.of_eq hsame.bindings hsame.states
  have h₃ : base.Held (w₂.setState base.target (some (switch.state upstream .active))) :=
    held_writeState (remembered_state htarget hdesired) h₂.bindings
  refine safe_perform.mpr ⟨.inr h₂, fun _ w₃ h => ?_, fun e w₃ h => ?_⟩
  · rw [replaced_ok h]
    exact h₃
  · rcases replaced_error h with rfl | rfl
    · exact h₂
    · exact h₃

lemma safe_restorePort {switch : Switch} (htarget : switch.target = base.target)
    (hw : base.Held w) :
    Safe base.knownRules (fun w' _ => SameTruth w w') (fun w' _ => SameTruth w w') w
      (restorePort switch) := by
  unfold restorePort
  rw [htarget]
  refine Safe.bind ((safe_parseApacheRoute (.inr hw)).mono (fun _ _ h => h) ?_) ?_
  · rintro w₁ e rfl
    exact .refl w₁
  · rintro w₁ route ⟨rfl, -⟩
    by_cases hport : route.gatewayPort ≠ switch.route.gatewayPort
    · rw [if_pos hport]
      exact (safe_setApacheProxyPort hw).mono (fun _ _ h => h.1) fun _ _ h => h
    · rw [if_neg hport]
      exact .refl w₁

/-- An abort leaves the baseline, or the state. -/
lemma safe_abortSwitch {switch : Switch} (htarget : switch.target = base.target)
    (hroute : switch.route.gatewayPort = base.binding.gatewayPort) (hw : base.Held w) :
    Safe base.knownRules (fun w' _ => base.Known w') (fun w' _ => base.Known w') w
      (abortSwitch switch base.bindings) := by
  unfold abortSwitch
  refine safe_run_bind (.inr hw) (fun _ w₁ h => ?_) fun e w₁ h => .inr (hw.written h (.inl rfl))
  have h₁ : base.Held w₁ := hw.written h (.inl rfl)
  have hbindings₁ : w₁.bindings = base.bindings := by rw [(writeBindings_ok h).2]; rfl
  refine Safe.bind ((safe_restorePort htarget h₁).mono (fun _ _ h => h) fun _ _ h => h.held h₁)
    fun w₂ _ hsame => ?_
  have h₂ : base.Held w₂ := h₁.of_eq hsame.bindings hsame.states
  rw [htarget]
  refine Safe.bind ((safe_loadTarget (.inr h₂)).mono (fun _ _ h => h) ?_) ?_
  · rintro w₃ e rfl
    exact .inr h₂
  rintro w₃ restored ⟨rfl, -, -⟩
  refine Safe.bind ((safe_parseApacheRoute (.inr h₂)).mono (fun _ _ h => h) ?_) ?_
  · rintro w₄ e rfl
    exact .inr h₂
  rintro w₄ route ⟨rfl, site, hsite, hparse⟩
  by_cases hmismatch : restored ≠ switch.desired ∨ route.gatewayPort ≠ switch.route.gatewayPort
  · rw [if_pos hmismatch]
    exact .inr h₂
  · rw [if_neg hmismatch]
    have hport : route.gatewayPort = switch.route.gatewayPort :=
      not_not.mp fun hne => hmismatch (.inr hne)
    refine safe_perform.mpr ⟨.inr h₂, fun _ w₅ h => ?_, fun e w₅ h => ?_⟩
    · rw [unlinkState_ok h]
      exact .inl ⟨World.states_setState_self, hsame.bindings.trans hbindings₁,
        site, route, hsite, hparse, hport.trans hroute⟩
    · rw [unlinkState_error h]
      exact .inr h₂

lemma safe_applyUpstream {switch : Switch} {container : String}
    (htarget : switch.target = base.target) (hdesired : switch.desired = base.binding)
    (hroute : switch.route.gatewayPort = base.binding.gatewayPort) (hw : base.Restored w) :
    Safe base.knownRules (fun w' _ => base.Held w') (fun w' _ => base.Known w') w
      (applyUpstream switch none container) := by
  unfold applyUpstream
  refine safe_run_bind (.inl hw) (fun owner w₁ h => ?_) fun e w₁ h => ?_
  swap
  · rw [show w₁ = w from h]
    exact .inl hw
  rw [show w₁ = w from h]
  split_ifs
  · exact .inl hw
  have hinspect : Safe base.knownRules (fun w' _ => w' = w) (fun w' _ => w' = w) w
      (inspectUpstream owner container) := by
    unfold inspectUpstream
    split_ifs
    · exact rfl
    · refine safe_run_bind (.inl hw) (fun found w₂ h => ?_) fun e w₂ h => h
      rw [show w₂ = w from h]
      exact safe_run_bind (.inl hw) (fun _ w₃ h => h) fun e w₃ h => h
  refine Safe.bind (hinspect.mono (fun _ _ h => h) ?_) ?_
  · rintro w₂ e rfl
    exact .inl hw
  rintro w₂ upstream rfl
  have h₃ : base.Held (w₂.setState base.target (some (switch.state upstream .prepared))) :=
    held_writeState (remembered_state htarget hdesired) (.inl hw.bindings)
  rw [htarget]
  refine safe_run_bind (.inl hw) (fun _ w₃ h => ?_) fun e w₃ h => ?_
  swap
  · rcases replaced_error h with rfl | rfl
    · exact .inl hw
    · exact .inr h₃
  rw [replaced_ok h]
  refine safe_run_bind (.inr h₃) (fun bindings w₄ h => ?_) fun e w₄ h => ?_
  swap
  · rw [h.1]
    exact .inr h₃
  obtain ⟨rfl, rfl, -⟩ := loadBindings_ok h
  rw [World.bindings_setState, hw.bindings]
  refine safe_tryCatch.mpr ((safe_applySwitch htarget hdesired h₃).mono (fun _ _ h => h) ?_)
  intro w₅ applyExc h₅
  refine safe_bind.mpr (safe_tryCatch.mpr ?_)
  exact (safe_abortSwitch htarget hroute h₅).mono (fun _ _ h => h) fun _ _ h => h

/-! ## The rollback -/

/-- What a command has found before it acts. -/
structure Looked (base : Baseline) (w : World) (switch : Switch) : Prop where
  target : switch.target = base.target
  loadable : Loadable w.bindings
  get : getRuntimeBinding base.target w.bindings = .ok switch.desired
  route : ∃ site, w.sites base.account = some site ∧ parseSite site = .ok switch.route

/-- A route that is read is one to its port. -/
lemma Looked.routes {switch : Switch} (h : base.Looked w switch) :
    base.Routes w switch.route.gatewayPort :=
  let ⟨site, hsite, hroute⟩ := h.route
  ⟨site, switch.route, hsite, hroute, rfl⟩

/-- A site is read as one route. -/
lemma Routes.unique {port port' : Nat} (h : base.Routes w port) (h' : base.Routes w port') :
    port = port' := by
  obtain ⟨site, route, hsite, hroute, rfl⟩ := h
  obtain ⟨site', route', hsite', hroute', rfl⟩ := h'
  rw [hsite] at hsite'
  cases hsite'
  rw [hroute] at hroute'
  cases hroute'
  rfl

lemma safe_restoreOrWriteBack {switch : Switch} (htarget : switch.target = base.target)
    (hw : base.Held w) :
    Safe base.knownRules
      (fun w' _ => SameTruth w w' ∧ 1024 ≤ base.binding.gatewayPort ∧
        ((∃ old, base.Routes w old) → base.Routes w' base.binding.gatewayPort))
      (fun w' _ => base.Held w') w
      (restoreOrWriteBack switch base.binding (base.switched upstream)) := by
  unfold restoreOrWriteBack
  rw [htarget]
  refine safe_tryCatch.mpr ((safe_setApacheProxyPort hw).mono (fun _ _ h => h) ?_)
  intro w₁ e h₁
  have hheld : base.Held w₁ := hw.of_eq h₁.bindings h₁.states
  have hswitched : base.switched upstream = base.bindings ∨
      ∃ u, base.switched upstream = base.switched u := .inr ⟨upstream, rfl⟩
  exact safe_run_bind (.inr hheld) (fun _ w₂ h => hheld.written h hswitched)
    fun e w₂ h => hheld.written h hswitched

lemma safe_rollbackUpstream {switch : Switch} (hw : base.Known w) (hlooked : base.Looked w switch) :
    Safe base.knownRules
      (fun w' _ => base.Restored w' ∧ base.Undoable w ∧ 1024 ≤ base.binding.gatewayPort)
      (fun w' _ => base.Known w') w (rollbackUpstream switch (w.states base.target)) := by
  unfold rollbackUpstream
  cases hstate : w.states base.target with
  | none => exact hw
  | some state =>
      by_cases hguard : state.status ≠ .active ∨
          switch.desired.upstreamKind ≠ .developerRootless
      · dsimp only
        rw [if_pos hguard]
        exact hw
      dsimp only
      rw [if_neg hguard]
      rcases hw with hw | hw
      · rw [hw.state] at hstate
        cases hstate
      obtain ⟨state', hstate', hremembered⟩ := hw.state
      rw [hstate] at hstate'
      cases hstate'
      -- the binding of the target is a switched one
      obtain ⟨upstream, hbindings, hdesired⟩ : ∃ upstream, w.bindings = base.switched upstream ∧
          switch.desired = base.replacement upstream := by
        refine (Known.desired (.inr hw) hlooked.get).resolve_left ?_
        rintro ⟨-, hdesired⟩
        refine hguard (.inr ?_)
        rw [hdesired, base.managed]
        decide
      have hundoable : base.Undoable w := {
        state := ⟨state, hstate, not_not.mp fun hne => hguard (.inl hne)⟩
        bindings := by rw [hbindings]; exact switched_ne
        loadable := hlooked.loadable
        routes := ⟨_, hlooked.routes⟩ }
      refine safe_run_bind (.inr hw) (fun bindings w₁ h => ?_) fun e w₁ h => ?_
      swap
      · rw [h.1]
        exact .inr hw
      obtain ⟨rfl, rfl, -⟩ := loadBindings_ok h
      refine safe_bind.mpr (safe_ofExcept.mpr ⟨fun rows hrows => ?_, fun e _ => .inr hw⟩)
      have hold : rows = base.bindings := by
        rw [(replaceRuntimeBinding_ok hrows).1, hremembered.rollbackBinding, hbindings, hdesired]
        exact replaceRows_switched
      refine safe_run_bind (.inr hw) (fun _ w₂ h => ?_) fun e w₂ h =>
        .inr (hw.written h (.inl hold))
      have h₂ : base.Held w₂ := hw.written h (.inl hold)
      have hw₂ := (writeBindings_ok h).2
      rw [hremembered.rollbackBinding, hbindings]
      refine Safe.bind ((safe_restoreOrWriteBack hlooked.target h₂).mono (fun _ _ h => h)
        fun _ _ h => .inr h) ?_
      rintro w₃ _ ⟨hsame, hport, hroutes⟩
      have h₃ : base.Held w₃ := h₂.of_eq hsame.bindings hsame.states
      have hroutes₂ : ∃ old, base.Routes w₂ old := by
        rw [hw₂]
        exact ⟨_, hlooked.routes⟩
      rw [hlooked.target]
      refine safe_perform.mpr ⟨.inr h₃, fun _ w₄ h => ?_, fun e w₄ h => ?_⟩
      · rw [unlinkState_ok h]
        refine ⟨⟨World.states_setState_self, ?_, hroutes hroutes₂⟩, hundoable, hport⟩
        rw [World.bindings_setState, hsame.bindings, hw₂]
        exact hold
      · rw [unlinkState_error h]
        exact .inr h₃

/-! ## The commands -/

/-- An intent is removed if the baseline is there. -/
lemma safe_clearPrepared {switch : Switch} (hw : base.Known w) (hlooked : base.Looked w switch) :
    Safe base.knownRules
      (fun w' state => base.Known w' ∧ (state = none → base.Restored w' ∧
        switch.desired = base.binding ∧ switch.route.gatewayPort = base.binding.gatewayPort ∧
        (w.states base.target = none ∨ base.Clearable w)))
      (fun w' _ => base.Known w') w (clearPrepared switch (w.states base.target)) := by
  unfold clearPrepared
  cases hstate : w.states base.target with
  | none =>
      refine ⟨hw, fun _ => ?_⟩
      have hrestored : base.Restored w := by
        refine hw.resolve_right fun h => ?_
        obtain ⟨state, hsome, -⟩ := h.state
        rw [hstate] at hsome
        cases hsome
      have hget := hlooked.get
      rw [hrestored.bindings, target, base.get] at hget
      exact ⟨hrestored, (Except.ok.inj hget).symm,
        Routes.unique hlooked.routes hrestored.routes, .inl rfl⟩
  | some state =>
      dsimp only
      by_cases hstatus : state.status ≠ .prepared
      · rw [if_pos hstatus]
        exact ⟨hw, nofun⟩
      rw [if_neg hstatus]
      by_cases hmismatch : state.target ≠ switch.target ∨
          state.instanceId ≠ switch.desired.instanceId ∨ state.rollbackBinding ≠ switch.desired ∨
          switch.desired.upstreamKind ≠ .managedRootful ∨
          switch.route.gatewayPort ≠ switch.desired.gatewayPort
      · rw [if_pos hmismatch]
        exact hw
      rw [if_neg hmismatch]
      simp only [not_or, not_not] at hmismatch
      obtain ⟨-, -, -, hmanaged, hport⟩ := hmismatch
      obtain ⟨hbindings, hdesired⟩ :
          w.bindings = base.bindings ∧ switch.desired = base.binding := by
        refine (hw.desired hlooked.get).resolve_right ?_
        rintro ⟨upstream, -, hdesired⟩
        rw [hdesired] at hmanaged
        cases hmanaged
      have hroutes := hlooked.routes
      rw [hport, hdesired] at hroutes
      rw [hlooked.target]
      refine safe_run_bind hw (fun _ w₁ h => ?_) fun e w₁ h => ?_
      swap
      · rw [unlinkState_error h]
        exact hw
      rw [unlinkState_ok h]
      have hrestored : base.Restored (w.setState base.target none) :=
        ⟨World.states_setState_self, hbindings, hroutes⟩
      refine ⟨.inl hrestored, fun _ => ⟨hrestored, hdesired, ?_, .inr ⟨?_, hbindings, hroutes⟩⟩⟩
      · rw [hport, hdesired]
      · exact ⟨state, hstate, not_not.mp hstatus⟩

/-- What an action knows when it starts. -/
lemma safe_devUpstream {action : Action} {Q : World → Unit → Prop} (hw : base.Known w)
    (haction : ∀ switch, base.Looked w switch → Safe base.knownRules Q (fun w' _ => base.Known w') w
      (match action with
        | .apply container => do
            let state ← clearPrepared switch (w.states base.target)
            if !(← Op.isRoot.run) then throw .notRoot
            else applyUpstream switch state container
        | .rollback => do
            if !(← Op.isRoot.run) then throw .notRoot
            else rollbackUpstream switch (w.states base.target))) :
    Safe base.knownRules Q (fun w' _ => base.Known w') w (devUpstream base.target action) := by
  unfold devUpstream
  refine Safe.bind ((safe_loadTarget hw).mono (fun _ _ h => h) ?_) ?_
  · rintro w₁ e rfl
    exact hw
  rintro w₁ desired ⟨rfl, hloadable, hget⟩
  have haccount : desired.linuxAccount = base.target := by
    rcases hw.desired hget with ⟨-, rfl⟩ | ⟨upstream, -, rfl⟩
    · rfl
    · rfl
  rw [haccount]
  refine Safe.bind ((safe_parseApacheRoute hw).mono (fun _ _ h => h) ?_) ?_
  · rintro w₂ e rfl
    exact hw
  rintro w₂ route ⟨rfl, hroute⟩
  refine safe_run_bind hw (fun found w₃ h => ?_) fun e w₃ h => ?_
  swap
  · rw [h.1]
    exact hw
  obtain ⟨rfl, rfl⟩ := readState_ok h
  exact haction ⟨base.target, desired, route⟩ ⟨rfl, hloadable, hget, hroute⟩

/-- What a command that returns 0 has found and leaves. -/
def Done (base : Baseline) (w : World) : Action → World → Prop
  | .apply _, w' => base.Held w' ∧ (w.states base.target = none ∨ base.Clearable w)
  | .rollback, w' => base.Restored w' ∧ base.Undoable w ∧ 1024 ≤ base.binding.gatewayPort

lemma safe_cmdDevUpstream (hw : base.Known w) (action : Action) :
    Safe base.knownRules (fun w' code => base.Known w' ∧ (code = 0 → base.Done w action w'))
      (fun w' _ => base.Known w') w (cmdDevUpstream base.target action) := by
  have hdone : Safe base.knownRules (fun w' _ => base.Done w action w') (fun w' _ => base.Known w')
      w (devUpstream base.target action) := by
    refine safe_devUpstream hw fun switch hlooked => ?_
    cases action with
    | apply container =>
        refine Safe.bind ((safe_clearPrepared hw hlooked).mono (fun _ _ h => h) fun _ _ h => h) ?_
        rintro w₁ state ⟨h₁, hnone⟩
        refine safe_run_bind h₁ (fun root w₂ h => ?_) fun e w₂ h => ?_
        swap
        · rw [show w₂ = w₁ from h]
          exact h₁
        rw [show w₂ = w₁ from h]
        cases root with
        | false => exact h₁
        | true =>
            cases state with
            | some state =>
                -- an apply is refused while there is a state
                refine safe_run_bind h₁ (fun owner w₃ h => ?_) fun e w₃ h => ?_
                · rw [show w₃ = w₁ from h, if_pos (.inr (.inl rfl))]
                  exact h₁
                · rw [show w₃ = w₁ from h]
                  exact h₁
            | none =>
                obtain ⟨hrestored, hdesired, hport, hfound⟩ := hnone rfl
                exact (safe_applyUpstream hlooked.target hdesired hport hrestored).mono
                  (fun _ _ h => ⟨h, hfound⟩) fun _ _ h => h
    | rollback =>
        refine safe_run_bind hw (fun root w₁ h => ?_) fun e w₁ h => ?_
        swap
        · rw [show w₁ = w from h]
          exact hw
        rw [show w₁ = w from h]
        cases root with
        | false => exact hw
        | true => exact safe_rollbackUpstream hw hlooked
  unfold cmdDevUpstream
  refine safe_bind.mpr (safe_tryCatch.mpr (safe_bind.mpr (hdone.mono ?_ ?_)))
  · intro w' _ h
    refine ⟨?_, fun _ => h⟩
    cases action with
    | apply => exact .inr h.1
    | rollback => exact .inl h.1
  · exact fun w' e h => ⟨h, nofun⟩

/-- Every state reached from the baseline is known. -/
theorem Reached.known (h : base.Reached w w') (hw : base.Restored w) : base.Known w' := by
  induction h with
  | refl => exact .inl hw
  | tail _ hstep ih =>
      obtain ⟨action, hstops⟩ := hstep
      refine hstops.of_safe (safe_mono_pre ((safe_cmdDevUpstream ih action).mono ?_ ?_) ?_)
      · exact fun _ _ h => h.1
      · exact fun _ _ h => h
      · exact fun _ _ h _ => h

/-! ## The states that stay -/

/-- A command that returns 0 does not lead out of a state that is not admitted. -/
lemma not_admitted_step (hw : base.Known w) (hstuck : ¬base.Admitted w) {action : Action}
    (h : Ends Outcome (cmdDevUpstream base.target action) w (.ok 0) w') :
    base.Known w' ∧ ¬base.Admitted w' := by
  obtain ⟨hknown, hdone⟩ := h.of_safe (safe_cmdDevUpstream hw action)
  refine ⟨hknown, ?_⟩
  cases action with
  | apply container =>
      obtain ⟨hheld, hnone | hclearable⟩ := hdone rfl
      · exact absurd (.inl hnone) hstuck
      · -- the port of the baseline is too low to be set
        rintro (hnone | ⟨hport, -⟩)
        · obtain ⟨state, hsome, -⟩ := hheld.state
          rw [hnone] at hsome
          cases hsome
        · exact hstuck (.inr ⟨hport, .inl hclearable⟩)
  | rollback =>
      obtain ⟨-, hundoable, hport⟩ := hdone rfl
      exact absurd (.inr ⟨hport, .inr hundoable⟩) hstuck

/-- From a state that is not admitted the baseline is not restored. -/
lemma not_restorable (hw : base.Known w) (hstuck : ¬base.Admitted w) : ¬base.Restorable w := by
  rintro ⟨w', hrun, hrestored⟩
  have hstays : base.Known w' ∧ ¬base.Admitted w' := by
    clear hrestored
    induction hrun with
    | refl => exact ⟨hw, hstuck⟩
    | tail _ hstep ih =>
        obtain ⟨action, h⟩ := hstep
        exact not_admitted_step ih.1 ih.2 h
  exact hstays.2 (.inl hrestored.state)

/-! ## The way back -/

/-- A host where nothing raises, and whose upstream has the port of the baseline. -/
def host (base : Baseline) : Host where
  user := "kim"
  port := base.binding.gatewayPort
  raises _ := false

/-- The upstream of such a host. -/
def ownUpstream (base : Baseline) : Upstream where
  owner := "kim"
  container := "kim-hermes-src"
  port := base.binding.gatewayPort
  revision := "revision"

lemma accepted : base.binding.accepted = true := base.loadable.1 _ mem

lemma port_le : base.binding.gatewayPort ≤ 65535 := by
  have haccepted := @accepted base
  unfold RuntimeBinding.accepted isPort at haccepted
  simp only [Bool.and_eq_true, decide_eq_true_eq] at haccepted
  exact haccepted.1.2.2

/-- With its own port for the upstream the switched bindings can be loaded. -/
lemma loadable_switched : Loadable (base.switched base.ownUpstream) := by
  have hmap : ∀ {α : Type} (f : RuntimeBinding → α),
      f (base.replacement base.ownUpstream) = f base.binding →
      (base.switched base.ownUpstream).map f = base.bindings.map f := by
    intro α f hf
    unfold switched replaceRows
    rw [List.map_map]
    refine List.map_congr_left fun row hrow => ?_
    by_cases hsame : row.instanceId = base.binding.instanceId
    · have heq : row = base.binding := List.inj_on_of_nodup_map ids_nodup hrow mem hsame
      simp [heq, hf]
    · simp [hsame]
  constructor
  · intro row hrow
    obtain ⟨old, hold, rfl⟩ := List.mem_map.mp hrow
    by_cases hsame : old.instanceId = base.binding.instanceId
    · rw [if_pos hsame]
      have haccepted := @accepted base
      unfold RuntimeBinding.accepted at haccepted ⊢
      simp only [Bool.and_eq_true] at haccepted ⊢
      obtain ⟨⟨⟨⟨⟨⟨⟨⟨-, -⟩, hid⟩, haccount⟩, hhost⟩, hfamily⟩, hclass⟩, hgateway⟩, hbridge⟩ :=
        haccepted
      have hnames : decide (("kim" = "" ∨ isLinuxAccount "kim".toList)) = true ∧
          decide (("kim-hermes-src" = "" ∨ isLinuxAccount "kim-hermes-src".toList)) = true := by
        decide
      exact ⟨⟨⟨⟨⟨⟨⟨⟨hnames, rfl⟩, hid⟩, haccount⟩, hhost⟩, hfamily⟩, hclass⟩, hgateway⟩, hbridge⟩
    · rw [if_neg hsame]
      exact base.loadable.1 old hold
  · unfold uniqueBindings
    rw [hmap _ rfl, hmap _ rfl, hmap _ rfl, hmap _ rfl, hmap _ rfl]
    exact base.loadable.2

section evaluated

variable {site : Site} {route : ApacheRoute}

lemma eval_readSite {phase : Phase} (hsite : w.sites base.account = some site) :
    eval base.host.answer (Op.readSite phase base.account).run w = (.ok site, w) := by
  rw [eval_perform]
  unfold Host.answer
  rw [if_neg (by exact Bool.false_ne_true)]
  dsimp only
  rw [hsite]

lemma eval_parseApacheRoute (hsite : w.sites base.account = some site)
    (hroute : parseSite site = .ok route) :
    eval base.host.answer (parseApacheRoute base.target) w = (.ok route, w) := by
  unfold parseApacheRoute target
  rw [base.site, eval_bind_of_ok _ (eval_ofExcept _ _ _),
    eval_bind_of_ok _ (eval_readSite hsite), hroute,
    eval_ofExcept]

lemma eval_loadBindings (hloadable : Loadable w.bindings) :
    eval base.host.answer Op.loadBindings.run w = (.ok w.bindings, w) := by
  rw [eval_perform]
  unfold Host.answer
  rw [if_neg (by exact Bool.false_ne_true)]
  dsimp only
  rw [if_pos hloadable]

lemma eval_loadTarget {desired : RuntimeBinding} (hloadable : Loadable w.bindings)
    (hget : getRuntimeBinding base.target w.bindings = .ok desired)
    (hfamily : desired.family = "hermes") (hclass : desired.runtimeClass = "dev") :
    eval base.host.answer (loadTarget base.target) w = (.ok desired, w) := by
  have hmanifest : eval base.host.answer (Op.loadManifest desired.linuxAccount).run w =
      (.ok { family := "hermes", runtimeClass := "dev", sourceMode := true }, w) := rfl
  unfold loadTarget
  rw [eval_bind_of_ok _ (eval_loadBindings hloadable), hget,
    eval_bind_of_ok _ (eval_ofExcept _ _ _), eval_bind_of_ok _ hmanifest]
  have hnamed : ¬¬"dev-".toList <+: base.target.toList := not_not.mpr base.named
  rw [if_neg (by simp only [hfamily, hclass, hnamed]; decide), eval_pure]

lemma eval_setApacheProxyPort (hsite : w.sites base.account = some site)
    (hroute : parseSite site = .ok route) (hlow : 1024 ≤ base.binding.gatewayPort) :
    ∃ w', eval base.host.answer (setApacheProxyPort base.target base.binding.gatewayPort) w =
      (.ok (), w') ∧ SameTruth w w' ∧
      (route.gatewayPort = base.binding.gatewayPort → w' = w) := by
  unfold setApacheProxyPort target
  rw [base.site, eval_bind_of_ok _ (eval_ofExcept _ _ _),
    eval_bind_of_ok _ (eval_readSite hsite),
    replaceProxyPort_eq hroute hlow port_le, eval_bind_of_ok _ (eval_ofExcept _ _ _)]
  dsimp only
  by_cases hsame : route.gatewayPort = base.binding.gatewayPort
  · rw [if_pos hsame]
    exact ⟨w, rfl, .refl w, fun _ => rfl⟩
  · rw [if_neg hsame]
    exact ⟨w.setSite base.account _, rfl, (SameTruth.refl w).setSite, fun h => absurd h hsame⟩

lemma eval_writeBindings {bindings : List RuntimeBinding} {id : String}
    (hunique : uniqueBindings bindings) :
    eval base.host.answer (Op.writeBindings bindings id).run w =
      (.ok (), w.store bindings id) := by
  rw [eval_perform]
  unfold Host.answer
  rw [if_neg (by exact Bool.false_ne_true)]
  dsimp only
  rw [if_pos hunique]

end evaluated

/-- A command whose action returns returns 0. -/
lemma ends_of_eval {action : Action}
    (h : eval base.host.answer (devUpstream base.target action) w = (.ok (), w')) :
    Ends Outcome (cmdDevUpstream base.target action) w (.ok 0) w' := by
  have hcode : eval base.host.answer (cmdDevUpstream base.target action) w = (.ok 0, w') := by
    unfold cmdDevUpstream attempt
    rw [eval_bind, eval_tryCatch, eval_bind_of_ok _ h]
    rfl
  have hrun := ends_eval base.host.answer_outcome (cmdDevUpstream base.target action) w
  rw [hcode] at hrun
  exact hrun

/-- A switch that can be undone is undone by a rollback that returns 0. -/
lemma Undoable.rollback (h : base.Undoable w) (hw : base.Known w)
    (hlow : 1024 ≤ base.binding.gatewayPort) :
    ∃ w', Ends Outcome (cmdDevUpstream base.target .rollback) w (.ok 0) w' := by
  have hheld : base.Held w := hw.resolve_left fun hrestored => h.bindings hrestored.bindings
  obtain ⟨upstream, hbindings⟩ := hheld.bindings.resolve_left h.bindings
  obtain ⟨state, hstate, hactive⟩ := h.state
  obtain ⟨state', hstate', hremembered⟩ := hheld.state
  rw [hstate] at hstate'
  cases hstate'
  obtain ⟨port, site, route, hsite, hroute, -⟩ := h.routes
  have hget : getRuntimeBinding base.target w.bindings = .ok (base.replacement upstream) := by
    rw [hbindings, get_switched]
  have hback : replaceRuntimeBinding w.bindings (base.replacement upstream).instanceId
      state.rollbackBinding = .ok base.bindings := by
    have hrows : replaceRows w.bindings (base.replacement upstream).instanceId base.binding =
        base.bindings := by
      rw [hbindings]
      exact replaceRows_switched
    rw [hremembered.rollbackBinding,
      replaceRuntimeBinding_eq (mem_of_getRuntimeBinding hget), hrows]
    rw [hrows]
    exact base.loadable.2
  have hread : eval base.host.answer (Op.readState base.target).run w = (.ok (some state), w) := by
    rw [← hstate]
    rfl
  have hroot : eval base.host.answer Op.isRoot.run w = (.ok true, w) := rfl
  obtain ⟨w₂, hport, -, -⟩ := eval_setApacheProxyPort
    (w := w.store base.bindings (base.replacement upstream).instanceId) hsite hroute hlow
  refine ⟨w₂.setState base.target none, ends_of_eval ?_⟩
  unfold devUpstream
  rw [eval_bind_of_ok _ (eval_loadTarget h.loadable hget base.family base.runtimeClass),
    show (base.replacement upstream).linuxAccount = base.target from rfl,
    eval_bind_of_ok _ (eval_parseApacheRoute hsite hroute), eval_bind_of_ok _ hread]
  dsimp only
  rw [eval_bind_of_ok _ hroot, if_neg (by decide)]
  unfold rollbackUpstream
  dsimp only
  rw [if_neg (by simp [hactive, replacement]), eval_bind_of_ok _ (eval_loadBindings h.loadable),
    hback, eval_bind_of_ok _ (eval_ofExcept _ _ _),
    eval_bind_of_ok _ (eval_writeBindings base.loadable.2)]
  have hrestore : eval base.host.answer (restoreOrWriteBack
      { target := base.target, desired := base.replacement upstream, route := route }
      state.rollbackBinding w.bindings)
      (w.store base.bindings (base.replacement upstream).instanceId) = (.ok (), w₂) := by
    unfold restoreOrWriteBack
    rw [hremembered.rollbackBinding, eval_tryCatch, hport]
  rw [eval_bind_of_ok _ hrestore]
  rfl

/-- An intent that can be cleared is cleared by an apply that returns 0, and goes on. -/
lemma Clearable.apply (h : base.Clearable w) (hlow : 1024 ≤ base.binding.gatewayPort)
    (hw : base.Known w) :
    ∃ w', Ends Outcome (cmdDevUpstream base.target (.apply "kim-hermes-src")) w (.ok 0) w' ∧
      base.Undoable w' := by
  obtain ⟨state, hstate, hprepared⟩ := h.state
  have hheld : base.Held w := hw.resolve_left fun hrestored => by
    rw [hrestored.state] at hstate
    cases hstate
  obtain ⟨state', hstate', hremembered⟩ := hheld.state
  rw [hstate] at hstate'
  cases hstate'
  obtain ⟨site, route, hsite, hroute, hgateway⟩ := h.routes
  have hloadable : Loadable w.bindings := by rw [h.bindings]; exact base.loadable
  have hget : getRuntimeBinding base.target w.bindings = .ok base.binding := by
    rw [h.bindings]
    exact base.get
  have hread : eval base.host.answer (Op.readState base.target).run w = (.ok (some state), w) := by
    rw [← hstate]
    rfl
  -- the worlds that the apply runs through
  let switch : Switch := { target := base.target, desired := base.binding, route := route }
  let w₁ := w.setState base.target none
  let w₂ := w₁.setState base.target (some (switch.state base.ownUpstream .prepared))
  let w₃ := w₂.store (base.switched base.ownUpstream) base.binding.instanceId
  let w₄ := w₃.setState base.target (some (switch.state base.ownUpstream .active))
  have hclear : eval base.host.answer (clearPrepared switch (some state)) w = (.ok none, w₁) := by
    unfold clearPrepared
    dsimp only
    rw [if_neg (not_not.mpr hprepared), if_neg]
    · rfl
    · simp [switch, hremembered.target, hremembered.instanceId, hremembered.rollbackBinding,
        base.managed, hgateway]
  have hroot : eval base.host.answer Op.isRoot.run w₁ = (.ok true, w₁) := rfl
  have huser : eval base.host.answer Op.sudoUser.run w₁ = (.ok "kim", w₁) := rfl
  have hinspect : eval base.host.answer (inspectUpstream "kim" "kim-hermes-src") w₁ =
      (.ok base.ownUpstream, w₁) := rfl
  have hintent : eval base.host.answer (Op.writeState base.target
      (switch.state base.ownUpstream .prepared)).run w₁ = (.ok (), w₂) := rfl
  have hload : eval base.host.answer Op.loadBindings.run w₂ = (.ok w.bindings, w₂) :=
    eval_loadBindings hloadable
  have hreplaced : replaceRuntimeBinding w.bindings base.binding.instanceId
      (switch.replacement base.ownUpstream) = .ok (base.switched base.ownUpstream) := by
    rw [h.bindings]
    exact replaceRuntimeBinding_eq mem loadable_switched.2
  obtain ⟨w₃', hport, -, hsame⟩ := eval_setApacheProxyPort (w := w₃) hsite hroute hlow
  have happly : eval base.host.answer (applySwitch switch base.ownUpstream w.bindings) w₂ =
      (.ok (), w₄) := by
    unfold applySwitch
    rw [hreplaced, eval_bind_of_ok _ (eval_ofExcept _ _ _),
      eval_bind_of_ok _ (eval_writeBindings loadable_switched.2)]
    rw [hsame hgateway] at hport
    exact (eval_bind_of_ok _ hport).trans rfl
  refine ⟨w₄, ends_of_eval ?_, ?_⟩
  · unfold devUpstream
    rw [eval_bind_of_ok _ (eval_loadTarget hloadable hget base.family base.runtimeClass),
      show base.binding.linuxAccount = base.target from rfl,
      eval_bind_of_ok _ (eval_parseApacheRoute hsite hroute), eval_bind_of_ok _ hread]
    dsimp only
    rw [eval_bind_of_ok _ hclear, eval_bind_of_ok _ hroot, if_neg (by decide)]
    unfold applyUpstream
    rw [eval_bind_of_ok _ huser, if_neg (by simp [base.managed]), eval_bind_of_ok _ hinspect,
      eval_bind_of_ok _ hintent, eval_bind_of_ok _ hload, eval_tryCatch, happly]
  · exact {
      state := ⟨_, World.states_setState_self, rfl⟩
      bindings := switched_ne
      loadable := loadable_switched
      routes := ⟨_, site, route, hsite, hroute, rfl⟩ }

end Baseline

lemma loadable_sampleBinding : Loadable [sampleBinding] := by decide

lemma get_sampleBinding :
    getRuntimeBinding sampleBinding.linuxAccount [sampleBinding] = .ok sampleBinding := by
  decide +kernel

lemma named_sampleBinding : "dev-".toList <+: sampleBinding.linuxAccount.toList := by decide

lemma site_sampleBinding : siteAccount sampleBinding.linuxAccount = .ok "dev-a" := by
  decide +kernel

/-- A host with one managed binding that agrees with its site. -/
def sampleBaseline : Baseline where
  bindings := [sampleBinding]
  binding := sampleBinding
  account := "dev-a"
  loadable := loadable_sampleBinding
  get := get_sampleBinding
  managed := rfl
  family := rfl
  runtimeClass := rfl
  named := named_sampleBinding
  site := site_sampleBinding

lemma sample_restored : sampleBaseline.Restored (worldOf sampleBinding) where
  state := rfl
  bindings := rfl
  routes := ⟨siteOf "old.example.com" 3000, ⟨"old.example.com", 3000, some 3000⟩, by decide,
    by decide +kernel, rfl⟩

/-- An apply that is cut off after some operations, and what is checked of the world then. -/
lemma exists_cut (n : Nat) (check : World → Bool)
    (h : (nextAfter goodHost.answer n (cmdDevUpstream "dev-a" (.apply "kim-hermes-src"))
      (worldOf sampleBinding)).any (fun cut => check cut.2) = true) :
    ∃ w, sampleBaseline.Reached (worldOf sampleBinding) w ∧ check w = true := by
  obtain ⟨⟨op, w⟩, hcut, hcheck⟩ := Option.any_eq_true _ _ |>.mp h
  have hinterrupted := interrupted_of_nextAfter goodHost.answer_outcome hcut
  exact ⟨w, .single ⟨.apply "kim-hermes-src", .inr ⟨op, trivial, hinterrupted⟩⟩, hcheck⟩

end AgentRuntimeOps.Routing
