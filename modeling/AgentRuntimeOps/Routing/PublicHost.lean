import AgentRuntimeOps.Lib.Marked
import AgentRuntimeOps.Routing.Commands

/-!
# What a change of a public host leaves

`cmd_binding_set_public_host` changes the Apache site, then the stored bindings, and compensates
when the bindings are not written.  `set_public_host_kept` says for which inputs all of its runs
keep to what is meant (`Kept`): those that it refuses (`Accepted`).  It also says which runs on an
accepted input do: those on a managed binding that agrees with its site (`Found.Agrees`), without
one of the failures of `Fails`.
-/

namespace AgentRuntimeOps.Routing

open AgentRuntimeOps.Lib Program

-- a goal about a program is not to be unfolded into the texts that it compares
attribute [local irreducible] getRuntimeBinding replaceRuntimeBinding siteAccount parseSite
  replaceServerName replaceProxyPort validatePublicHost apacheRouteChecks

/-! ## What is meant -/

/-- Only the public host of the binding has changed, and Apache routes it to the old port. -/
def OnlyHostChanged (target newHost : String) (w w' : World) : Prop :=
  ∃ binding account site site' route, getRuntimeBinding target w.bindings = .ok binding ∧
    w'.bindings =
      replaceRows w.bindings binding.instanceId { binding with publicHost := newHost } ∧
    siteAccount binding.linuxAccount = .ok account ∧ w.sites account = some site ∧
    w'.sites = Function.update w.sites account (some site') ∧ parseSite site' = .ok route ∧
    route.publicHost = newHost ∧ site.proxyPorts.head? = some route.gatewayPort ∧
    w'.states = w.states

/-- After exit code 0 only the public host has changed, after another one nothing. -/
def Kept (target host : String) (w : World) (code : Nat) (w' : World) : Prop :=
  (code = 0 → ∃ newHost, validatePublicHost host = some newHost ∧
    OnlyHostChanged target newHost w w') ∧
  (code ≠ 0 → w'.bindings = w.bindings ∧ w'.sites = w.sites)

/-- What the command has found when it starts to write. -/
structure Found (target newHost : String) (w : World) where
  binding : RuntimeBinding
  rows : List RuntimeBinding
  account : String
  site : Site
  updated : Site
  oldHost : String
  loadable : Loadable w.bindings
  get : getRuntimeBinding target w.bindings = .ok binding
  replaced : replaceRuntimeBinding w.bindings binding.instanceId (binding.withPublicHost newHost) =
    .ok rows
  named : siteAccount binding.linuxAccount = .ok account
  stored : w.sites account = some site
  renamed : replaceServerName site newHost = .ok (updated, oldHost)

/-- The command gets as far as writing. -/
def Accepted (target host : String) (w : World) : Prop :=
  ∃ newHost, validatePublicHost host = some newHost ∧ Nonempty (Found target newHost w)

/-- The binding is a managed one, its site names exactly its host and routes it to its port, and the
new host is in normal form. -/
structure Found.Agrees {target newHost : String} {w : World} (found : Found target newHost w) :
    Prop where
  managed : found.binding.upstreamKind = .managedRootful
  names : found.site.serverNames = [found.binding.publicHost]
  route : ∃ route, parseSite found.site = .ok route ∧
    apacheRouteChecks found.binding route = .ok ()
  normal : validatePublicHost newHost = some newHost

/-- The failures that are not undone: an exception while a site is written, tested, loaded or taken
back, any failure of the compensation, and a site that cannot be read in the last check. -/
def Fails (op : Op) (r : Except Raised op.Res) : Prop :=
  match op with
  | .writeBindingsText .. => ∃ e, r = .error e
  | .readSite phase _ => phase ≠ .change ∧ ∃ e, r = .error e
  | .backupSite phase _ => phase = .compensate ∧ ∃ e, r = .error e
  | .writeSite .. => ∃ e, r = .error e
  | .restoreSite .. => ∃ e, r = .error e
  | .configtest phase =>
      phase ≠ .again ∧ ((∃ e, r = .error e) ∨ phase = .compensate ∧ r ≠ .ok true)
  | .reload phase =>
      phase ≠ .again ∧ ((∃ e, r = .error e) ∨ phase = .compensate ∧ r ≠ .ok true)
  | _ => False

/-- The runs of the command, with whether one of these failures occurred. -/
abbrev hostAnswers : Program.Answers Op Op.Res Raised (World × Prop) :=
  Outcome.marked fun _ op r _ => Fails op r

/-! ## Changing a site -/

section sites

variable {w : World} {account : String} {site updated : Site}

lemma setSite_setSite_of_eq (h : w.sites account = some site) :
    (w.setSite account updated).setSite account site = w := by
  unfold World.setSite
  rw [Function.update_idem, ← h, Function.update_eq_self]

/-- Once a failure occurred nothing more is asked. -/
lemma safe_failed {α : Type} {p : Run α} {g : World × Prop} {Q : World × Prop → α → Prop}
    {E : World × Prop → Raised → Prop} (hg : g.2) :
    Safe ⟨fun _ _ => True, hostAnswers⟩ (fun g' a => g'.2 ∨ Q g' a) (fun g' e => g'.2 ∨ E g' e) g
      p :=
  (safe_marked g p).mono (fun _ _ h => .inl (h hg)) fun _ _ h => .inl (h hg)

/-- The last `configtest` and reload change nothing. -/
lemma safe_again (g : World × Prop) :
    Safe ⟨fun _ _ => True, hostAnswers⟩ (fun _ _ => False) (fun g' _ => g'.1 = g.1) g (do
      configtestAgain
      let _ ← (Op.reload .again).run
      throw .apacheRefused : Run Unit) := by
  refine ⟨trivial, ?_⟩
  rintro (e | _) g₁ ⟨h₁, -⟩
  · exact h₁
  · refine ⟨trivial, ?_⟩
    rintro (e | _) g₂ ⟨h₂, -⟩
    · exact Eq.trans h₂ h₁
    · exact Eq.trans h₂ h₁

/-- An installed site is there; one that is not installed is taken back, unless something failed. -/
lemma safe_installSite {phase : Phase} (hphase : phase = .change ∨ phase = .compensate)
    {g : World × Prop} (hsite : g.1.sites account = some site) :
    Safe ⟨fun _ _ => True, hostAnswers⟩
      (fun g' _ => g'.2 ∨ g'.1 = g.1.setSite account updated)
      (fun g' _ => g'.2 ∨ phase = .change ∧ g'.1 = g.1) g
      (installSite phase account site updated configtestAgain) := by
  have hagain : phase ≠ .again := by rcases hphase with rfl | rfl <;> exact nofun
  refine ⟨trivial, ?_⟩
  rintro (e | _) g₁ ⟨hworld, hmark⟩
  · have hworld : g₁.1 = g.1 := hworld
    rcases hphase with rfl | rfl
    · exact .inr ⟨rfl, hworld⟩
    · exact .inl (hmark.mpr (.inr ⟨rfl, e, rfl⟩))
  have hworld : g₁.1 = g.1 := hworld
  refine ⟨trivial, ?_⟩
  rintro (e | _) g₂ ⟨hwrite, hmark⟩
  · exact .inl (hmark.mpr (.inr ⟨e, rfl⟩))
  have hwritten : g₂.1 = g.1.setSite account updated := by
    rcases hwrite with ⟨-, h⟩ | ⟨⟨e, h⟩, -⟩
    · rw [h, hworld]
    · cases h
  -- a refused site is taken back before the command raises
  have hback : ∀ (g₃ : World × Prop) (rest : Run Unit), g₃.1 = g₂.1 → phase = .change →
      (∀ g₄ : World × Prop, g₄.1 = g.1 → Safe ⟨fun _ _ => True, hostAnswers⟩
        (fun g' _ => g'.2 ∨ g'.1 = g.1.setSite account updated)
        (fun g' _ => g'.2 ∨ phase = .change ∧ g'.1 = g.1) g₄ rest) →
      Safe ⟨fun _ _ => True, hostAnswers⟩
        (fun g' _ => g'.2 ∨ g'.1 = g.1.setSite account updated)
        (fun g' _ => g'.2 ∨ phase = .change ∧ g'.1 = g.1) g₃
        (do (Op.restoreSite phase account site).run; rest) := by
    intro g₃ rest h₃ hchange hrest
    refine ⟨trivial, ?_⟩
    rintro (e | _) g₄ ⟨hrestore, hmark⟩
    · exact .inl (hmark.mpr (.inr ⟨e, rfl⟩))
    · refine hrest g₄ ?_
      rcases hrestore with ⟨-, h⟩ | ⟨⟨e, h⟩, -⟩
      · rw [h, h₃, hwritten, setSite_setSite_of_eq hsite]
      · cases h
  refine ⟨trivial, ?_⟩
  rintro (e | tested) g₃ ⟨hworld₃, hmark₃⟩
  · exact .inl (hmark₃.mpr (.inr ⟨hagain, .inl ⟨e, rfl⟩⟩))
  have hworld₃ : g₃.1 = g₂.1 := hworld₃
  cases tested with
  | false =>
      rcases hphase with rfl | rfl
      · exact hback g₃ _ hworld₃ rfl fun g₄ h₄ => .inr ⟨rfl, h₄⟩
      · exact safe_failed (hmark₃.mpr (.inr ⟨hagain, .inr ⟨rfl, nofun⟩⟩))
  | true =>
      refine ⟨trivial, ?_⟩
      rintro (e | reloaded) g₄ ⟨hworld₄, hmark₄⟩
      · exact .inl (hmark₄.mpr (.inr ⟨hagain, .inl ⟨e, rfl⟩⟩))
      have hkept : g₄.1 = g₂.1 := Eq.trans (show g₄.1 = g₃.1 from hworld₄) hworld₃
      cases reloaded with
      | true => exact .inr (hkept.trans hwritten)
      | false =>
          rcases hphase with rfl | rfl
          · refine hback g₄ _ hkept rfl fun g₅ h₅ => ?_
            refine (safe_again g₅).mono (fun _ _ h => h.elim) fun g₆ _ h₆ => ?_
            exact .inr ⟨rfl, Eq.trans h₆ h₅⟩
          · exact safe_failed (hmark₄.mpr (.inr ⟨hagain, .inr ⟨rfl, nofun⟩⟩))

end sites

/-! ## The call of `set_apache_host` -/

section setApacheHost

variable {w : World}

/-- The site of an account can be given a name. -/
def Renamable (w : World) (linuxAccount host : String) : Prop :=
  ∃ account site updated oldHost, siteAccount linuxAccount = .ok account ∧
    w.sites account = some site ∧ replaceServerName site host = .ok (updated, oldHost)

/-- The site of an account has the name. -/
def Renamed (linuxAccount host : String) (w w' : World) : Prop :=
  ∃ account site updated oldHost, siteAccount linuxAccount = .ok account ∧
    w.sites account = some site ∧ replaceServerName site host = .ok (updated, oldHost) ∧
    (some oldHost = validatePublicHost host ∧ w' = w ∨
      some oldHost ≠ validatePublicHost host ∧ w' = w.setSite account updated)

lemma safe_setApacheHost {phase : Phase} (hphase : phase = .change ∨ phase = .compensate)
    (linuxAccount host : String) (g : World × Prop) :
    Safe ⟨fun _ _ => True, hostAnswers⟩
      (fun g' _ => Renamable g.1 linuxAccount host ∧ (g'.2 ∨ Renamed linuxAccount host g.1 g'.1))
      (fun g' _ => (phase = .change → Renamable g.1 linuxAccount host) ∧ g'.2 ∨
        g'.1 = g.1 ∧ (phase = .change ∨ ¬Renamable g.1 linuxAccount host)) g
      (setApacheHost phase linuxAccount host) := by
  unfold setApacheHost
  refine safe_bind.mpr (safe_ofExcept.mpr ⟨fun account haccount => ?_, fun e he => ?_⟩)
  swap
  · refine .inr ⟨rfl, .inr ?_⟩
    rintro ⟨account, -, -, -, haccount, -⟩
    rw [haccount] at he
    cases he
  refine safe_bind.mpr (safe_perform.mpr ⟨trivial, ?_, ?_⟩)
  swap
  · intro e g₁ hread
    rcases hphase with rfl | rfl
    · exact .inr ⟨hread.1.1, .inl rfl⟩
    · exact .inl ⟨nofun, hread.2.mpr (.inr ⟨nofun, e, rfl⟩)⟩
  intro site g₁ hread
  obtain ⟨hworld, hsite⟩ := readSite_ok hread.1
  refine safe_bind.mpr (safe_ofExcept.mpr ⟨fun renamed hrenamed => ?_, fun e he => ?_⟩)
  swap
  · refine .inr ⟨hworld, .inr ?_⟩
    rintro ⟨account', site', updated, oldHost, haccount', hsite', hrenamed⟩
    rw [haccount] at haccount'
    cases haccount'
    rw [hsite] at hsite'
    cases hsite'
    rw [hrenamed] at he
    cases he
  obtain ⟨updated, oldHost⟩ := renamed
  have hrenamable : Renamable g.1 linuxAccount host :=
    ⟨account, site, updated, oldHost, haccount, hsite, hrenamed⟩
  dsimp only
  by_cases hsame : some oldHost = validatePublicHost host
  · rw [if_pos hsame]
    exact ⟨hrenamable, .inr
      ⟨account, site, updated, oldHost, haccount, hsite, hrenamed, .inl ⟨hsame, hworld⟩⟩⟩
  · rw [if_neg hsame]
    have hsite₁ : g₁.1.sites account = some site := by rw [hworld, hsite]
    refine (safe_installSite hphase hsite₁).mono ?_ ?_
    · rintro g' _ (h | h)
      · exact ⟨hrenamable, .inl h⟩
      · rw [hworld] at h
        exact ⟨hrenamable, .inr
          ⟨account, site, updated, oldHost, haccount, hsite, hrenamed, .inr ⟨hsame, h⟩⟩⟩
    · rintro g' _ (h | ⟨hchange, h⟩)
      · exact .inl ⟨fun _ => hrenamable, h⟩
      · exact .inr ⟨h.trans hworld, .inl hchange⟩

/-- A change of a site leaves the bindings and the states. -/
lemma Renamed.others {linuxAccount host : String} {w' : World}
    (h : Renamed linuxAccount host w w') : w'.bindings = w.bindings ∧ w'.states = w.states := by
  obtain ⟨_, _, _, _, -, -, -, ⟨-, rfl⟩ | ⟨-, rfl⟩⟩ := h
  · exact ⟨rfl, rfl⟩
  · exact ⟨rfl, rfl⟩

end setApacheHost

/-! ## The command -/

section command

variable {target newHost : String} {w : World}

namespace Found

/-- A command finds one thing. -/
instance : Subsingleton (Found target newHost w) := by
  refine ⟨fun found found' => ?_⟩
  obtain ⟨binding, rows, account, site, updated, oldHost, -, hget, hrows, haccount, hsite,
    hrenamed⟩ := found
  obtain ⟨binding', rows', account', site', updated', oldHost', -, hget', hrows', haccount', hsite',
    hrenamed'⟩ := found'
  cases Except.ok.inj (hget.symm.trans hget')
  cases Except.ok.inj (hrows.symm.trans hrows')
  cases Except.ok.inj (haccount.symm.trans haccount')
  cases Option.some.inj (hsite.symm.trans hsite')
  cases Except.ok.inj (hrenamed.symm.trans hrenamed')
  rfl

variable (found : Found target newHost w)

/-- What `set_apache_host` leaves is what was found. -/
lemma renamed_iff {w' : World} : Renamed found.binding.linuxAccount newHost w w' ↔
    some found.oldHost = validatePublicHost newHost ∧ w' = w ∨
      some found.oldHost ≠ validatePublicHost newHost ∧
        w' = w.setSite found.account found.updated := by
  constructor
  · rintro ⟨account, site, updated, oldHost, haccount, hsite, hrenamed, h⟩
    rw [found.named] at haccount
    cases haccount
    rw [found.stored] at hsite
    cases hsite
    rw [found.renamed] at hrenamed
    cases hrenamed
    exact h
  · exact fun h => ⟨_, _, _, _, found.named, found.stored, found.renamed, h⟩

variable {found}

/-- The host of a site that agrees is that of the binding. -/
lemma Agrees.oldHost (h : found.Agrees) : found.oldHost = found.binding.publicHost ∧
    validatePublicHost found.binding.publicHost = some found.binding.publicHost := by
  obtain ⟨route, hroute, hchecks⟩ := h.route
  obtain ⟨name, ports, hnames, -, hname, -⟩ := parseSite_ok hroute
  obtain ⟨hhost, -⟩ := apacheRouteChecks_ok.mp hchecks
  obtain ⟨-, name', -, hnames', hname', -⟩ := replaceServerName_ok found.renamed
  rw [h.names] at hnames hnames'
  cases hnames
  cases hnames'
  have heq : found.oldHost = route.publicHost := Option.some.inj (hname'.symm.trans hname)
  exact ⟨heq.trans hhost, by rw [hname, hhost]⟩

lemma Agrees.updated (h : found.Agrees) :
    found.updated = found.site.map (SiteLine.withName newHost) := by
  obtain ⟨host, -, hhost, -, -, hupdated⟩ := replaceServerName_ok found.renamed
  rw [h.normal] at hhost
  cases hhost
  exact hupdated

/-- The compensation puts the name of a site that agrees back. -/
lemma Agrees.compensated (h : found.Agrees) {w₁ w₂ : World}
    (h₁ : Renamed found.binding.linuxAccount newHost w w₁) :
    Renamable w₁ found.binding.linuxAccount found.binding.publicHost ∧
      (Renamed found.binding.linuxAccount found.binding.publicHost w₁ w₂ →
        w₂.sites = w.sites) := by
  obtain ⟨hold, hnormal⟩ := h.oldHost
  have hrenamable : ∀ w site updated oldHost, w.sites found.account = some site →
      replaceServerName site found.binding.publicHost = .ok (updated, oldHost) →
      ∀ w', Renamed found.binding.linuxAccount found.binding.publicHost w w' →
        some oldHost = some found.binding.publicHost ∧ w' = w ∨
          some oldHost ≠ some found.binding.publicHost ∧
            w' = w.setSite found.account updated := by
    rintro w site updated oldHost hsite hrenamed w' ⟨_, _, _, _, haccount, hsite', hrenamed', h'⟩
    rw [found.named] at haccount
    cases haccount
    rw [hsite] at hsite'
    cases hsite'
    rw [hrenamed] at hrenamed'
    cases hrenamed'
    rwa [hnormal] at h'
  rcases found.renamed_iff.mp h₁ with ⟨-, rfl⟩ | ⟨hne, rfl⟩
  · -- the site has the new name already, which is the old one
    have hback := replaceServerName_eq hnormal h.names hnormal
    refine ⟨⟨_, _, _, _, found.named, found.stored, hback⟩, fun h₂ => ?_⟩
    rcases hrenamable _ _ _ _ found.stored hback _ h₂ with ⟨-, rfl⟩ | ⟨hne, -⟩
    · rfl
    · exact absurd rfl hne
  · have hnames : Site.serverNames found.updated = [newHost] := by
      rw [h.updated, serverNames_map_withName, h.names]
      rfl
    have hback := replaceServerName_eq hnormal hnames h.normal
    refine ⟨⟨_, _, _, _, found.named, World.sites_setSite_self, hback⟩, fun h₂ => ?_⟩
    rcases hrenamable _ _ _ _ World.sites_setSite_self hback _ h₂ with ⟨heq, -⟩ | ⟨-, rfl⟩
    · rw [hold, h.normal, ← heq] at hne
      exact absurd rfl hne
    · rw [h.updated, withName_withName_of_serverNames h.names, setSite_setSite_of_eq found.stored]

/-- What a change leaves that goes well. -/
structure Changed (found : Found target newHost w) (w' : World) : Prop where
  bindings : w'.bindings = found.rows
  sites : ∃ w₁, Renamed found.binding.linuxAccount newHost w w₁ ∧ w'.sites = w₁.sites
  states : w'.states = w.states

/-- A site that agreed passes the last checks. -/
lemma Agrees.passes (h : found.Agrees) {w' : World} (hchanged : found.Changed w') {site' : Site}
    (hsite' : w'.sites found.account = some site') :
    ∃ route, parseSite site' = .ok route ∧
      apacheRouteChecks (found.binding.withPublicHost newHost) route = .ok () := by
  obtain ⟨route, hroute, hchecks⟩ := h.route
  obtain ⟨name, ports, hnames, hports, hname, hsame, hsockets, hsocket⟩ := parseSite_ok hroute
  obtain ⟨hhost, hport, hsocketPort⟩ := apacheRouteChecks_ok.mp hchecks
  obtain ⟨hold, -⟩ := h.oldHost
  obtain ⟨w₁, hrenamed, hsites⟩ := hchanged.sites
  rw [hsites] at hsite'
  have hchecked : ∀ route' : ApacheRoute, route'.publicHost = newHost →
      route'.gatewayPort = route.gatewayPort → route'.websocketPort = route.websocketPort →
      apacheRouteChecks (found.binding.withPublicHost newHost) route' = .ok () := by
    intro route' hhost' hport' hsocket'
    refine apacheRouteChecks_ok.mpr ⟨hhost', hport'.trans hport, fun port hmem => ?_⟩
    rw [hsocket'] at hmem
    exact hsocketPort port hmem
  rcases found.renamed_iff.mp hrenamed with ⟨heq, rfl⟩ | ⟨-, rfl⟩
  · rw [found.stored] at hsite'
    cases hsite'
    refine ⟨route, hroute, hchecked route ?_ rfl rfl⟩
    rw [h.normal, hold] at heq
    rw [hhost]
    exact Option.some.inj heq
  · rw [World.sites_setSite_self] at hsite'
    cases hsite'
    have hnames' : Site.serverNames found.updated = [newHost] := by
      rw [h.updated, serverNames_map_withName, h.names]
      rfl
    have hports' : Site.proxyPorts found.updated = route.gatewayPort :: ports := by
      rw [h.updated, proxyPorts_map_withName, hports]
    have hsockets' : Site.webSocketPorts found.updated = found.site.webSocketPorts := by
      rw [h.updated, webSocketPorts_map_withName]
    refine ⟨_, parseSite_eq hnames' hports' h.normal ⟨hsame, by rw [hsockets']; exact hsockets⟩,
      hchecked _ rfl rfl ?_⟩
    rw [hsocket, ← hsockets']

variable (found)

lemma safe_writeOrCompensate {g : World × Prop}
    (hg : Renamed found.binding.linuxAccount newHost w g.1) :
    Safe ⟨fun _ _ => True, hostAnswers⟩
      (fun g' _ => g'.2 ∨ found.Changed g'.1)
      (fun g' _ => g'.2 ∨ ¬found.Agrees ∨ g'.1.bindings = w.bindings ∧ g'.1.sites = w.sites) g
      (writeOrCompensate w.bindings found.rows found.binding) := by
  obtain ⟨hbindings, hstates⟩ := hg.others
  refine safe_tryCatch.mpr (safe_perform.mpr ⟨trivial, ?_, ?_⟩)
  · intro _ g₁ hwrite
    obtain ⟨-, h⟩ := writeBindings_ok hwrite.1
    refine .inr ⟨by rw [h]; rfl, ⟨g.1, hg, by rw [h]; rfl⟩, ?_⟩
    rw [h]
    exact hstates
  · intro e g₁ hwrite
    have hsites₁ : g₁.1.sites = g.1.sites := by
      rcases writeBindings_error hwrite.1 with h | ⟨-, h⟩
      · rw [h]
      · rw [h]
        rfl
    refine safe_bind.mpr (safe_perform.mpr ⟨trivial, ?_, ?_⟩)
    swap
    · exact fun e' g₂ htext => .inl (htext.2.mpr (.inr ⟨e', rfl⟩))
    intro _ g₂ htext
    have hworld₂ := writeBindingsText_ok htext.1
    -- the site is the one that `set_apache_host` left
    have hsites₂ : g₂.1.sites = g.1.sites := by
      rw [hworld₂]
      exact hsites₁
    have hbindings₂ : g₂.1.bindings = w.bindings := by
      rw [hworld₂]
      rfl
    by_cases hagrees : found.Agrees
    swap
    · refine safe_bind.mpr ((safe_setApacheHost (.inr rfl) _ _ g₂).mono ?_ ?_)
      · exact fun g₃ _ _ => .inr (.inl hagrees)
      · exact fun g₃ _ _ => .inr (.inl hagrees)
    have hcompensated := fun w₂ => @Found.Agrees.compensated _ _ _ _ hagrees _ w₂ hg
    have hsame : ∀ w₃, Renamed found.binding.linuxAccount found.binding.publicHost g₂.1 w₃ →
        w₃.bindings = w.bindings ∧ w₃.sites = w.sites := by
      intro w₃ h₃
      refine ⟨h₃.others.1.trans hbindings₂, ?_⟩
      obtain ⟨account, site, updated, oldHost, haccount, hsite, hrenamed, hchange⟩ := h₃
      rw [hsites₂] at hsite
      rcases hchange with ⟨heq, rfl⟩ | ⟨hne, rfl⟩
      · rw [hsites₂]
        exact (hcompensated g.1).2
          ⟨account, site, updated, oldHost, haccount, hsite, hrenamed, .inl ⟨heq, rfl⟩⟩
      · rw [← (hcompensated (g.1.setSite account updated)).2
          ⟨account, site, updated, oldHost, haccount, hsite, hrenamed, .inr ⟨hne, rfl⟩⟩]
        show Function.update g₂.1.sites _ _ = Function.update g.1.sites _ _
        rw [hsites₂]
    refine safe_bind.mpr ((safe_setApacheHost (.inr rfl) _ _ g₂).mono ?_ ?_)
    · rintro g₃ _ ⟨-, h | h⟩
      · exact .inl h
      · exact .inr (.inr (hsame g₃.1 h))
    · rintro g₃ _ (⟨-, h⟩ | ⟨-, hphase | hnot⟩)
      · exact .inl h
      · cases hphase
      · obtain ⟨account, site, updated, oldHost, haccount, hsite, hrenamed⟩ :=
          (hcompensated g.1).1
        refine absurd ⟨account, site, updated, oldHost, haccount, ?_, hrenamed⟩ hnot
        rw [hsites₂, hsite]

end Found

/-- What the command leaves on the way: nothing, or what it has found and changed. -/
lemma safe_setPublicHost {g : World × Prop} (hg : g.1 = w) :
    Safe ⟨fun _ _ => True, hostAnswers⟩
      (fun g' _ => ∃ found : Found target newHost w, g'.2 ∨ found.Changed g'.1 ∧
        ∃ site route, g'.1.sites found.account = some site ∧ parseSite site = .ok route ∧
          apacheRouteChecks (found.binding.withPublicHost newHost) route = .ok ())
      (fun g' _ => g'.1.bindings = w.bindings ∧ g'.1.sites = w.sites ∨
        ∃ found : Found target newHost w, g'.2 ∨ ¬found.Agrees) g
      (setPublicHost target newHost) := by
  subst hg
  unfold setPublicHost
  refine safe_bind.mpr (safe_perform.mpr ⟨trivial, ?_, ?_⟩)
  swap
  · exact fun e g₁ h => .inl ⟨by rw [h.1.1], by rw [h.1.1]⟩
  intro oldText g₁ h
  obtain ⟨h₁, rfl⟩ := readBindingsText_ok h.1
  refine safe_bind.mpr (safe_perform.mpr ⟨trivial, ?_, ?_⟩)
  swap
  · exact fun e g₂ h => .inl ⟨by rw [h.1.1, h₁], by rw [h.1.1, h₁]⟩
  intro bindings g₂ h
  obtain ⟨h₂, rfl, hloadable⟩ := loadBindings_ok h.1
  rw [h₁] at h₂ hloadable
  refine safe_bind.mpr (safe_perform.mpr ⟨trivial, ?_, ?_⟩)
  swap
  · exact fun e g₃ h => .inl ⟨by rw [h.1.1, h₂], by rw [h.1.1, h₂]⟩
  intro bindings g₃ h
  obtain ⟨h₃, rfl, -⟩ := loadBindings_ok h.1
  rw [h₂] at h₃
  rw [h₁, h₂]
  refine safe_bind.mpr (safe_ofExcept.mpr ⟨fun binding hbinding => ?_, fun e _ => ?_⟩)
  swap
  · exact .inl ⟨by rw [h₃], by rw [h₃]⟩
  refine safe_bind.mpr (safe_ofExcept.mpr ⟨fun rows hrows => ?_, fun e _ => ?_⟩)
  swap
  · exact .inl ⟨by rw [h₃], by rw [h₃]⟩
  refine safe_bind.mpr ((safe_setApacheHost (.inl rfl) binding.linuxAccount newHost g₃).mono ?_ ?_)
  swap
  · rintro g₄ e (⟨hrenamable, hmarked⟩ | ⟨hsame, -⟩)
    · obtain ⟨account, site, updated, oldHost, haccount, hsite, hrenamed⟩ := hrenamable rfl
      rw [h₃] at hsite
      exact .inr ⟨⟨binding, rows, account, site, updated, oldHost, hloadable, hbinding, hrows,
        haccount, hsite, hrenamed⟩, .inl hmarked⟩
    · exact .inl ⟨by rw [hsame, h₃], by rw [hsame, h₃]⟩
  rintro g₄ _ ⟨⟨account, site, updated, oldHost, haccount, hsite, hrenamed⟩, h₄⟩
  rw [h₃] at hsite h₄
  let found : Found target newHost g.1 := ⟨binding, rows, account, site, updated, oldHost,
    hloadable, hbinding, hrows, haccount, hsite, hrenamed⟩
  rcases h₄ with hmarked | h₄
  · -- something has failed before: whatever follows, that stays so
    refine (safe_marked g₄ _).mono ?_ ?_
    · exact fun g' _ h => ⟨found, .inl (h hmarked)⟩
    · exact fun g' _ h => .inr ⟨found, .inl (h hmarked)⟩
  refine safe_bind.mpr ((found.safe_writeOrCompensate h₄).mono ?_ ?_)
  swap
  · rintro g₅ e (hmarked | hagrees | hsame)
    · exact .inr ⟨found, .inl hmarked⟩
    · exact .inr ⟨found, .inr hagrees⟩
    · exact .inl hsame
  rintro g₅ _ (hmarked | hchanged)
  · refine (safe_marked g₅ _).mono ?_ ?_
    · exact fun g' _ h => ⟨found, .inl (h hmarked)⟩
    · exact fun g' _ h => .inr ⟨found, .inl (h hmarked)⟩
  unfold parseApacheRoute
  refine safe_bind.mpr (safe_bind.mpr (safe_ofExcept.mpr ⟨fun account' haccount' => ?_, ?_⟩))
  swap
  · intro e he
    rw [haccount] at he
    cases he
  rw [haccount] at haccount'
  cases haccount'
  refine safe_bind.mpr (safe_perform.mpr ⟨trivial, ?_, ?_⟩)
  swap
  · exact fun e g₆ h => .inr ⟨found, .inl (h.2.mpr (.inr ⟨nofun, e, rfl⟩))⟩
  intro site' g₆ h
  obtain ⟨h₆, hsite'⟩ := readSite_ok h.1
  -- a site that agreed still passes the checks
  have hpasses : found.Agrees → ∃ route, parseSite site' = .ok route ∧
      apacheRouteChecks (binding.withPublicHost newHost) route = .ok () :=
    fun hagrees => hagrees.passes hchanged hsite'
  refine safe_ofExcept.mpr ⟨fun route hroute => ?_, fun e he => ?_⟩
  · refine safe_ofExcept.mpr ⟨fun _ hchecks => ?_, fun e he => ?_⟩
    · refine ⟨found, .inr ⟨?_, site', route, ?_, hroute, hchecks⟩⟩
      · rw [h₆]
        exact hchanged
      · rw [h₆]
        exact hsite'
    · refine .inr ⟨found, .inr fun hagrees => ?_⟩
      obtain ⟨route', hroute', hchecks⟩ := hpasses hagrees
      rw [hroute] at hroute'
      cases hroute'
      rw [hchecks] at he
      cases he
  · refine .inr ⟨found, .inr fun hagrees => ?_⟩
    obtain ⟨route, hroute, -⟩ := hpasses hagrees
    rw [hroute] at he
    cases he

/-- What an exit code of the command says. -/
lemma safe_cmdBindingSetPublicHost (target host : String) {g : World × Prop} (hg : g.1 = w) :
    Safe ⟨fun _ _ => True, hostAnswers⟩
      (fun g' code =>
        (code = 0 → ∃ newHost, validatePublicHost host = some newHost ∧
          ∃ found : Found target newHost w, g'.2 ∨ found.Changed g'.1 ∧
            ∃ site route, g'.1.sites found.account = some site ∧ parseSite site = .ok route ∧
              apacheRouteChecks (found.binding.withPublicHost newHost) route = .ok ()) ∧
        (code ≠ 0 → g'.1.bindings = w.bindings ∧ g'.1.sites = w.sites ∨
          ∃ newHost, validatePublicHost host = some newHost ∧
            ∃ found : Found target newHost w, g'.2 ∨ ¬found.Agrees))
      (fun _ _ => True) g (cmdBindingSetPublicHost target host) := by
  subst hg
  unfold cmdBindingSetPublicHost
  refine safe_bind.mpr (safe_perform.mpr ⟨trivial, ?_, fun _ _ _ => trivial⟩)
  intro root g₁ h
  have h₁ : g₁.1 = g.1 := h.1
  cases root with
  | false => exact ⟨nofun, fun _ => .inl ⟨by rw [h₁], by rw [h₁]⟩⟩
  | true =>
      cases hhost : validatePublicHost host with
      | none => exact trivial
      | some newHost =>
          refine safe_bind.mpr (safe_tryCatch.mpr (safe_bind.mpr
            ((safe_setPublicHost h₁).mono ?_ ?_)))
          · rintro g₂ _ hdone
            exact ⟨fun _ => ⟨newHost, rfl, hdone⟩, fun h => absurd rfl h⟩
          · rintro g₂ e (hsame | hfailed)
            · exact ⟨nofun, fun _ => .inl hsame⟩
            · exact ⟨nofun, fun _ => .inr ⟨newHost, rfl, hfailed⟩⟩

namespace Found

variable (found : Found target newHost w)

/-- A change that went well is what is meant, on a managed binding. -/
lemma onlyHostChanged (hmanaged : found.binding.upstreamKind = .managedRootful) {w' : World}
    (hchanged : found.Changed w') {site : Site} {route : ApacheRoute}
    (hsite : w'.sites found.account = some site) (hroute : parseSite site = .ok route)
    (hchecks : apacheRouteChecks (found.binding.withPublicHost newHost) route = .ok ()) :
    OnlyHostChanged target newHost w w' := by
  obtain ⟨w₁, hrenamed, hsites⟩ := hchanged.sites
  obtain ⟨name, ports, -, hports, -⟩ := parseSite_ok hroute
  refine ⟨found.binding, found.account, found.site, site, route, found.get, ?_, found.named,
    found.stored, ?_, hroute, (apacheRouteChecks_ok.mp hchecks).1, ?_, hchanged.states⟩
  · have hsame := withPublicHost_of_managed newHost
      (found.loadable.1 found.binding (mem_of_getRuntimeBinding found.get)) hmanaged
    rw [hchanged.bindings, ← hsame]
    exact (replaceRuntimeBinding_ok found.replaced).1
  · rw [hsites] at hsite ⊢
    rcases found.renamed_iff.mp hrenamed with ⟨-, rfl⟩ | ⟨-, rfl⟩
    · rw [← hsite, Function.update_eq_self]
    · rw [World.sites_setSite_self] at hsite
      rw [← hsite]
      rfl
  · rw [hsites] at hsite
    have hsame : site.proxyPorts = found.site.proxyPorts := by
      rcases found.renamed_iff.mp hrenamed with ⟨-, rfl⟩ | ⟨-, rfl⟩
      · rw [found.stored] at hsite
        cases hsite
        rfl
      · rw [World.sites_setSite_self] at hsite
        cases hsite
        obtain ⟨host, -, -, -, -, hupdated⟩ := replaceServerName_ok found.renamed
        rw [hupdated, proxyPorts_map_withName]
    rw [← hsame, hports]
    rfl

/-- A host where the bindings cannot be written, and the old text neither. -/
def tornHost : Host where
  user := ""
  port := 0
  raises
    | .writeBindings .. => true
    | .writeBindingsText .. => true
    | _ => false

lemma eval_setApacheHost :
    ∃ w₁, eval tornHost.answer (setApacheHost .change found.binding.linuxAccount newHost) w =
      (.ok (), w₁) ∧ w₁.bindings = w.bindings := by
  have hread : eval tornHost.answer (Op.readSite .change found.account).run w =
      (.ok found.site, w) := by
    rw [eval_perform]
    unfold Host.answer
    rw [if_neg (by exact Bool.false_ne_true)]
    dsimp only
    rw [found.stored]
  unfold setApacheHost
  rw [found.named, eval_bind_of_ok _ (eval_ofExcept _ _ _), eval_bind_of_ok _ hread, found.renamed,
    eval_bind_of_ok _ (eval_ofExcept _ _ _)]
  dsimp only
  by_cases hsame : some found.oldHost = validatePublicHost newHost
  · rw [if_pos hsame]
    exact ⟨w, rfl, rfl⟩
  · rw [if_neg hsame]
    exact ⟨w.setSite found.account found.updated, rfl, rfl⟩

/-- On such a host the bindings are lost. -/
lemma eval_setPublicHost (found : Found target newHost w) : ∃ w',
    eval tornHost.answer (setPublicHost target newHost) w = (.error .outside, w') ∧
      w'.bindings = [] := by
  have hload : eval tornHost.answer Op.loadBindings.run w = (.ok w.bindings, w) := by
    rw [eval_perform]
    unfold Host.answer
    rw [if_neg (by exact Bool.false_ne_true)]
    dsimp only
    rw [if_pos found.loadable]
  have hread : eval tornHost.answer Op.readBindingsText.run w = (.ok w.bindings, w) := rfl
  obtain ⟨w₁, hrenamed, -⟩ := found.eval_setApacheHost
  unfold setPublicHost
  rw [eval_bind_of_ok _ hread, eval_bind_of_ok _ hload, eval_bind_of_ok _ hload, found.get,
    eval_bind_of_ok _ (eval_ofExcept _ _ _)]
  dsimp only
  rw [found.replaced, eval_bind_of_ok _ (eval_ofExcept _ _ _), eval_bind_of_ok _ hrenamed]
  exact ⟨_, rfl, rfl⟩

end Found

end command

/-! ## A binding and its site -/

/-- A managed binding. -/
def sampleBinding : RuntimeBinding where
  instanceId := "11111111-1111-4111-8111-111111111111"
  linuxAccount := "dev-a"
  publicHost := "old.example.com"
  family := "hermes"
  runtimeClass := "dev"
  gatewayPort := 3000
  bridgePort := 4000

/-- A binding that a developer has switched. -/
def rootlessBinding : RuntimeBinding :=
  { sampleBinding with
    upstreamKind := .developerRootless
    upstreamOwner := "kim"
    upstreamContainer := "kim-hermes-src" }

/-- A site of this host and port. -/
def siteOf (host : String) (port : Nat) : Site :=
  [{ serverName := some host }, { proxyPort := some port }, { webSocketPorts := [port] }]

/-- A host with one binding and its site. -/
def worldOf (binding : RuntimeBinding) : World where
  bindings := [binding]
  sites account := if account = binding.linuxAccount then
    some (siteOf binding.publicHost binding.gatewayPort) else none
  states _ := none
  log := []

/-- A host where nothing raises but the `configtest` of a change. -/
def testlessHost : Host where
  user := ""
  port := 0
  raises
    | .configtest .change => true
    | _ => false

/-- A host where nothing raises. -/
def goodHost : Host where
  user := "kim"
  port := 3100
  raises _ := false

/-- An executed change and what is checked of it. -/
lemma exists_change (host : Host) (w : World) (code : Nat) (check : World → Bool)
    (hcode : (eval host.answer (cmdBindingSetPublicHost "dev-a" "new.example.com") w).1 = .ok code)
    (hcheck : check (eval host.answer
      (cmdBindingSetPublicHost "dev-a" "new.example.com") w).2 = true) :
    ∃ w', Ends Outcome (cmdBindingSetPublicHost "dev-a" "new.example.com") w (.ok code) w' ∧
      check w' = true := by
  have hrun := ends_eval host.answer_outcome
    (cmdBindingSetPublicHost "dev-a" "new.example.com") w
  rw [hcode] at hrun
  exact ⟨_, hrun, hcheck⟩

/-- What a change of the sample finds. -/
def sampleFound : Found "dev-a" "new.example.com" (worldOf sampleBinding) where
  binding := sampleBinding
  rows := [sampleBinding.withPublicHost "new.example.com"]
  account := "dev-a"
  site := siteOf "old.example.com" 3000
  updated := siteOf "new.example.com" 3000
  oldHost := "old.example.com"
  loadable := by decide
  get := by decide +kernel
  replaced := by decide +kernel
  named := by decide +kernel
  stored := by decide
  renamed := by decide +kernel

/-- The site of an account is there, if an operation reads it. -/
def siteCheck (op : Op) (w : World) : Bool :=
  match op with
  | .readSite _ account => (w.sites account).isSome
  | _ => true

lemma goodHost_unmarked (op : Op) (w : World) (h : siteCheck op w = true) :
    Outcome w op (goodHost.answer op w).1 (goodHost.answer op w).2 ∧
      ¬Fails op (goodHost.answer op w).1 := by
  refine ⟨goodHost.answer_outcome op w, ?_⟩
  unfold Host.answer
  rw [if_neg (by exact Bool.false_ne_true)]
  cases op with
  | readSite phase account =>
      obtain ⟨site, hsite⟩ := Option.isSome_iff_exists.mp h
      dsimp only
      rw [hsite]
      rintro ⟨-, e, he⟩
      cases he
  | writeBindingsText => exact fun ⟨e, he⟩ => nomatch he
  | writeSite => exact fun ⟨e, he⟩ => nomatch he
  | restoreSite => exact fun ⟨e, he⟩ => nomatch he
  | backupSite => exact fun ⟨_, e, he⟩ => nomatch he
  | configtest =>
      rintro ⟨-, ⟨e, he⟩ | ⟨-, hne⟩⟩
      · cases he
      · exact hne rfl
  | reload =>
      rintro ⟨-, ⟨e, he⟩ | ⟨-, hne⟩⟩
      · cases he
      · exact hne rfl
  | _ => exact id

end AgentRuntimeOps.Routing
