import AgentRuntimeOps.Lib.Crash
import AgentRuntimeOps.Lib.Rewriting
import Mathlib.Data.List.Nodup

/-!
# Runtime bindings and Apache routes

`routing.py` and `apache.py`: the declared bindings in `runtime-bindings.json`, and the sites of the
Apache server that route a public host to the gateway port of a runtime.

A binding is stored as `load_runtime_bindings` returns it, and the file is the list of its bindings.
A site is the list of its lines, and a line is what the patterns of `apache.py` find in it.
-/

namespace AgentRuntimeOps.Routing

open AgentRuntimeOps.Lib

/-! ## Names -/

/-- `str.isspace` -/
def isSpace (c : Char) : Bool :=
  let n := c.toNat
  (9 ≤ n && n ≤ 13) || (28 ≤ n && n ≤ 32) || n == 0x85 || n == 0xa0 || n == 0x1680 ||
    (0x2000 ≤ n && n ≤ 0x200a) || n == 0x2028 || n == 0x2029 || n == 0x202f || n == 0x205f ||
    n == 0x3000

/-- Drop what satisfies the test at the end. -/
def dropRight (drop : Char → Bool) (text : List Char) : List Char :=
  (text.reverse.dropWhile drop).reverse

/-- `str.strip()` -/
def strip (text : List Char) : List Char := dropRight isSpace (text.dropWhile isSpace)

/-- `str.lower()`, as far as it gives ASCII: besides A to Z only the Kelvin sign has a lower case
there. -/
def lowerChar (c : Char) : Char := if c.toNat = 0x212a then 'k' else c.toLower

/-- `value.strip().lower().rstrip(".")` -/
def normalize (value : String) : List Char :=
  dropRight (· == '.') ((strip value.toList).map lowerChar)

/-- A pattern that ends with `$` also admits a line feed after what it matches. -/
def atEnd (accepts : List Char → Bool) (text : List Char) : Bool :=
  accepts text || (text.getLast? == some '\n' && accepts text.dropLast)

/-- `LINUX_ACCOUNT_RE`, for a text that is stripped. -/
def isLinuxAccount (text : List Char) : Bool :=
  match text with
  | [] => false
  | c :: rest => c.isLower && decide (rest.length ≤ 31) &&
      rest.all fun c => c.isLower || c.isDigit || c == '_' || c == '-'

/-- `validate_linux_account` -/
def validateLinuxAccount (value : String) : Option String :=
  let account := strip value.toList
  if isLinuxAccount account then some (String.ofList account) else none

/-- A label of a host name. -/
def isHostLabel (label : List Char) : Bool :=
  !label.isEmpty && decide (label.length ≤ 63) &&
    label.all (fun c => c.isLower || c.isDigit || c == '-') &&
    label.head? != some '-' && label.getLast? != some '-'

/-- `HOST_RE`, up to its `$`, for a text in lower case. -/
def isHostName (text : List Char) : Bool :=
  let labels := text.splitOn '.'
  decide (1 ≤ text.length ∧ text.length ≤ 253 ∧ 2 ≤ labels.length) &&
    labels.dropLast.all isHostLabel &&
    labels.getLast?.any fun label =>
      decide (2 ≤ label.length ∧ label.length ≤ 63) && label.all Char.isLower

/-- `validate_public_host` -/
def validatePublicHost (value : String) : Option String :=
  let host := normalize value
  if atEnd isHostName host then some (String.ofList host) else none

/-- `FAMILY_RE`, for a text that is stripped. -/
def isFamily (text : List Char) : Bool :=
  match text with
  | [] => false
  | c :: rest => c.isLower && decide (rest.length ≤ 63) &&
      rest.all fun c => c.isLower || c.isDigit || c == '-'

/-- The text of a UUID. -/
def isInstanceId (text : List Char) : Bool :=
  let groups := text.splitOn '-'
  groups.map List.length == [8, 4, 4, 4, 12] &&
    groups.all fun group => group.all fun c => c.isDigit || ('a' ≤ c && c ≤ 'f')

/-! ## Bindings -/

/-- `UPSTREAM_KINDS` -/
inductive UpstreamKind where
  | managedRootful
  | developerRootless
  deriving DecidableEq, Repr

/-- `RuntimeBinding` -/
structure RuntimeBinding where
  instanceId : String
  linuxAccount : String
  publicHost : String
  family : String
  runtimeClass : String
  gatewayPort : Nat
  bridgePort : Nat
  enabled : Bool := true
  upstreamKind : UpstreamKind := .managedRootful
  upstreamOwner : String := ""
  upstreamContainer : String := ""
  deriving DecidableEq, Repr

/-- `_port` -/
def isPort (port : Nat) : Bool := 1 ≤ port && port ≤ 65535

/-- `_binding_from_item` takes the binding. -/
def RuntimeBinding.accepted (binding : RuntimeBinding) : Bool :=
  let named := fun name : String => name = "" ∨ isLinuxAccount name.toList
  decide (named binding.upstreamOwner) && decide (named binding.upstreamContainer) &&
    (match binding.upstreamKind with
      | .developerRootless => decide (binding.upstreamOwner ≠ "" ∧ binding.upstreamContainer ≠ "")
      | .managedRootful => decide (binding.upstreamOwner = "" ∧ binding.upstreamContainer = "")) &&
    isInstanceId binding.instanceId.toList && isLinuxAccount binding.linuxAccount.toList &&
    atEnd isHostName binding.publicHost.toList && isFamily binding.family.toList &&
    decide (binding.runtimeClass ∈ ["customer", "dev"]) &&
    isPort binding.gatewayPort && isPort binding.bridgePort

/-- `_validate_unique_bindings` -/
def uniqueBindings (bindings : List RuntimeBinding) : Prop :=
  (bindings.map RuntimeBinding.instanceId).Nodup ∧
    (bindings.map RuntimeBinding.linuxAccount).Nodup ∧
    (bindings.map RuntimeBinding.publicHost).Nodup ∧
    (bindings.map RuntimeBinding.gatewayPort).Nodup ∧
    (bindings.map RuntimeBinding.bridgePort).Nodup

instance (bindings : List RuntimeBinding) : Decidable (uniqueBindings bindings) := by
  unfold uniqueBindings
  infer_instance

/-- `load_runtime_bindings` takes the file. -/
def Loadable (bindings : List RuntimeBinding) : Prop :=
  (∀ binding ∈ bindings, binding.accepted = true) ∧ uniqueBindings bindings

instance (bindings : List RuntimeBinding) : Decidable (Loadable bindings) := by
  unfold Loadable
  infer_instance

/-- What the commands raise. -/
inductive Raised where
  /-- The exception of a step that is not ours to compute. -/
  | outside
  /-- `linux_account must be a safe Unix account name` -/
  | badAccount
  /-- `public_host must be a DNS name without scheme, port, path, or whitespace` -/
  | badHost
  /-- `duplicate {name} in runtime bindings` -/
  | duplicate
  /-- `runtime binding not found: {target}` -/
  | notFound
  /-- A site that cannot be read as one route, or not be rewritten. -/
  | badSite
  /-- `proxy port must be between 1024 and 65535` -/
  | badPort
  /-- The texts of `apache2ctl configtest` or of the reload. -/
  | apacheRefused
  /-- The check of `_apache_route_checks` that failed. -/
  | routeCheck (name : String)
  /-- `dev upstream requires a Hermes dev source-mode target` -/
  | notDevTarget
  /-- `prepared intent does not match the restored managed baseline` -/
  | preparedMismatch
  /-- `run as root/admin through the managed opsctl grant` -/
  | notRoot
  /-- `apply requires a developer identity and an inactive managed-rootful target` -/
  | applyRefused
  /-- `rootless container identity must be OWNER-hermes-src` -/
  | badContainer
  /-- `abort rollback truth does not match the pre-apply baseline` -/
  | abortMismatch
  /-- `{apply_exc}; abort rollback failed: {rollback_exc}` -/
  | abortFailed (apply rollback : Raised)
  /-- `active managed rootless state is required for rollback` -/
  | rollbackRefused
  deriving DecidableEq, Repr

/-- `get_runtime_binding`, of bindings that are loaded. -/
def getRuntimeBinding (target : String) (bindings : List RuntimeBinding) :
    Except Raised RuntimeBinding :=
  let normalized := String.ofList (normalize target)
  match bindings.find? fun binding =>
      normalized ∈ [binding.instanceId, binding.linuxAccount, binding.publicHost] with
  | some binding => .ok binding
  | none => .error .notFound

/-- The bindings with another one in the place of that with the instance id. -/
def replaceRows (bindings : List RuntimeBinding) (instanceId : String)
    (replacement : RuntimeBinding) : List RuntimeBinding :=
  bindings.map fun binding => if binding.instanceId = instanceId then replacement else binding

/-- `replace_runtime_binding` -/
def replaceRuntimeBinding (bindings : List RuntimeBinding) (instanceId : String)
    (replacement : RuntimeBinding) : Except Raised (List RuntimeBinding) :=
  let rows := replaceRows bindings instanceId replacement
  if ∀ binding ∈ bindings, binding.instanceId ≠ instanceId then .error .notFound
  else if uniqueBindings rows then .ok rows
  else .error .duplicate

section bindings

variable {bindings rows : List RuntimeBinding} {target instanceId : String}
  {binding replacement : RuntimeBinding}

/-- A managed binding names no upstream. -/
lemma unnamed_of_managed (h : binding.accepted = true)
    (hmanaged : binding.upstreamKind = .managedRootful) :
    binding.upstreamOwner = "" ∧ binding.upstreamContainer = "" := by
  unfold RuntimeBinding.accepted at h
  rw [hmanaged] at h
  simp only [Bool.and_eq_true, decide_eq_true_eq] at h
  obtain ⟨⟨⟨⟨⟨⟨⟨⟨-, hunnamed⟩, -⟩, -⟩, -⟩, -⟩, -⟩, -⟩, -⟩ := h
  exact hunnamed

lemma mem_of_getRuntimeBinding (h : getRuntimeBinding target bindings = .ok binding) :
    binding ∈ bindings := by
  unfold getRuntimeBinding at h
  dsimp only at h
  split at h
  case h_1 found hfound =>
    cases h
    exact List.mem_of_find?_eq_some hfound
  case h_2 => cases h

lemma replaceRuntimeBinding_ok
    (h : replaceRuntimeBinding bindings instanceId replacement = .ok rows) :
    rows = replaceRows bindings instanceId replacement ∧ uniqueBindings rows := by
  unfold replaceRuntimeBinding at h
  dsimp only at h
  split_ifs at h with hmissing hunique
  cases h
  exact ⟨rfl, hunique⟩

lemma replaceRuntimeBinding_eq (hmem : binding ∈ bindings)
    (hunique : uniqueBindings (replaceRows bindings binding.instanceId replacement)) :
    replaceRuntimeBinding bindings binding.instanceId replacement =
      .ok (replaceRows bindings binding.instanceId replacement) := by
  unfold replaceRuntimeBinding
  dsimp only
  rw [if_neg fun hmissing => hmissing binding hmem rfl, if_pos hunique]

end bindings

/-! ## Sites -/

/-- A line of a site. -/
structure SiteLine where
  /-- Neither blank nor a comment. -/
  active : Bool := true
  /-- The name that `SERVER_NAME_RE` finds. -/
  serverName : Option String := none
  /-- The port that `HTTP_PROXY_RE` finds. -/
  proxyPort : Option Nat := none
  /-- The ports of the further `http://127.0.0.1:PORT/` in the line. -/
  otherPorts : List Nat := []
  /-- The ports that `WS_PROXY_RE` finds. -/
  webSocketPorts : List Nat := []
  /-- What is left of the line. -/
  rest : String := ""
  deriving DecidableEq, Repr

/-- The file of a site. -/
abbrev Site : Type := List SiteLine

namespace Site

/-- `_active_lines` -/
def activeLines (site : Site) : List SiteLine := site.filter SiteLine.active

/-- The names of the active lines. -/
def serverNames (site : Site) : List String := site.activeLines.filterMap SiteLine.serverName

/-- The gateway ports of the active lines. -/
def proxyPorts (site : Site) : List Nat := site.activeLines.filterMap SiteLine.proxyPort

/-- The websocket ports of the active lines. -/
def webSocketPorts (site : Site) : List Nat := site.activeLines.flatMap SiteLine.webSocketPorts

end Site

/-- `ApacheRoute` -/
structure ApacheRoute where
  publicHost : String
  gatewayPort : Nat
  websocketPort : Option Nat
  deriving DecidableEq, Repr

/-- All ports are this one. -/
def samePorts (ports : List Nat) (port : Nat) : Prop := ∀ p ∈ ports, p = port

instance (ports : List Nat) (port : Nat) : Decidable (samePorts ports port) := by
  unfold samePorts
  infer_instance

/-- `parse_apache_route`, of a site that is read. -/
def parseSite (site : Site) : Except Raised ApacheRoute :=
  match site.serverNames, site.proxyPorts with
  | [name], port :: ports =>
      match validatePublicHost name with
      | none => .error .badSite
      | some host =>
          if samePorts ports port ∧ samePorts site.webSocketPorts port then
            .ok { publicHost := host, gatewayPort := port,
                  websocketPort := site.webSocketPorts.head? }
          else .error .badSite
  | _, _ => .error .badSite

/-- The line with another name, if it has one. -/
def SiteLine.withName (host : String) (line : SiteLine) : SiteLine :=
  if line.active then { line with serverName := line.serverName.map fun _ => host } else line

/-- `replace_server_name`: the site with the new name, and the old name. -/
def replaceServerName (site : Site) (host : String) : Except Raised (Site × String) :=
  match validatePublicHost host with
  | none => .error .badHost
  | some newHost =>
      match site.serverNames with
      | [name] =>
          match validatePublicHost name with
          | some oldHost => .ok (site.map (SiteLine.withName newHost), oldHost)
          | none => .error .badHost
      | _ => .error .badSite

/-- The line with another port wherever it has one. -/
def SiteLine.withPort (port : Nat) (line : SiteLine) : SiteLine :=
  { line with
    proxyPort := line.proxyPort.map fun _ => port
    otherPorts := line.otherPorts.map fun _ => port
    webSocketPorts := line.webSocketPorts.map fun _ => port }

/-- `replace_proxy_port`: the site with the new port, and the old port. -/
def replaceProxyPort (site : Site) (port : Nat) : Except Raised (Site × Nat) :=
  if port < 1024 ∨ 65535 < port then .error .badPort
  else
    match site.proxyPorts with
    | old :: ports =>
        if samePorts ports old ∧ samePorts site.webSocketPorts old then
          .ok (site.map (SiteLine.withPort port), old)
        else .error .badSite
    | [] => .error .badSite

section rewritten

variable {site : Site} {host : String} {port : Nat}

@[simp] lemma active_withName {line : SiteLine} : (line.withName host).active = line.active := by
  unfold SiteLine.withName
  split_ifs <;> rfl

@[simp] lemma proxyPort_withName {line : SiteLine} :
    (line.withName host).proxyPort = line.proxyPort := by
  unfold SiteLine.withName
  split_ifs <;> rfl

@[simp] lemma webSocketPorts_withName {line : SiteLine} :
    (line.withName host).webSocketPorts = line.webSocketPorts := by
  unfold SiteLine.withName
  split_ifs <;> rfl

@[simp] lemma active_withPort {line : SiteLine} : (line.withPort port).active = line.active := rfl

/-- What a rewriting of lines does to the active ones. -/
lemma activeLines_map {f : SiteLine → SiteLine} (hf : ∀ line, (f line).active = line.active) :
    Site.activeLines (site.map f) = site.activeLines.map f := by
  unfold Site.activeLines
  rw [List.filter_map]
  congr 1
  exact List.filter_congr fun line _ => hf line

lemma serverNames_map_withName :
    Site.serverNames (site.map (SiteLine.withName host)) = site.serverNames.map fun _ => host := by
  unfold Site.serverNames
  rw [activeLines_map fun line => active_withName, List.filterMap_map, List.map_filterMap]
  refine List.filterMap_congr fun line hline => ?_
  have hactive : line.active = true := (List.mem_filter.mp hline).2
  show (line.withName host).serverName = _
  rw [SiteLine.withName, if_pos hactive]

lemma proxyPorts_map_withName :
    Site.proxyPorts (site.map (SiteLine.withName host)) = site.proxyPorts := by
  unfold Site.proxyPorts
  rw [activeLines_map fun line => active_withName, List.filterMap_map]
  exact List.filterMap_congr fun line _ => proxyPort_withName

lemma webSocketPorts_map_withName :
    Site.webSocketPorts (site.map (SiteLine.withName host)) = site.webSocketPorts := by
  unfold Site.webSocketPorts
  rw [activeLines_map fun line => active_withName, List.flatMap_map]
  simp

lemma serverNames_map_withPort :
    Site.serverNames (site.map (SiteLine.withPort port)) = site.serverNames := by
  unfold Site.serverNames
  rw [activeLines_map fun line => active_withPort, List.filterMap_map]
  exact List.filterMap_congr fun line _ => rfl

lemma proxyPorts_map_withPort :
    Site.proxyPorts (site.map (SiteLine.withPort port)) = site.proxyPorts.map fun _ => port := by
  unfold Site.proxyPorts
  rw [activeLines_map fun line => active_withPort, List.filterMap_map, List.map_filterMap]
  exact List.filterMap_congr fun line _ => rfl

lemma webSocketPorts_map_withPort :
    Site.webSocketPorts (site.map (SiteLine.withPort port)) =
      site.webSocketPorts.map fun _ => port := by
  unfold Site.webSocketPorts
  rw [activeLines_map fun line => active_withPort, List.flatMap_map, List.map_flatMap]
  rfl

/-- The only name of a site is put back where it was. -/
lemma withName_withName_of_serverNames {old : String} (h : site.serverNames = [old]) :
    (site.map (SiteLine.withName host)).map (SiteLine.withName old) = site := by
  rw [List.map_map]
  refine (List.map_congr_left fun line hline => ?_).trans (List.map_id site)
  show (line.withName host).withName old = line
  by_cases hactive : line.active = true
  · obtain ⟨active, serverName, proxyPort, otherPorts, webSocketPorts, rest⟩ := line
    have hname : ∀ name, serverName = some name → name = old := by
      rintro name rfl
      have hmem : name ∈ site.serverNames :=
        List.mem_filterMap.mpr ⟨_, List.mem_filter.mpr ⟨hline, hactive⟩, rfl⟩
      rw [h] at hmem
      exact List.mem_singleton.mp hmem
    obtain rfl : active = true := hactive
    cases serverName with
    | none => rfl
    | some name =>
        rw [hname name rfl]
        rfl
  · simp [SiteLine.withName, hactive]

end rewritten

/-- A site that is read as a route. -/
lemma parseSite_ok {site : Site} {route : ApacheRoute} (h : parseSite site = .ok route) :
    ∃ name ports, site.serverNames = [name] ∧ site.proxyPorts = route.gatewayPort :: ports ∧
      validatePublicHost name = some route.publicHost ∧ samePorts ports route.gatewayPort ∧
      samePorts site.webSocketPorts route.gatewayPort ∧
      route.websocketPort = site.webSocketPorts.head? := by
  unfold parseSite at h
  split at h
  case h_2 => cases h
  case h_1 name port ports hnames hports =>
    split at h
    case h_1 => cases h
    case h_2 host hhost =>
      split_ifs at h with hsame
      cases h
      exact ⟨name, ports, hnames, hports, hhost, hsame.1, hsame.2, rfl⟩

/-- The route of a site with these names and ports. -/
lemma parseSite_eq {site : Site} {name host : String} {port : Nat} {ports : List Nat}
    (hnames : site.serverNames = [name]) (hports : site.proxyPorts = port :: ports)
    (hhost : validatePublicHost name = some host)
    (hsame : samePorts ports port ∧ samePorts site.webSocketPorts port) :
    parseSite site = .ok
      { publicHost := host, gatewayPort := port, websocketPort := site.webSocketPorts.head? } := by
  unfold parseSite
  rw [hnames, hports]
  simp only [hhost]
  exact if_pos hsame

lemma replaceServerName_ok {site updated : Site} {host oldHost : String}
    (h : replaceServerName site host = .ok (updated, oldHost)) :
    ∃ newHost name, validatePublicHost host = some newHost ∧ site.serverNames = [name] ∧
      validatePublicHost name = some oldHost ∧ updated = site.map (SiteLine.withName newHost) := by
  unfold replaceServerName at h
  split at h
  case h_1 => cases h
  case h_2 newHost hhost =>
    split at h
    case h_2 => cases h
    case h_1 name hnames =>
      split at h
      case h_2 => cases h
      case h_1 old hold =>
        cases h
        exact ⟨newHost, name, hhost, hnames, hold, rfl⟩

lemma replaceServerName_eq {site : Site} {host newHost name oldHost : String}
    (hhost : validatePublicHost host = some newHost) (hnames : site.serverNames = [name])
    (hname : validatePublicHost name = some oldHost) :
    replaceServerName site host = .ok (site.map (SiteLine.withName newHost), oldHost) := by
  unfold replaceServerName
  simp only [hhost, hnames, hname]

lemma replaceProxyPort_ok {site updated : Site} {port oldPort : Nat}
    (h : replaceProxyPort site port = .ok (updated, oldPort)) :
    ∃ ports, 1024 ≤ port ∧ port ≤ 65535 ∧ site.proxyPorts = oldPort :: ports ∧
      samePorts ports oldPort ∧ samePorts site.webSocketPorts oldPort ∧
      updated = site.map (SiteLine.withPort port) := by
  unfold replaceProxyPort at h
  split_ifs at h with hport
  split at h
  case h_2 => cases h
  case h_1 old ports hports =>
    split_ifs at h with hsame
    cases h
    exact ⟨ports, by omega, by omega, hports, hsame.1, hsame.2, rfl⟩

/-- The port of a site that is read as a route is replaced. -/
lemma replaceProxyPort_eq {site : Site} {route : ApacheRoute} {port : Nat}
    (hroute : parseSite site = .ok route) (hlow : 1024 ≤ port) (hhigh : port ≤ 65535) :
    replaceProxyPort site port = .ok (site.map (SiteLine.withPort port), route.gatewayPort) := by
  obtain ⟨name, ports, -, hports, -, hsame, hsockets, -⟩ := parseSite_ok hroute
  unfold replaceProxyPort
  rw [if_neg (by omega), hports]
  exact if_pos ⟨hsame, hsockets⟩

/-- `_apache_route_checks`: the first check that fails. -/
def apacheRouteChecks (binding : RuntimeBinding) (route : ApacheRoute) : Except Raised Unit :=
  if route.publicHost ≠ binding.publicHost then
    .error (.routeCheck "apache_public_host_matches_binding")
  else if route.gatewayPort ≠ binding.gatewayPort then
    .error (.routeCheck "apache_gateway_port_matches_binding")
  else if ∃ port ∈ route.websocketPort, port ≠ binding.gatewayPort then
    .error (.routeCheck "apache_websocket_port_matches_binding")
  else .ok ()

lemma apacheRouteChecks_ok {binding : RuntimeBinding} {route : ApacheRoute} :
    apacheRouteChecks binding route = .ok () ↔ route.publicHost = binding.publicHost ∧
      route.gatewayPort = binding.gatewayPort ∧
      ∀ port ∈ route.websocketPort, port = binding.gatewayPort := by
  unfold apacheRouteChecks
  split_ifs with hhost hport hsocket
  · simp [hhost]
  · simp [hport]
  · obtain ⟨port, hmem, hne⟩ := hsocket
    refine iff_of_false nofun fun h => hne (h.2.2 port hmem)
  · refine iff_of_true rfl ⟨not_not.mp hhost, not_not.mp hport, fun port hmem => ?_⟩
    by_contra hne
    exact hsocket ⟨port, hmem, hne⟩

end AgentRuntimeOps.Routing
