import AgentRuntimeOps.Routing.Basic

/-!
# Changing a route

`commands/binding.py` and `commands/dev_upstream.py`: the commands that change the stored bindings
and an Apache site together, and the file in which a developer's upstream is remembered.
-/

namespace AgentRuntimeOps.Routing

open AgentRuntimeOps.Lib

/-! ## Operations -/

/-- Whether an upstream is about to be switched to, or is switched to. -/
inductive DevStatus where
  | prepared
  | active
  deriving DecidableEq, Repr

/-- The file `dev-upstreams/{target}.json`. -/
structure DevState where
  status : DevStatus
  target : String
  instanceId : String
  owner : String
  container : String
  sourceRevision : String
  rootlessPort : Nat
  rollbackBinding : RuntimeBinding
  deriving DecidableEq, Repr

/-- What a manifest and its profile say of a target. -/
structure Manifest where
  family : String
  runtimeClass : String
  /-- The mode of the profile is `source`. -/
  sourceMode : Bool
  deriving DecidableEq, Repr

/-- A binding is replaced. -/
abbrev BindingChange : Type := RowChange String RuntimeBinding

/-- The binding with an instance id. -/
def bindingOf (bindings : List RuntimeBinding) (instanceId : String) : Option RuntimeBinding :=
  bindings.find? fun binding => binding.instanceId = instanceId

/-- Where a site is looked at or written. -/
inductive Phase where
  /-- In the change that a command is made for. -/
  | change
  /-- When Apache reloads a site that was taken back. -/
  | again
  /-- When a public host is put back. -/
  | compensate
  /-- In `parse_apache_route`. -/
  | check
  deriving DecidableEq, Repr

/-- The steps the commands are made of. -/
inductive Op where
  /-- `is_root()` -/
  | isRoot
  /-- `sudo_user()` -/
  | sudoUser
  /-- `path.read_text` -/
  | readBindingsText
  | loadBindings
  /-- `_write_runtime_bindings_file`, for the binding with this instance id. -/
  | writeBindings (bindings : List RuntimeBinding) (instanceId : String)
  /-- `path.write_text` of a text that was read, for the binding with this instance id. -/
  | writeBindingsText (bindings : List RuntimeBinding) (instanceId : String)
  | readSite (phase : Phase) (account : String)
  /-- `shutil.copy2` of the site to its backup. -/
  | backupSite (phase : Phase) (account : String)
  | writeSite (phase : Phase) (account : String) (site : Site)
  /-- `apache2ctl configtest`: whether it returns 0. -/
  | configtest (phase : Phase)
  /-- `systemctl reload apache2`: whether it returns 0. -/
  | reload (phase : Phase)
  /-- `shutil.copy2` of the backup, which holds this site. -/
  | restoreSite (phase : Phase) (account : String) (site : Site)
  /-- The manifest of a target and its profile, in `load_runtime_target` and `_target`. -/
  | loadManifest (account : String)
  | readState (target : String)
  | writeState (target : String) (state : DevState)
  | unlinkState (target : String)
  /-- `_inspect_rootless`, of a container with the right name: its port and its revision. -/
  | inspectRootless (owner container : String)
  /-- The request to the workspace, and the checks of the response. -/
  | probe (port : Nat)

/-- What an operation answers. -/
@[reducible] def Op.Res : Op → Type
  | .isRoot => Bool
  | .sudoUser => String
  | .readBindingsText => List RuntimeBinding
  | .loadBindings => List RuntimeBinding
  | .writeBindings .. => Unit
  | .writeBindingsText .. => Unit
  | .readSite .. => Site
  | .backupSite .. => Unit
  | .writeSite .. => Unit
  | .configtest _ => Bool
  | .reload _ => Bool
  | .restoreSite .. => Unit
  | .loadManifest _ => Manifest
  | .readState _ => Option DevState
  | .writeState .. => Unit
  | .unlinkState _ => Unit
  | .inspectRootless .. => Nat × String
  | .probe _ => Unit

/-- A computation of a command. -/
abbrev Run (α : Type) : Type := Program Op Op.Res Raised α

/-- One operation. -/
abbrev Op.run (op : Op) : Run op.Res := Program.perform op

/-- `try: p except Exception as exc: …` -/
def attempt {α : Type} (p : Run α) : Run (Except Raised α) :=
  tryCatch (do
    let a ← p
    return .ok a) fun e => return .error e

/-! ## What an operation does -/

/-- The stored bindings, the sites by their accounts, and the states by their targets; and the
changes of bindings that were stored, the last one first. -/
structure World where
  bindings : List RuntimeBinding
  sites : String → Option Site
  states : String → Option DevState
  log : List BindingChange

namespace World

/-- The world after the bindings are written for one of them. -/
def store (w : World) (bindings : List RuntimeBinding) (instanceId : String) : World :=
  { w with
    bindings := bindings
    log := { key := instanceId, row := bindingOf bindings instanceId } :: w.log }

/-- The world after a site is written. -/
def setSite (w : World) (account : String) (site : Site) : World :=
  { w with sites := Function.update w.sites account (some site) }

/-- The world after a state is written, or removed. -/
def setState (w : World) (target : String) (state : Option DevState) : World :=
  { w with states := Function.update w.states target state }

@[simp] lemma bindings_store {w : World} {bindings : List RuntimeBinding} {id : String} :
    (w.store bindings id).bindings = bindings := rfl

@[simp] lemma sites_store {w : World} {bindings : List RuntimeBinding} {id : String} :
    (w.store bindings id).sites = w.sites := rfl

@[simp] lemma states_store {w : World} {bindings : List RuntimeBinding} {id : String} :
    (w.store bindings id).states = w.states := rfl

@[simp] lemma bindings_setSite {w : World} {account : String} {site : Site} :
    (w.setSite account site).bindings = w.bindings := rfl

@[simp] lemma states_setSite {w : World} {account : String} {site : Site} :
    (w.setSite account site).states = w.states := rfl

@[simp] lemma log_setSite {w : World} {account : String} {site : Site} :
    (w.setSite account site).log = w.log := rfl

@[simp] lemma sites_setSite_self {w : World} {account : String} {site : Site} :
    (w.setSite account site).sites account = some site := Function.update_self _ _ _

@[simp] lemma bindings_setState {w : World} {target : String} {state : Option DevState} :
    (w.setState target state).bindings = w.bindings := rfl

@[simp] lemma sites_setState {w : World} {target : String} {state : Option DevState} :
    (w.setState target state).sites = w.sites := rfl

@[simp] lemma log_setState {w : World} {target : String} {state : Option DevState} :
    (w.setState target state).log = w.log := rfl

@[simp] lemma states_setState_self {w : World} {target : String} {state : Option DevState} :
    (w.setState target state).states target = state := Function.update_self _ _ _

end World

/-- A file that is written in place: it is written, or the write raises and leaves the file as it
was or some first lines of what was to be written. -/
def WrittenInPlace {α : Type} (write : List α → World) (lines : List α) (w : World)
    (r : Except Raised Unit) (w' : World) : Prop :=
  (r = .ok () ∧ w' = write lines) ∨
    (∃ e, r = .error e) ∧ (w' = w ∨ ∃ torn, torn <+: lines ∧ w' = write torn)

/-- A file that is replaced: the write may also raise after the replacement. -/
def Replaced (w w₁ : World) (r : Except Raised Unit) (w' : World) : Prop :=
  (r = .ok () ∧ w' = w₁) ∨ (∃ e, r = .error e) ∧ (w' = w ∨ w' = w₁)

/-- What an operation may answer.  Every step may raise. -/
def Outcome : Program.Answers Op Op.Res Raised World := fun w op =>
  match op with
  | .readBindingsText => fun r w' => w' = w ∧ (r = .ok w.bindings ∨ ∃ e, r = .error e)
  | .loadBindings => fun r w' =>
      w' = w ∧ ((r = .ok w.bindings ∧ Loadable w.bindings) ∨ ∃ e, r = .error e)
  | .writeBindings bindings id => fun r w' =>
      -- `dump_runtime_bindings` raises before anything is written
      uniqueBindings bindings ∧ Replaced w (w.store bindings id) r w' ∨
      ¬uniqueBindings bindings ∧ (∃ e, r = .error e) ∧ w' = w
  | .writeBindingsText bindings id => fun r w' =>
      WrittenInPlace (fun bindings => w.store bindings id) bindings w r w'
  | .readSite _ account => fun r w' =>
      w' = w ∧ ((∃ site, w.sites account = some site ∧ r = .ok site) ∨ ∃ e, r = .error e)
  | .writeSite _ account site => fun r w' => WrittenInPlace (w.setSite account) site w r w'
  | .restoreSite _ account site => fun r w' => WrittenInPlace (w.setSite account) site w r w'
  | .readState target => fun r w' => w' = w ∧ (r = .ok (w.states target) ∨ ∃ e, r = .error e)
  | .writeState target state => fun r w' => Replaced w (w.setState target (some state)) r w'
  | .unlinkState target => fun r w' =>
      (r = .ok () ∧ w' = w.setState target none) ∨ (∃ e, r = .error e) ∧ w' = w
  | _ => fun _ w' => w' = w

section answers

variable {w w' : World} {phase : Phase} {account target : String} {e : Raised}

lemma readBindingsText_ok {text : List RuntimeBinding}
    (h : Outcome w .readBindingsText (.ok text) w') : w' = w ∧ text = w.bindings := by
  obtain ⟨hworld, hanswer | ⟨_, hanswer⟩⟩ := h
  · exact ⟨hworld, Except.ok.inj hanswer⟩
  · cases hanswer

lemma loadBindings_ok {bindings : List RuntimeBinding}
    (h : Outcome w .loadBindings (.ok bindings) w') :
    w' = w ∧ bindings = w.bindings ∧ Loadable w.bindings := by
  obtain ⟨hworld, ⟨hanswer, hloadable⟩ | ⟨_, hanswer⟩⟩ := h
  · exact ⟨hworld, Except.ok.inj hanswer, hloadable⟩
  · cases hanswer

lemma writeBindings_ok {bindings : List RuntimeBinding} {id : String}
    (h : Outcome w (.writeBindings bindings id) (.ok ()) w') :
    uniqueBindings bindings ∧ w' = w.store bindings id := by
  rcases h with ⟨hunique, ⟨-, h⟩ | ⟨⟨_, h⟩, -⟩⟩ | ⟨-, ⟨_, h⟩, -⟩
  · exact ⟨hunique, h⟩
  · cases h
  · cases h

lemma writeBindings_error {bindings : List RuntimeBinding} {id : String}
    (h : Outcome w (.writeBindings bindings id) (.error e) w') :
    w' = w ∨ uniqueBindings bindings ∧ w' = w.store bindings id := by
  rcases h with ⟨hunique, ⟨h, -⟩ | ⟨-, h | h⟩⟩ | ⟨-, -, h⟩
  · cases h
  · exact .inl h
  · exact .inr ⟨hunique, h⟩
  · exact .inl h

lemma writtenInPlace_ok {α : Type} {write : List α → World} {lines : List α}
    (h : WrittenInPlace write lines w (.ok ()) w') : w' = write lines := by
  rcases h with ⟨-, h⟩ | ⟨⟨_, h⟩, -⟩
  · exact h
  · cases h

lemma writeBindingsText_ok {bindings : List RuntimeBinding} {id : String}
    (h : Outcome w (.writeBindingsText bindings id) (.ok ()) w') :
    w' = w.store bindings id := by
  rcases h with ⟨-, h⟩ | ⟨⟨_, h⟩, -⟩
  · exact h
  · cases h

lemma readSite_ok {site : Site} (h : Outcome w (.readSite phase account) (.ok site) w') :
    w' = w ∧ w.sites account = some site := by
  obtain ⟨hworld, ⟨found, hfound, hanswer⟩ | ⟨_, hanswer⟩⟩ := h
  · cases hanswer
    exact ⟨hworld, hfound⟩
  · cases hanswer

lemma readState_ok {state : Option DevState} (h : Outcome w (.readState target) (.ok state) w') :
    w' = w ∧ state = w.states target := by
  obtain ⟨hworld, hanswer | ⟨_, hanswer⟩⟩ := h
  · exact ⟨hworld, Except.ok.inj hanswer⟩
  · cases hanswer

lemma replaced_ok {w₁ : World} (h : Replaced w w₁ (.ok ()) w') : w' = w₁ := by
  rcases h with ⟨-, h⟩ | ⟨⟨_, h⟩, -⟩
  · exact h
  · cases h

lemma replaced_error {w₁ : World} (h : Replaced w w₁ (.error e) w') : w' = w ∨ w' = w₁ := by
  rcases h with ⟨h, -⟩ | ⟨-, h⟩
  · cases h
  · exact h

lemma unlinkState_ok (h : Outcome w (.unlinkState target) (.ok ()) w') :
    w' = w.setState target none := by
  rcases h with ⟨-, h⟩ | ⟨⟨_, h⟩, -⟩
  · exact h
  · cases h

lemma unlinkState_error (h : Outcome w (.unlinkState target) (.error e) w') : w' = w := by
  rcases h with ⟨h, -⟩ | ⟨-, h⟩
  · cases h
  · exact h

end answers

/-! ## Apache sites -/

/-- `apache_route_path`: the account that names a site. -/
def siteAccount (account : String) : Except Raised String :=
  match validateLinuxAccount account with
  | some account => .ok account
  | none => .error .badAccount

/-- `parse_apache_route` -/
def parseApacheRoute (linuxAccount : String) : Run ApacheRoute := do
  let account ← Program.ofExcept (siteAccount linuxAccount)
  let site ← (Op.readSite .check account).run
  Program.ofExcept (parseSite site)

/-- Write a site and have Apache take it; a site that it refuses is taken back.  After a reload that
fails the host is reloaded once more, by `set_apache_host` after another `configtest`. -/
def installSite (phase : Phase) (account : String) (original updated : Site) (again : Run Unit) :
    Run Unit := do
  (Op.backupSite phase account).run
  (Op.writeSite phase account updated).run
  if !(← (Op.configtest phase).run) then
    (Op.restoreSite phase account original).run
    throw .apacheRefused
  else if !(← (Op.reload phase).run) then
    (Op.restoreSite phase account original).run
    again
    let _ ← (Op.reload .again).run
    throw .apacheRefused
  else
    return ()

/-- The `configtest` whose outcome `set_apache_host` does not look at. -/
def configtestAgain : Run Unit := do
  let _ ← (Op.configtest .again).run
  return ()

/-- `set_apache_proxy_port` -/
def setApacheProxyPort (linuxAccount : String) (port : Nat) : Run Unit := do
  let account ← Program.ofExcept (siteAccount linuxAccount)
  let original ← (Op.readSite .change account).run
  let (updated, oldPort) ← Program.ofExcept (replaceProxyPort original port)
  if oldPort = port then
    return ()
  else
    installSite .change account original updated (return ())

/-- `set_apache_host` -/
def setApacheHost (phase : Phase) (linuxAccount host : String) : Run Unit := do
  let account ← Program.ofExcept (siteAccount linuxAccount)
  let original ← (Op.readSite phase account).run
  let (updated, oldHost) ← Program.ofExcept (replaceServerName original host)
  if some oldHost = validatePublicHost host then
    return ()
  else
    installSite phase account original updated configtestAgain

/-! ## Changing a public host -/

/-- The binding of a `set-public-host`, made field by field. -/
def RuntimeBinding.withPublicHost (binding : RuntimeBinding) (host : String) : RuntimeBinding where
  instanceId := binding.instanceId
  linuxAccount := binding.linuxAccount
  publicHost := host
  family := binding.family
  runtimeClass := binding.runtimeClass
  gatewayPort := binding.gatewayPort
  bridgePort := binding.bridgePort
  enabled := binding.enabled

/-- On a managed binding nothing is left out. -/
lemma withPublicHost_of_managed {binding : RuntimeBinding} (host : String)
    (haccepted : binding.accepted = true) (hmanaged : binding.upstreamKind = .managedRootful) :
    binding.withPublicHost host = { binding with publicHost := host } := by
  obtain ⟨howner, hcontainer⟩ := unnamed_of_managed haccepted hmanaged
  obtain ⟨instanceId, linuxAccount, publicHost, family, runtimeClass, gatewayPort, bridgePort,
    enabled, upstreamKind, upstreamOwner, upstreamContainer⟩ := binding
  obtain rfl : upstreamKind = .managedRootful := hmanaged
  obtain rfl : upstreamOwner = "" := howner
  obtain rfl : upstreamContainer = "" := hcontainer
  rfl

/-- Write the bindings; when that fails, write the old text and put the old host back. -/
def writeOrCompensate (oldText rows : List RuntimeBinding) (binding : RuntimeBinding) : Run Unit :=
  tryCatch
    (Op.writeBindings rows binding.instanceId).run
    fun e => do
      (Op.writeBindingsText oldText binding.instanceId).run
      setApacheHost .compensate binding.linuxAccount binding.publicHost
      throw e

/-- The `try` of `cmd_binding_set_public_host`, with a host that is validated. -/
def setPublicHost (target host : String) : Run Unit := do
  let oldText ← Op.readBindingsText.run
  let bindings ← Op.loadBindings.run
  let binding ← Program.ofExcept (getRuntimeBinding target (← Op.loadBindings.run))
  let replacement := binding.withPublicHost host
  let rows ← Program.ofExcept (replaceRuntimeBinding bindings binding.instanceId replacement)
  setApacheHost .change binding.linuxAccount host
  writeOrCompensate oldText rows binding
  let after ← parseApacheRoute binding.linuxAccount
  Program.ofExcept (apacheRouteChecks replacement after)

/-- `cmd_binding_set_public_host`: the exit code. -/
def cmdBindingSetPublicHost (target host : String) : Run Nat := do
  if !(← Op.isRoot.run) then
    return 2
  else
    match validatePublicHost host with
    | none => throw .badHost
    | some host =>
        match ← attempt (setPublicHost target host) with
        | .error _ => return 1
        | .ok () => return 0

/-! ## Switching to a developer's upstream -/

/-- `_target`: the binding of a Hermes dev target. -/
def loadTarget (target : String) : Run RuntimeBinding := do
  let binding ← Program.ofExcept (getRuntimeBinding target (← Op.loadBindings.run))
  let manifest ← (Op.loadManifest binding.linuxAccount).run
  if manifest.family ≠ binding.family ∨ manifest.runtimeClass ≠ binding.runtimeClass ∨
      ¬"dev-".toList <+: target.toList ∨ manifest.family ≠ "hermes" ∨
      manifest.runtimeClass ≠ "dev" ∨ manifest.sourceMode = false then
    throw .notDevTarget
  else
    return binding

/-- What both actions know before they start. -/
structure Switch where
  target : String
  /-- `desired.route` -/
  desired : RuntimeBinding
  route : ApacheRoute

/-- The intent of an apply that was not finished is removed, if the managed baseline is there. -/
def clearPrepared (switch : Switch) : Option DevState → Run (Option DevState)
  | none => return none
  | some state =>
      if state.status ≠ .prepared then
        return some state
      else if state.target ≠ switch.target ∨ state.instanceId ≠ switch.desired.instanceId ∨
          state.rollbackBinding ≠ switch.desired ∨
          switch.desired.upstreamKind ≠ .managedRootful ∨
          switch.route.gatewayPort ≠ switch.desired.gatewayPort then
        throw .preparedMismatch
      else do
        (Op.unlinkState switch.target).run
        return none

/-- The upstream of a developer. -/
structure Upstream where
  owner : String
  container : String
  port : Nat
  revision : String

/-- The state that an apply writes. -/
def Switch.state (switch : Switch) (upstream : Upstream) (status : DevStatus) : DevState where
  status := status
  target := switch.target
  instanceId := switch.desired.instanceId
  owner := upstream.owner
  container := upstream.container
  sourceRevision := upstream.revision
  rootlessPort := upstream.port
  rollbackBinding := switch.desired

/-- The binding that an apply writes. -/
def Switch.replacement (switch : Switch) (upstream : Upstream) : RuntimeBinding :=
  { switch.desired with
    gatewayPort := upstream.port
    upstreamKind := .developerRootless
    upstreamOwner := upstream.owner
    upstreamContainer := upstream.container }

/-- The inner `try` of an apply. -/
def applySwitch (switch : Switch) (upstream : Upstream) (bindings : List RuntimeBinding) :
    Run Unit := do
  let rows ← Program.ofExcept
    (replaceRuntimeBinding bindings switch.desired.instanceId (switch.replacement upstream))
  (Op.writeBindings rows switch.desired.instanceId).run
  setApacheProxyPort switch.target upstream.port
  (Op.writeState switch.target (switch.state upstream .active)).run

/-- The old port, if the site does not have it. -/
def restorePort (switch : Switch) : Run Unit := do
  if (← parseApacheRoute switch.target).gatewayPort ≠ switch.route.gatewayPort then
    setApacheProxyPort switch.target switch.route.gatewayPort
  else
    return ()

/-- The abort of an apply. -/
def abortSwitch (switch : Switch) (bindings : List RuntimeBinding) : Run Unit := do
  (Op.writeBindings bindings switch.desired.instanceId).run
  restorePort switch
  let restored ← loadTarget switch.target
  let route ← parseApacheRoute switch.target
  if restored ≠ switch.desired ∨ route.gatewayPort ≠ switch.route.gatewayPort then
    throw .abortMismatch
  else
    (Op.unlinkState switch.target).run

/-- The upstream that an apply switches to. -/
def inspectUpstream (owner container : String) : Run Upstream := do
  if container ≠ owner ++ "-hermes-src" then
    throw .badContainer
  else
    let (port, revision) ← (Op.inspectRootless owner container).run
    (Op.probe port).run
    return { owner := owner, container := container, port := port, revision := revision }

/-- The action `apply`, as root. -/
def applyUpstream (switch : Switch) (state : Option DevState) (container : String) : Run Unit := do
  let owner ← Op.sudoUser.run
  if owner ∈ ["", "root", "svcops"] ∨ state.isSome ∨
      switch.desired.upstreamKind ≠ .managedRootful then
    throw .applyRefused
  else
    let upstream ← inspectUpstream owner container
    (Op.writeState switch.target (switch.state upstream .prepared)).run
    let bindings ← Op.loadBindings.run
    tryCatch (applySwitch switch upstream bindings) fun applyExc => do
      tryCatch (abortSwitch switch bindings) fun rollbackExc =>
        throw (.abortFailed applyExc rollbackExc)
      throw applyExc

/-- The old port; when that fails the bindings that were there are written back. -/
def restoreOrWriteBack (switch : Switch) (old : RuntimeBinding) (bindings : List RuntimeBinding) :
    Run Unit :=
  tryCatch (setApacheProxyPort switch.target old.gatewayPort) fun e => do
    (Op.writeBindings bindings switch.desired.instanceId).run
    throw e

/-- The action `rollback`, as root. -/
def rollbackUpstream (switch : Switch) (state : Option DevState) : Run Unit := do
  match state with
  | none => throw .rollbackRefused
  | some state =>
      if state.status ≠ .active ∨ switch.desired.upstreamKind ≠ .developerRootless then
        throw .rollbackRefused
      else
        let old := state.rollbackBinding
        let bindings ← Op.loadBindings.run
        let rows ← Program.ofExcept
          (replaceRuntimeBinding bindings switch.desired.instanceId old)
        (Op.writeBindings rows switch.desired.instanceId).run
        restoreOrWriteBack switch old bindings
        (Op.unlinkState switch.target).run

/-- The actions that change something. -/
inductive Action where
  | apply (container : String)
  | rollback
  deriving DecidableEq, Repr

/-- The `try` of `cmd_dev_upstream`, for its actions. -/
def devUpstream (target : String) (action : Action) : Run Unit := do
  let desired ← loadTarget target
  let route ← parseApacheRoute desired.linuxAccount
  let switch : Switch := { target := target, desired := desired, route := route }
  let found ← (Op.readState target).run
  match action with
  | .apply container =>
      let state ← clearPrepared switch found
      if !(← Op.isRoot.run) then
        throw .notRoot
      else
        applyUpstream switch state container
  | .rollback =>
      if !(← Op.isRoot.run) then
        throw .notRoot
      else
        rollbackUpstream switch found

/-- `cmd_dev_upstream`: the exit code. -/
def cmdDevUpstream (target : String) (action : Action) : Run Nat := do
  match ← attempt (devUpstream target action) with
  | .error _ => return 1
  | .ok () => return 0

/-! ## Executing the commands -/

/-- A host with an upstream on some port, where these operations raise and all others succeed; a
text that cannot be written leaves an empty file. -/
structure Host where
  user : String
  port : Nat
  raises : Op → Bool

/-- The answers of such a host. -/
def Host.answer (host : Host) (op : Op) (w : World) : Except Raised op.Res × World :=
  if host.raises op then
    (.error .outside, match op with
      | .writeBindingsText _ id => w.store [] id
      | _ => w)
  else
    match op with
    | .isRoot => (.ok true, w)
    | .sudoUser => (.ok host.user, w)
    | .readBindingsText => (.ok w.bindings, w)
    | .loadBindings => (if Loadable w.bindings then .ok w.bindings else .error .outside, w)
    | .writeBindings bindings id =>
        if uniqueBindings bindings then (.ok (), w.store bindings id)
        else (.error .duplicate, w)
    | .writeBindingsText bindings id => (.ok (), w.store bindings id)
    | .readSite _ account =>
        match w.sites account with
        | some site => (.ok site, w)
        | none => (.error .outside, w)
    | .backupSite .. => (.ok (), w)
    | .writeSite _ account site => (.ok (), w.setSite account site)
    | .configtest _ => (.ok true, w)
    | .reload _ => (.ok true, w)
    | .restoreSite _ account site => (.ok (), w.setSite account site)
    | .loadManifest _ =>
        (.ok { family := "hermes", runtimeClass := "dev", sourceMode := true }, w)
    | .readState target => (.ok (w.states target), w)
    | .writeState target state => (.ok (), w.setState target (some state))
    | .unlinkState target => (.ok (), w.setState target none)
    | .inspectRootless .. => (.ok (host.port, "revision"), w)
    | .probe _ => (.ok (), w)

lemma Host.answer_outcome (host : Host) (op : Op) (w : World) :
    Outcome w op (host.answer op w).1 (host.answer op w).2 := by
  unfold Host.answer
  by_cases hraises : host.raises op = true
  · rw [if_pos hraises]
    cases op with
    | readBindingsText => exact ⟨rfl, .inr ⟨_, rfl⟩⟩
    | loadBindings => exact ⟨rfl, .inr ⟨_, rfl⟩⟩
    | writeBindings bindings id =>
        by_cases hunique : uniqueBindings bindings
        · exact .inl ⟨hunique, .inr ⟨⟨_, rfl⟩, .inl rfl⟩⟩
        · exact .inr ⟨hunique, ⟨_, rfl⟩, rfl⟩
    | writeBindingsText bindings id =>
        exact .inr ⟨⟨_, rfl⟩, .inr ⟨[], List.nil_prefix, rfl⟩⟩
    | readSite => exact ⟨rfl, .inr ⟨_, rfl⟩⟩
    | writeSite => exact .inr ⟨⟨_, rfl⟩, .inl rfl⟩
    | restoreSite => exact .inr ⟨⟨_, rfl⟩, .inl rfl⟩
    | readState => exact ⟨rfl, .inr ⟨_, rfl⟩⟩
    | writeState => exact .inr ⟨⟨_, rfl⟩, .inl rfl⟩
    | unlinkState => exact .inr ⟨⟨_, rfl⟩, rfl⟩
    | _ => exact rfl
  · rw [if_neg hraises]
    cases op with
    | readBindingsText => exact ⟨rfl, .inl rfl⟩
    | loadBindings =>
        refine ⟨rfl, ?_⟩
        by_cases hloadable : Loadable w.bindings
        · exact .inl ⟨if_pos hloadable, hloadable⟩
        · exact .inr ⟨.outside, if_neg hloadable⟩
    | writeBindings bindings id =>
        dsimp only
        by_cases hunique : uniqueBindings bindings
        · rw [if_pos hunique]
          exact .inl ⟨hunique, .inl ⟨rfl, rfl⟩⟩
        · rw [if_neg hunique]
          exact .inr ⟨hunique, ⟨_, rfl⟩, rfl⟩
    | writeBindingsText => exact .inl ⟨rfl, rfl⟩
    | readSite phase account =>
        show _ = w ∧ _
        dsimp only
        cases hsite : w.sites account with
        | none => exact ⟨rfl, .inr ⟨_, rfl⟩⟩
        | some site => exact ⟨rfl, .inl ⟨site, rfl, rfl⟩⟩
    | writeSite => exact .inl ⟨rfl, rfl⟩
    | restoreSite => exact .inl ⟨rfl, rfl⟩
    | readState => exact ⟨rfl, .inl rfl⟩
    | writeState => exact .inl ⟨rfl, rfl⟩
    | unlinkState => exact .inl ⟨rfl, rfl⟩
    | _ => exact rfl

end AgentRuntimeOps.Routing
