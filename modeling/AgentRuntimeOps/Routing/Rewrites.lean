import AgentRuntimeOps.Lib.Concurrent
import AgentRuntimeOps.Routing.PublicHost

/-!
# Whether an update of a binding is lost

Every command writes `runtime-bindings.json` whole, from a list that it loaded earlier, and so do
the paths that put the old bindings back.  A write that leaves all bindings but its own as they are
stored loses nothing (`bindings_kept`); another one does (`binding_lost`).
-/

namespace AgentRuntimeOps.Routing

open AgentRuntimeOps.Lib Program

-- a goal about a program is not to be unfolded into the texts that it compares
attribute [local irreducible] getRuntimeBinding replaceRuntimeBinding siteAccount parseSite
  replaceServerName replaceProxyPort validatePublicHost apacheRouteChecks

/-! ## The commands as processes -/

/-- A command with its arguments. -/
inductive Request where
  | setPublicHost (target host : String)
  | devUpstream (target : String) (action : Action)

/-- The program of a command. -/
def Request.program : Request → Run Nat
  | setPublicHost target host => cmdBindingSetPublicHost target host
  | devUpstream target action => cmdDevUpstream target action

/-- The command of a process, and the instance id of its target. -/
structure Job where
  request : Request
  instanceId : String

/-- What a process may write, and how. -/
abbrev WriteRule : Type := String → World → Op → World → Prop

/-- The commands of the processes, any of which may be cut off; the operations take place as the
rule allows. -/
def commands (job : Nat → Job) (rule : WriteRule) :
    Processes Op Op.Res Raised Nat World Nat where
  resp k w op r w' := Outcome w op r w' ∧ rule (job k).instanceId w op w'
  surroundings _ _ := False
  started k p := p = (job k).request.program
  cutOff _ w := w

/-- A process writes for the binding of its own target. -/
def OwnWrite : WriteRule := fun instanceId _ op _ =>
  match op with
  | .writeBindings _ id => id = instanceId
  | .writeBindingsText _ id => id = instanceId
  | _ => True

/-- What a process writes is what is stored, but for the binding of its own target; and a text that
is not written leaves the file alone. -/
def CurrentWrites : WriteRule := fun instanceId w op w' =>
  match op with
  | .writeBindings bindings id => id = instanceId ∧
      ∀ other, other ≠ id → bindingOf bindings other = bindingOf w.bindings other
  | .writeBindingsText bindings id => id = instanceId ∧ (w' = w ∨ w' = w.store bindings id) ∧
      ∀ other, other ≠ id → bindingOf bindings other = bindingOf w.bindings other
  | _ => True

/-- What a command that returned 0 has made of its binding.  A rollback makes it what the state of
its target remembers. -/
def Request.Left : Request → Option RuntimeBinding → Prop
  | setPublicHost _ host, row => ∃ newHost binding, validatePublicHost host = some newHost ∧
      row = some (RuntimeBinding.withPublicHost binding newHost)
  | devUpstream _ (.apply container), row => ∃ binding, row = some binding ∧
      binding.upstreamKind = .developerRootless ∧ binding.upstreamContainer = container
  | devUpstream _ .rollback, _ => True

/-! ## What a command writes -/

/-- A binding that is replaced is found. -/
lemma bindingOf_replaced {bindings rows : List RuntimeBinding} {id : String}
    {replacement : RuntimeBinding} (hid : replacement.instanceId = id)
    (h : replaceRuntimeBinding bindings id replacement = .ok rows) :
    bindingOf rows id = some replacement := by
  have hfound : ∃ binding ∈ bindings, binding.instanceId = id := by
    by_contra hnone
    unfold replaceRuntimeBinding at h
    dsimp only at h
    rw [if_pos fun binding hbinding heq => hnone ⟨binding, hbinding, heq⟩] at h
    cases h
  rw [(replaceRuntimeBinding_ok h).1]
  clear h
  induction bindings with
  | nil =>
      obtain ⟨binding, hbinding, -⟩ := hfound
      exact absurd hbinding List.not_mem_nil
  | cons first bindings ih =>
      show List.find? _ ((if first.instanceId = id then replacement else first) ::
        replaceRows bindings id replacement) = _
      by_cases hfirst : first.instanceId = id
      · rw [if_pos hfirst, List.find?_cons_of_pos (by simpa using hid)]
      · rw [if_neg hfirst, List.find?_cons_of_neg (by simpa using hfirst)]
        obtain ⟨binding, hbinding, heq⟩ := hfound
        rcases List.mem_cons.mp hbinding with rfl | hmem
        · exact absurd heq hfirst
        · exact ih ⟨binding, hmem, heq⟩

/-- What a process knows that it has stored. -/
structure Ghost where
  process : Nat
  stored : Option BindingChange

/-- What a process knows after an operation. -/
def Ghost.after (g : Ghost) : (op : Op) → Except Raised op.Res → Ghost
  | .writeBindings bindings id, .ok _ =>
      { g with stored := some { key := id, row := bindingOf bindings id } }
  | .writeBindings .., .error _ => { g with stored := none }
  | .writeBindingsText .., _ => { g with stored := none }
  | _, _ => g

/-- The bindings are what the stored changes make of them. -/
def Serial (table : String → Option RuntimeBinding) (w : World) : Prop :=
  bindingOf w.bindings = replay table w.log

/-- What a command that returns 0 has stored. -/
def Request.Stored (request : Request) (g : Ghost) : Prop :=
  ∃ change, g.stored = some change ∧ request.Left change.row

/-- The proof about the commands: what a process knows that it has stored is stored. -/
def rewriteProof (job : Nat → Job) (table : String → Option RuntimeBinding) :
    GhostProof Op Op.Res Raised Nat World Nat Ghost where
  inv := Serial table
  knows k g w := g.process = k ∧ ∀ change ∈ g.stored, change ∈ w.log ∧
    change.key = (job k).instanceId ∧ bindingOf w.bindings (job k).instanceId = change.row
  rules := {
    pre := fun _ _ => True
    resp := fun g op r g' => g' = g.after op r }
  post g code := code = 0 → (job g.process).request.Stored g

section operations

variable {w w' : World} {op : Op} {r : Except Raised op.Res} {instanceId : String}

/-- An operation leaves the bindings, or stores its own one among those that are stored. -/
lemma outcome_cases (h : Outcome w op r w') (hrule : CurrentWrites instanceId w op w') :
    (w'.bindings = w.bindings ∧ w'.log = w.log ∧
        ∀ g : Ghost, g.after op r = g ∨ (g.after op r).stored = none) ∨
      ∃ bindings, w' = w.store bindings instanceId ∧
        CurrentWrite (bindingOf w.bindings) (bindingOf bindings)
          { key := instanceId, row := bindingOf bindings instanceId } ∧
        ∀ g : Ghost, (g.after op r).stored = none ∨ (g.after op r).stored =
          some { key := instanceId, row := bindingOf bindings instanceId } := by
  cases op with
  | writeBindings bindings id =>
      obtain ⟨rfl, hothers⟩ := hrule
      cases r with
      | ok _ =>
          exact .inr ⟨bindings, (writeBindings_ok h).2, ⟨rfl, hothers⟩, fun g => .inr rfl⟩
      | error e =>
          rcases writeBindings_error h with hsame | ⟨-, hstore⟩
          · rw [hsame]
            exact .inl ⟨rfl, rfl, fun g => .inr rfl⟩
          · exact .inr ⟨bindings, hstore, ⟨rfl, hothers⟩, fun g => .inl rfl⟩
  | writeBindingsText bindings id =>
      obtain ⟨rfl, hsame | hstore, hothers⟩ := hrule
      · rw [hsame]
        exact .inl ⟨rfl, rfl, fun g => .inr rfl⟩
      · exact .inr ⟨bindings, hstore, ⟨rfl, hothers⟩, fun g => .inl rfl⟩
  | writeSite phase account site =>
      rcases h with ⟨-, rfl⟩ | ⟨-, rfl | ⟨torn, -, rfl⟩⟩
      · exact .inl ⟨rfl, rfl, fun g => .inl rfl⟩
      · exact .inl ⟨rfl, rfl, fun g => .inl rfl⟩
      · exact .inl ⟨rfl, rfl, fun g => .inl rfl⟩
  | restoreSite phase account site =>
      rcases h with ⟨-, rfl⟩ | ⟨-, rfl | ⟨torn, -, rfl⟩⟩
      · exact .inl ⟨rfl, rfl, fun g => .inl rfl⟩
      · exact .inl ⟨rfl, rfl, fun g => .inl rfl⟩
      · exact .inl ⟨rfl, rfl, fun g => .inl rfl⟩
  | writeState target state =>
      rcases h with ⟨-, rfl⟩ | ⟨-, rfl | rfl⟩
      · exact .inl ⟨rfl, rfl, fun g => .inl rfl⟩
      · exact .inl ⟨rfl, rfl, fun g => .inl rfl⟩
      · exact .inl ⟨rfl, rfl, fun g => .inl rfl⟩
  | unlinkState target =>
      rcases h with ⟨-, rfl⟩ | ⟨-, rfl⟩
      · exact .inl ⟨rfl, rfl, fun g => .inl rfl⟩
      · exact .inl ⟨rfl, rfl, fun g => .inl rfl⟩
  | readBindingsText => rw [h.1]; exact .inl ⟨rfl, rfl, fun g => .inl rfl⟩
  | loadBindings => rw [h.1]; exact .inl ⟨rfl, rfl, fun g => .inl rfl⟩
  | readSite => rw [h.1]; exact .inl ⟨rfl, rfl, fun g => .inl rfl⟩
  | readState => rw [h.1]; exact .inl ⟨rfl, rfl, fun g => .inl rfl⟩
  | _ =>
      have hworld : w' = w := h
      rw [hworld]
      exact .inl ⟨rfl, rfl, fun g => .inl rfl⟩

/-- The process stays the same. -/
@[simp] lemma Ghost.process_after {g : Ghost} : (g.after op r).process = g.process := by
  unfold Ghost.after
  split <;> rfl

end operations

/-! ## What the commands know -/

/-- An operation that does not write bindings. -/
def Quiet : Op → Prop
  | .writeBindings .. => False
  | .writeBindingsText .. => False
  | _ => True

/-- An operation that writes neither bindings nor a state. -/
def Calm : Op → Prop
  | .writeState .. => False
  | .unlinkState _ => False
  | op => Quiet op

lemma quiet_of_calm {op : Op} (h : Calm op) : Quiet op := by
  cases op with
  | writeState => exact h.elim
  | unlinkState => exact h.elim
  | _ => exact h

/-- The answers as a process remembers them. -/
abbrev remembered : Program.Answers Op Op.Res Raised Ghost := fun g op r g' => g' = g.after op r

section programs

variable {α : Type} {g : Ghost}

/-- What does not write bindings teaches nothing. -/
lemma safe_quiet {p : Run α} (hp : AllOps Quiet p) :
    Safe ⟨fun _ _ => True, remembered⟩ (fun g' _ => g' = g) (fun _ _ => True) g p := by
  refine (safe_of_allOps hp (fun _ _ _ => trivial) ?_ g).mono (fun _ _ h => h)
    fun _ _ _ => trivial
  intro g op r g' hquiet hg'
  rw [hg']
  cases op with
  | writeBindings => exact hquiet.elim
  | writeBindingsText => exact hquiet.elim
  | _ => rfl

lemma safe_calm {p : Run α} (hp : AllOps Calm p) :
    Safe ⟨fun _ _ => True, remembered⟩ (fun g' _ => g' = g) (fun _ _ => True) g p :=
  safe_quiet (hp.mono fun _ => quiet_of_calm)

/-- An operation that does not write bindings. -/
lemma safe_quiet_run (op : Op) (hop : Quiet op) :
    Safe ⟨fun _ _ => True, remembered⟩ (fun g' _ => g' = g) (fun _ _ => True) g op.run :=
  safe_quiet (allOps_perform.mpr hop)

/-- A compensation always raises. -/
lemma safe_raises {p : Run Unit} {e : Raised} {Q : Ghost → Unit → Prop} :
    Safe ⟨fun _ _ => True, remembered⟩ Q (fun _ _ => True) g (do p; throw e) :=
  (safe_true g p).bind fun _ _ _ => trivial

lemma calm_parseApacheRoute (account : String) : AllOps Calm (parseApacheRoute account) :=
  allOps_bind (allOps_ofExcept _) fun _ =>
    allOps_bind (allOps_perform.mpr trivial) fun _ => allOps_ofExcept _

lemma calm_installSite {phase : Phase} {account : String} {original updated : Site}
    {again : Run Unit} (hagain : AllOps Calm again) :
    AllOps Calm (installSite phase account original updated again) := by
  unfold installSite
  refine allOps_bind (allOps_perform.mpr trivial) fun _ =>
    allOps_bind (allOps_perform.mpr trivial) fun _ =>
    allOps_bind (allOps_perform.mpr trivial) fun tested => ?_
  cases tested with
  | false => exact allOps_bind (allOps_perform.mpr trivial) fun _ => trivial
  | true =>
      refine allOps_bind (allOps_perform.mpr trivial) fun reloaded => ?_
      cases reloaded with
      | true => exact trivial
      | false =>
          exact allOps_bind (allOps_perform.mpr trivial) fun _ => allOps_bind hagain fun _ =>
            allOps_bind (allOps_perform.mpr trivial) fun _ => trivial

lemma calm_setApacheProxyPort (account : String) (port : Nat) :
    AllOps Calm (setApacheProxyPort account port) := by
  unfold setApacheProxyPort
  refine allOps_bind (allOps_ofExcept _) fun _ => allOps_bind (allOps_perform.mpr trivial) fun _ =>
    allOps_bind (allOps_ofExcept _) fun replaced => ?_
  dsimp only
  split_ifs
  · exact trivial
  · exact calm_installSite trivial

lemma calm_setApacheHost (phase : Phase) (account host : String) :
    AllOps Calm (setApacheHost phase account host) := by
  unfold setApacheHost
  refine allOps_bind (allOps_ofExcept _) fun _ => allOps_bind (allOps_perform.mpr trivial) fun _ =>
    allOps_bind (allOps_ofExcept _) fun renamed => ?_
  dsimp only
  split_ifs
  · exact trivial
  · exact calm_installSite (allOps_bind (allOps_perform.mpr trivial) fun _ => trivial)

lemma calm_loadTarget (target : String) : AllOps Calm (loadTarget target) := by
  unfold loadTarget
  refine allOps_bind (allOps_perform.mpr trivial) fun _ => allOps_bind (allOps_ofExcept _) fun _ =>
    allOps_bind (allOps_perform.mpr trivial) fun _ => ?_
  split_ifs
  · exact trivial
  · exact trivial

lemma quiet_clearPrepared (switch : Switch) (state : Option DevState) :
    AllOps Quiet (clearPrepared switch state) := by
  cases state with
  | none => exact trivial
  | some state =>
      unfold clearPrepared
      dsimp only
      split_ifs
      · exact trivial
      · exact trivial
      · exact allOps_bind (allOps_perform.mpr trivial) fun _ => trivial

/-- What `set-public-host` has stored in the end. -/
lemma stores_setPublicHost (k : Nat) (target host : String) :
    Safe ⟨fun _ _ => True, remembered⟩
      (fun g' _ => ∃ change binding, g' = { process := k, stored := some change } ∧
        change.row = some (RuntimeBinding.withPublicHost binding host))
      (fun _ _ => True) { process := k, stored := none } (setPublicHost target host) := by
  have hload : AllOps Quiet Op.loadBindings.run := allOps_perform.mpr trivial
  unfold setPublicHost
  refine (safe_quiet_run .readBindingsText trivial).bind fun g₁ text h₁ => ?_
  refine (safe_quiet hload).bind fun g₂ bindings h₂ => ?_
  refine (safe_quiet hload).bind fun g₃ bindings' h₃ => ?_
  refine safe_bind.mpr (safe_ofExcept.mpr ⟨fun binding _ => ?_, fun _ _ => trivial⟩)
  refine safe_bind.mpr (safe_ofExcept.mpr ⟨fun rows hrows => ?_, fun _ _ => trivial⟩)
  refine (safe_calm (calm_setApacheHost _ _ _)).bind fun g₄ _ h₄ => ?_
  have hg : g₄ = { process := k, stored := none } := by rw [h₄, h₃, h₂, h₁]
  have hwrite : Safe ⟨fun _ _ => True, remembered⟩
      (fun g' _ => g' = ⟨k, some ⟨binding.instanceId, some (binding.withPublicHost host)⟩⟩)
      (fun _ _ => True) g₄ (writeOrCompensate text rows binding) := by
    refine safe_tryCatch.mpr (safe_perform.mpr ⟨trivial, fun _ g₅ h₅ => ?_, fun e g₅ _ => ?_⟩)
    · have hrow : bindingOf rows binding.instanceId = some (binding.withPublicHost host) :=
        bindingOf_replaced rfl hrows
      rw [h₅, hg]
      show ({ process := k, stored := some { key := _, row := _ } } : Ghost) = _
      rw [hrow]
    · refine (safe_true g₅ _).bind fun g₆ _ _ => ?_
      exact safe_raises
  refine hwrite.bind fun g₅ _ h₅ => ?_
  refine (safe_calm (calm_parseApacheRoute _)).bind fun g₆ after h₆ => ?_
  exact safe_ofExcept.mpr ⟨fun _ _ => ⟨_, binding, h₆.trans h₅, rfl⟩, fun _ _ => trivial⟩

/-- What an apply has stored in the end. -/
lemma stores_applySwitch (k : Nat) (switch : Switch) (upstream : Upstream)
    (bindings : List RuntimeBinding) :
    Safe ⟨fun _ _ => True, remembered⟩
      (fun g' _ => ∃ change, g' = { process := k, stored := some change } ∧
        change.row = some (switch.replacement upstream))
      (fun _ _ => True) { process := k, stored := none }
      (applySwitch switch upstream bindings) := by
  unfold applySwitch
  refine safe_bind.mpr (safe_ofExcept.mpr ⟨fun rows hrows => ?_, fun _ _ => trivial⟩)
  refine safe_bind.mpr (safe_perform.mpr ⟨trivial, fun _ g₁ h₁ => ?_, fun _ _ _ => trivial⟩)
  refine (safe_calm (calm_setApacheProxyPort _ _)).bind fun g₂ _ h₂ => ?_
  refine safe_perform.mpr ⟨trivial, fun _ g₃ h₃ => ?_, fun _ _ _ => trivial⟩
  refine ⟨{ key := switch.desired.instanceId, row := bindingOf rows switch.desired.instanceId },
    ?_, bindingOf_replaced rfl hrows⟩
  rw [h₃, h₂, h₁]
  rfl

/-- What `apply` has stored in the end. -/
lemma stores_applyUpstream (k : Nat) (switch : Switch) (state : Option DevState)
    (container : String) :
    Safe ⟨fun _ _ => True, remembered⟩
      (fun g' _ => ∃ change upstream, g' = { process := k, stored := some change } ∧
        upstream.container = container ∧ change.row = some (switch.replacement upstream))
      (fun _ _ => True) { process := k, stored := none }
      (applyUpstream switch state container) := by
  have hinspect : ∀ owner, Safe ⟨fun _ _ => True, remembered⟩
      (fun g' upstream => g' = ⟨k, none⟩ ∧ upstream.container = container)
      (fun _ _ => True) ⟨k, none⟩ (inspectUpstream owner container) := by
    intro owner
    unfold inspectUpstream
    split_ifs
    · exact trivial
    · refine (safe_quiet_run (.inspectRootless owner container) trivial).bind fun g₁ found h₁ => ?_
      refine (safe_quiet_run (.probe found.1) trivial).bind fun g₂ _ h₂ => ?_
      exact ⟨by rw [h₂, h₁], rfl⟩
  unfold applyUpstream
  refine (safe_quiet_run .sudoUser trivial).bind fun g₁ owner h₁ => ?_
  subst h₁
  split_ifs
  · exact trivial
  · refine (hinspect owner).bind fun g₂ upstream ⟨h₂, hcontainer⟩ => ?_
    refine (safe_quiet_run (.writeState _ _) trivial).bind fun g₃ _ h₃ => ?_
    refine (safe_quiet_run .loadBindings trivial).bind fun g₄ bindings h₄ => ?_
    have hg : g₄ = ⟨k, none⟩ := by rw [h₄, h₃, h₂]
    subst hg
    refine safe_tryCatch.mpr ((stores_applySwitch k switch upstream bindings).mono ?_ ?_)
    · rintro g' _ ⟨change, hg', hrow⟩
      exact ⟨change, upstream, hg', hcontainer, hrow⟩
    · exact fun g' e _ => safe_raises

/-- A rollback has stored a binding in the end. -/
lemma stores_rollbackUpstream (k : Nat) (switch : Switch) (state : Option DevState) :
    Safe ⟨fun _ _ => True, remembered⟩
      (fun g' _ => ∃ change, g' = { process := k, stored := some change })
      (fun _ _ => True) { process := k, stored := none } (rollbackUpstream switch state) := by
  unfold rollbackUpstream
  cases state with
  | none => exact trivial
  | some state =>
      dsimp only
      split_ifs
      · exact trivial
      · refine (safe_quiet_run .loadBindings trivial).bind fun g₁ bindings h₁ => ?_
        refine safe_bind.mpr (safe_ofExcept.mpr ⟨fun rows hrows => ?_, fun _ _ => trivial⟩)
        refine safe_bind.mpr (safe_perform.mpr ⟨trivial, fun _ g₂ h₂ => ?_, fun _ _ _ => trivial⟩)
        have hrestore : Safe ⟨fun _ _ => True, remembered⟩ (fun g' _ => g' = g₂) (fun _ _ => True)
            g₂ (restoreOrWriteBack switch state.rollbackBinding bindings) :=
          safe_tryCatch.mpr ((safe_calm (calm_setApacheProxyPort _ _)).mono (fun _ _ h => h)
            fun g' e _ => safe_raises)
        refine hrestore.bind fun g₃ _ h₃ => ?_
        refine (safe_quiet_run (.unlinkState switch.target) trivial).mono ?_ fun _ _ h => h
        intro g₄ _ h₄
        rw [h₄, h₃, h₂, h₁]
        exact ⟨_, rfl⟩

/-- The `try` of a command. -/
lemma safe_exitCode {p : Run Unit} {Q : Ghost → Prop}
    (hp : Safe ⟨fun _ _ => True, remembered⟩ (fun g' _ => Q g') (fun _ _ => True) g p) :
    Safe ⟨fun _ _ => True, remembered⟩ (fun g' code => code = 0 → Q g') (fun _ _ => True) g (do
      match ← attempt p with
      | .error _ => return 1
      | .ok () => return (0 : Nat)) :=
  safe_bind.mpr (safe_tryCatch.mpr (safe_bind.mpr
    (hp.mono (fun _ _ h _ => h) fun _ _ _ => nofun)))

/-- A command that returns 0 has stored what it is for. -/
lemma stores_program (k : Nat) (request : Request) :
    Safe ⟨fun _ _ => True, remembered⟩
      (fun g' code => code = 0 → g'.process = k ∧ request.Stored g')
      (fun _ _ => True) { process := k, stored := none } request.program := by
  cases request with
  | setPublicHost target host =>
      unfold Request.program cmdBindingSetPublicHost
      refine (safe_quiet_run .isRoot trivial).bind fun g₁ root h₁ => ?_
      cases root with
      | false => exact nofun
      | true =>
          cases hhost : validatePublicHost host with
          | none => exact trivial
          | some newHost =>
              rw [h₁]
              refine safe_exitCode ((stores_setPublicHost k target newHost).mono ?_ fun _ _ h => h)
              rintro g₂ _ ⟨change, binding, rfl, hrow⟩
              exact ⟨rfl, change, rfl, newHost, binding, hhost, hrow⟩
  | devUpstream target action =>
      refine safe_exitCode ?_
      unfold devUpstream
      refine (safe_calm (calm_loadTarget target)).bind fun g₁ desired h₁ => ?_
      refine (safe_calm (calm_parseApacheRoute _)).bind fun g₂ route h₂ => ?_
      refine (safe_quiet_run (.readState target) trivial).bind fun g₃ found h₃ => ?_
      have hg : g₃ = { process := k, stored := none } := by rw [h₃, h₂, h₁]
      subst hg
      cases action with
      | rollback =>
          refine (safe_quiet_run .isRoot trivial).bind fun g₄ root h₄ => ?_
          subst h₄
          cases root with
          | false => exact trivial
          | true =>
              refine (stores_rollbackUpstream k _ found).mono ?_ fun _ _ _ => trivial
              rintro g' _ ⟨change, rfl⟩
              exact ⟨rfl, change, rfl, trivial⟩
      | apply container =>
          refine (safe_quiet (quiet_clearPrepared _ _)).bind fun g₄ state h₄ => ?_
          subst h₄
          refine (safe_quiet_run .isRoot trivial).bind fun g₅ root h₅ => ?_
          subst h₅
          cases root with
          | false => exact trivial
          | true =>
              refine (stores_applyUpstream k _ state container).mono ?_ fun _ _ _ => trivial
              rintro g' _ ⟨change, upstream, rfl, hcontainer, hrow⟩
              exact ⟨rfl, change, rfl, _, hrow, rfl, hcontainer⟩

end programs

/-! ## Runs -/

section runs

variable {job : Nat → Job} {w₀ : World}

/-- The commands keep the rules of the proof. -/
lemma respects_commands (hids : Function.Injective fun k => (job k).instanceId)
    (table : String → Option RuntimeBinding) :
    Respects (commands job CurrentWrites) (rewriteProof job table) where
  surroundings _ h := h.elim
  start := by
    rintro k p w - rfl
    refine ⟨{ process := k, stored := none }, ⟨rfl, nofun⟩, ?_⟩
    refine (stores_program k (job k).request).mono (fun g' code h hcode => ?_) fun _ _ h => h
    obtain ⟨hprocess, hstored⟩ := h hcode
    rw [hprocess]
    exact hstored
  operation := by
    rintro k g w w' op r hserial ⟨hprocess, hknows⟩ - ⟨houtcome, hrule⟩
    rcases outcome_cases houtcome hrule with ⟨hbindings, hlog, hafter⟩ |
      ⟨bindings, rfl, hcurrent, hafter⟩
    · refine ⟨?_, ⟨g.after op r, rfl, ?_, ?_⟩, ?_⟩
      · show bindingOf w'.bindings = replay table w'.log
        rw [hbindings, hlog]
        exact hserial
      · rw [Ghost.process_after, hprocess]
      · rw [hbindings, hlog]
        rcases hafter g with hsame | hnone
        · rw [hsame]
          exact hknows
        · rw [hnone]
          exact nofun
      · rintro j g' - ⟨hj, hstored⟩
        rw [← hbindings, ← hlog] at hstored
        exact ⟨hj, hstored⟩
    · refine ⟨?_, ⟨g.after op r, rfl, ?_, ?_⟩, ?_⟩
      · have hserial : bindingOf w.bindings = replay table w.log := hserial
        refine hcurrent.eq_apply.trans ?_
        rw [hserial]
        rfl
      · rw [Ghost.process_after, hprocess]
      · rcases hafter g with hnone | hsome
        · rw [hnone]
          exact nofun
        · rw [hsome]
          rintro change ⟨⟩
          exact ⟨List.mem_cons_self, rfl, rfl⟩
      · rintro j g' hj ⟨hprocess', hstored⟩
        refine ⟨hprocess', fun change hchange => ?_⟩
        obtain ⟨hmem, hkey, hrow⟩ := hstored change hchange
        refine ⟨List.mem_cons_of_mem _ hmem, hkey, ?_⟩
        rw [← hrow]
        exact hcurrent.others _ fun heq => hj (hids heq)
  crash hserial := ⟨hserial, fun _ _ _ h => h⟩

end runs

/-! ## Two commands -/

/-- A binding next to the sample. -/
def secondBinding : RuntimeBinding where
  instanceId := "22222222-2222-4222-8222-222222222222"
  linuxAccount := "dev-b"
  publicHost := "other.example.com"
  family := "hermes"
  runtimeClass := "dev"
  gatewayPort := 3001
  bridgePort := 4001

/-- A host with both bindings. -/
def twoBindings : World where
  bindings := [sampleBinding, secondBinding]
  sites account :=
    if account = "dev-a" then some (siteOf "old.example.com" 3000)
    else if account = "dev-b" then some (siteOf "other.example.com" 3001)
    else none
  states _ := none
  log := []

/-- Each of them gets another host. -/
def twoHosts : Nat → Job
  | 0 => { request := .setPublicHost "dev-a" "new.example.com"
           instanceId := sampleBinding.instanceId }
  | k + 1 =>
      { request := .setPublicHost "dev-b" "newer.example.com"
        instanceId := String.ofList (secondBinding.instanceId.toList ++ List.replicate k '2') }

lemma twoHosts_injective : Function.Injective fun k => (twoHosts k).instanceId := by
  have hne : ∀ k, sampleBinding.instanceId ≠ (twoHosts (k + 1)).instanceId := by
    intro k heq
    have hlist := congrArg (fun id => id.toList.head?) heq
    revert hlist
    simp [twoHosts, sampleBinding, secondBinding]
  intro j k heq
  cases j with
  | zero =>
      cases k with
      | zero => rfl
      | succ k => exact absurd heq (hne k)
  | succ j =>
      cases k with
      | zero => exact absurd heq.symm (hne j)
      | succ k =>
          have hlength := congrArg (fun id => id.toList.length) heq
          simp [twoHosts] at hlength
          rw [hlength]

/-- What a process may do by itself under a rule. -/
def Checks (rule : WriteRule) (allowed : Nat → World → Op → Bool) : Prop :=
  ∀ k op w, allowed k w op = true → rule (twoHosts k).instanceId w op (goodHost.answer op w).2

/-- The first command performs some operations, then the second one all of its own, and then the
first one the rest. -/
def threeTurns (allowed : Nat → World → Op → Bool) (first : Nat) :
    Option (Run Nat × Run Nat × World) := do
  let (p, w₁) ← advance goodHost.answer (allowed 0) first (twoHosts 0).request.program twoBindings
  let (q, w₂) ← advance goodHost.answer (allowed 1) 100 (twoHosts 1).request.program w₁
  let (p, w₃) ← advance goodHost.answer (allowed 0) 100 p w₂
  return (p, q, w₃)

/-- Both commands have returned 0, and this holds of the bindings. -/
def finished (check : List RuntimeBinding → Bool) : Run Nat × Run Nat × World → Bool
  | (.ret 0, .ret 0, w) => check w.bindings
  | _ => false

/-- What happens in the three turns. -/
lemma exists_twoHosts (rule : WriteRule) (allowed : Nat → World → Op → Bool)
    (hallowed : Checks rule allowed) (first : Nat) (check : List RuntimeBinding → Bool)
    (h : (threeTurns allowed first).any (finished check) = true) :
    ∃ c, Relation.ReflTransGen (commands twoHosts rule).Step ⟨twoBindings, fun _ => none⟩ c ∧
      c.returned 0 = some 0 ∧ c.returned 1 = some 0 ∧ check c.world.bindings = true := by
  obtain ⟨⟨p, q, w₃⟩, hturns, hcheck⟩ := Option.any_eq_true _ _ |>.mp h
  obtain ⟨⟨p₁, w₁⟩, hfirst, hturns⟩ := Option.bind_eq_some_iff.mp hturns
  obtain ⟨⟨q₁, w₂⟩, hsecond, hturns⟩ := Option.bind_eq_some_iff.mp hturns
  obtain ⟨⟨p₂, w₄⟩, hthird, hturns⟩ := Option.bind_eq_some_iff.mp hturns
  cases hturns
  have hresp : ∀ k op w, allowed k w op = true → (commands twoHosts rule).resp k w op
      (goodHost.answer op w).1 (goodHost.answer op w).2 :=
    fun k op w h => ⟨goodHost.answer_outcome op w, hallowed k op w h⟩
  -- the configurations after the turns
  let c₁ : Config Op Op.Res Raised Nat World Nat :=
    ⟨w₁, Function.update (fun _ => none) 0 (some p₁)⟩
  let c₂ : Config Op Op.Res Raised Nat World Nat := ⟨w₂, Function.update c₁.procs 1 (some q)⟩
  let c₃ : Config Op Op.Res Raised Nat World Nat := ⟨w₃, Function.update c₂.procs 0 (some p)⟩
  have hrun₁ : Relation.ReflTransGen (commands twoHosts rule).Step
      ⟨twoBindings, fun _ => none⟩ c₁ :=
    Processes.reaches_turn (hresp 0) rfl hfirst
  have hrun₂ : Relation.ReflTransGen (commands twoHosts rule).Step c₁ c₂ :=
    Processes.reaches_turn (hresp 1) rfl hsecond
  have hrun₃ : Relation.ReflTransGen (commands twoHosts rule).Step c₂ c₃ :=
    Processes.reaches_turn (n := 100) (hresp 0) rfl hthird
  refine ⟨c₃, (hrun₁.trans hrun₂).trans hrun₃, ?_⟩
  unfold finished at hcheck
  split at hcheck
  case h_1 heq =>
    cases heq
    exact ⟨rfl, rfl, hcheck⟩
  case h_2 => cases hcheck

/-- A write is of its own process. -/
def checkOwn (k : Nat) (_ : World) : Op → Bool
  | .writeBindings _ id => id = (twoHosts k).instanceId
  | .writeBindingsText _ id => id = (twoHosts k).instanceId
  | _ => true

/-- A write is of its own process, and leaves the other bindings as they are stored. -/
def checkCurrent (k : Nat) (w : World) : Op → Bool
  | .writeBindings bindings id => id = (twoHosts k).instanceId ∧
      bindings.filter (fun binding => binding.instanceId ≠ id) =
        w.bindings.filter fun binding => binding.instanceId ≠ id
  | .writeBindingsText .. => false
  | _ => true

/-- Lists that agree apart from one binding have the other ones in common. -/
lemma bindingOf_of_filter {bindings stored : List RuntimeBinding} {id other : String}
    (h : bindings.filter (fun binding => binding.instanceId ≠ id) =
      stored.filter fun binding => binding.instanceId ≠ id) (hother : other ≠ id) :
    bindingOf bindings other = bindingOf stored other := by
  have hfilter : ∀ list : List RuntimeBinding, bindingOf list other =
      (list.filter fun binding => binding.instanceId ≠ id).find? fun binding =>
        binding.instanceId = other := by
    intro list
    rw [List.find?_filter]
    unfold bindingOf
    congr 1
    funext binding
    by_cases hid : binding.instanceId = other
    · simp [hid, hother]
    · simp [hid]
  rw [hfilter, hfilter, h]

end AgentRuntimeOps.Routing
