import AgentRuntimeOps.Runtime.Basic

/-!
# What each step obliges a proof to

One rule for each operation of a slot, in the form that `simp` uses: the obligation of the step is
that of each of its outcomes.  `Spec fault` is `Program.Safe` without a demand at interruptions.
-/

namespace AgentRuntimeOps.Runtime

open AgentRuntimeOps.Lib Program

variable [Host]

section rules

variable {pre : SlotState → Op → Prop} {fault : Faults} {E : SlotState → Raised → Prop}
  {w : SlotState}

/-- The general rule for an operation, with its outcomes spelled out. -/
lemma safe_run (op : Op) {Q : SlotState → op.Res → Prop} :
    Safe ⟨pre, Outcome fault⟩ Q E w op.run ↔
      pre w op ∧ (∀ a w', Outcome fault w op (.ok a) w' → Q w' a) ∧
        ∀ e w', Outcome fault w op (.error e) w' → E w' e := safe_perform

@[simp] lemma safe_check {c : Check} {Q : SlotState → Unit → Prop} :
    Safe ⟨pre, Outcome fault⟩ Q E w c.run ↔
      pre w (.check c) ∧ Q w () ∧ (fault w (.check c) false → ∀ e, E w e) := by
  refine (safe_run (.check c)).trans ?_
  refine and_congr_right fun _ => ⟨fun h => ⟨h.1 () w ⟨rfl, .inl rfl⟩, ?_⟩, ?_⟩
  · exact fun hf e => h.2 e w ⟨rfl, .inr hf⟩
  · rintro ⟨hok, herr⟩
    refine ⟨?_, ?_⟩
    · rintro a w' ⟨rfl, -⟩
      exact hok
    · rintro e w' ⟨rfl, hr | hf⟩
      · cases hr
      · exact herr hf e

@[simp] lemma safe_effect {e : Effect} {Q : SlotState → Unit → Prop} :
    Safe ⟨pre, Outcome fault⟩ Q E w e.run ↔
      pre w (.effect e) ∧ Q (e.apply w) () ∧
        (fault w (.effect e) false → ∀ detail, E w (.os detail)) ∧
        (fault w (.effect e) true → ∀ detail, E (e.apply w) (.os detail)) := by
  refine (safe_run (.effect e)).trans ?_
  refine and_congr_right fun _ => ⟨fun h => ⟨h.1 () _ (.inl ⟨rfl, rfl⟩), ?_, ?_⟩, ?_⟩
  · exact fun hf detail => h.2 _ w (.inr ⟨⟨detail, rfl⟩, .inl ⟨hf, rfl⟩⟩)
  · exact fun hf detail => h.2 _ _ (.inr ⟨⟨detail, rfl⟩, .inr ⟨hf, rfl⟩⟩)
  · rintro ⟨hok, hbefore, hafter⟩
    refine ⟨?_, ?_⟩
    · rintro a w' (⟨-, rfl⟩ | ⟨⟨detail, hr⟩, -⟩)
      · exact hok
      · cases hr
    · rintro x w' (⟨hr, -⟩ | ⟨⟨detail, hr⟩, ⟨hf, rfl⟩ | ⟨hf, rfl⟩⟩)
      · cases hr
      · cases hr
        exact hbefore hf detail
      · cases hr
        exact hafter hf detail

@[simp] lemma safe_clock {Q : SlotState → Int → Prop} :
    Safe ⟨pre, Outcome fault⟩ Q E w Op.clock.run ↔ pre w .clock ∧ ∀ t, Q w t := by
  refine (safe_run .clock).trans ?_
  refine and_congr_right fun _ => ⟨fun h t => h.1 t w ⟨⟨t, rfl⟩, rfl⟩, fun h => ⟨?_, ?_⟩⟩
  · rintro a w' ⟨-, rfl⟩
    exact h a
  · rintro e w' ⟨⟨t, hr⟩, -⟩
    cases hr

@[simp] lemma safe_token {Q : SlotState → Token → Prop} :
    Safe ⟨pre, Outcome fault⟩ Q E w Op.token.run ↔
      pre w .token ∧ Q { w with tokens := w.tokens + 1 } w.tokens := by
  refine (safe_run .token).trans ?_
  refine and_congr_right fun _ => ⟨fun h => h.1 _ _ ⟨rfl, rfl⟩, fun h => ⟨?_, ?_⟩⟩
  · rintro a w' ⟨hr, rfl⟩
    cases hr
    exact h
  · rintro e w' ⟨hr, -⟩
    cases hr

/-- The rule for a read. -/
lemma safe_read (op : Op) {answer : Except Raised op.Res} {faulty : Prop}
    {Q : SlotState → op.Res → Prop}
    (hop : ∀ r w', Outcome fault w op r w' ↔ Answered faulty answer r ∧ w' = w) :
    Safe ⟨pre, Outcome fault⟩ Q E w op.run ↔
      pre w op ∧ (∀ a, answer = .ok a → Q w a) ∧ (∀ e, answer = .error e → E w e) ∧
        (faulty → ∀ detail, E w (.os detail)) := by
  rw [safe_run op]
  simp only [hop, Answered]
  refine and_congr_right fun _ => ⟨fun h => ⟨?_, ?_, ?_⟩, ?_⟩
  · exact fun a ha => h.1 a w ⟨.inl ha.symm, rfl⟩
  · exact fun e he => h.2 e w ⟨.inl he.symm, rfl⟩
  · exact fun hf detail => h.2 _ w ⟨.inr ⟨hf, detail, rfl⟩, rfl⟩
  · rintro ⟨hok, herr, hfault⟩
    refine ⟨?_, ?_⟩
    · rintro a w' ⟨hr | ⟨-, detail, hr⟩, rfl⟩
      · exact hok a hr.symm
      · cases hr
    · rintro e w' ⟨hr | ⟨hf, detail, hr⟩, rfl⟩
      · exact herr e hr.symm
      · cases hr
        exact hfault hf detail

@[simp] lemma safe_readFile {file : Managed} {Q : SlotState → Option FileState → Prop} :
    Safe ⟨pre, Outcome fault⟩ Q E w (Op.readFile file).run ↔
      pre w (.readFile file) ∧ Q w (w.files file) ∧
        (fault w (.readFile file) false → ∀ detail, E w (.os detail)) := by
  refine (safe_read (.readFile file) fun _ _ => Iff.rfl).trans ?_
  simp

@[simp] lemma safe_readCanary {Q : SlotState → Option CanaryTransaction → Prop} :
    Safe ⟨pre, Outcome fault⟩ Q E w Op.readCanary.run ↔
      pre w .readCanary ∧ Q w w.canary ∧
        (fault w .readCanary false → ∀ detail, E w (.os detail)) := by
  refine (safe_read .readCanary fun _ _ => Iff.rfl).trans ?_
  simp

@[simp] lemma safe_readMarker {Q : SlotState → Option Marker → Prop} :
    Safe ⟨pre, Outcome fault⟩ Q E w Op.readMarker.run ↔
      pre w .readMarker ∧ (∀ m, w.loadMarker = .ok m → Q w m) ∧
        (∀ e, w.loadMarker = .error e → E w e) ∧
        (fault w .readMarker false → ∀ detail, E w (.os detail)) :=
  safe_read .readMarker fun _ _ => Iff.rfl

@[simp] lemma safe_readBackup {name : BackupName} {Q : SlotState → Backup → Prop} :
    Safe ⟨pre, Outcome fault⟩ Q E w (Op.readBackup name).run ↔
      pre w (.readBackup name) ∧ (∀ b, w.loadBackup name = .ok b → Q w b) ∧
        (∀ e, w.loadBackup name = .error e → E w e) ∧
        (fault w (.readBackup name) false → ∀ detail, E w (.os detail)) :=
  safe_read (.readBackup name) fun _ _ => Iff.rfl

@[simp] lemma safe_listBackups {Q : SlotState → List BackupName → Prop} :
    Safe ⟨pre, Outcome fault⟩ Q E w Op.listBackups.run ↔
      pre w .listBackups ∧ (∀ names, w.listBackups = .ok names → Q w names) ∧
        (∀ e, w.listBackups = .error e → E w e) ∧
        (fault w .listBackups false → ∀ detail, E w (.os detail)) :=
  safe_read .listBackups fun _ _ => Iff.rfl

@[simp] lemma safe_readContract {name : BackupName} {Q : SlotState → Contract → Prop} :
    Safe ⟨pre, Outcome fault⟩ Q E w (Op.readContract name).run ↔
      pre w (.readContract name) ∧ (∀ c, w.loadContract name = .ok c → Q w c) ∧
        (∀ e, w.loadContract name = .error e → E w e) ∧
        (fault w (.readContract name) false → ∀ detail, E w (.os detail)) :=
  safe_read (.readContract name) fun _ _ => Iff.rfl

@[simp] lemma safe_copyToStaging {file : Managed} {Q : SlotState → FileState → Prop} :
    Safe ⟨pre, Outcome fault⟩ Q E w (Op.copyToStaging file).run ↔
      pre w (.copyToStaging file) ∧ (∀ f, w.copyFile file = .ok f → Q w f) ∧
        (∀ e, w.copyFile file = .error e → E w e) ∧
        (fault w (.copyToStaging file) false → ∀ detail, E w (.os detail)) :=
  safe_read (.copyToStaging file) fun _ _ => Iff.rfl

@[simp] lemma safe_prepareRuntimeEnv {Q : SlotState → Unit → Prop} :
    Safe ⟨pre, Outcome fault⟩ Q E w Op.prepareRuntimeEnv.run ↔
      pre w .prepareRuntimeEnv ∧ ∀ content, Q (w.setFile .env content) () ∧
        (fault w .prepareRuntimeEnv false → ∀ e, E (w.setFile .env content) e) := by
  refine (safe_run .prepareRuntimeEnv).trans ?_
  refine and_congr_right fun _ => ⟨fun h content => ⟨h.1 () _ ⟨.inl rfl, content, rfl⟩, ?_⟩, ?_⟩
  · exact fun hf e => h.2 e _ ⟨.inr hf, content, rfl⟩
  · refine fun h => ⟨?_, ?_⟩
    · rintro a w' ⟨-, content, rfl⟩
      exact (h content).1
    · rintro e w' ⟨hr | hf, content, rfl⟩
      · cases hr
      · exact (h content).2 hf e

@[simp] lemma safe_docker {command : Docker} {Q : SlotState → Bool → Prop} :
    Safe ⟨pre, Outcome fault⟩ Q E w (Op.docker command).run ↔
      pre w (.docker command) ∧ Q (w.afterDocker command) (w.dockerAnswer command) ∧
        (fault w (.docker command) false → ∀ w', w.AfterFailedDocker command w' →
          Q w' false ∧ ∀ e, E w' e) := by
  refine (safe_run (.docker command)).trans ?_
  refine and_congr_right fun _ => ⟨fun h => ⟨h.1 _ _ (.inl ⟨rfl, rfl⟩), ?_⟩, ?_⟩
  · intro hf w' hw'
    refine ⟨h.1 false w' (.inr ⟨hf, by simp, hw'⟩), fun e => ?_⟩
    exact h.2 e w' (.inr ⟨hf, by simp, hw'⟩)
  · rintro ⟨hok, hfault⟩
    refine ⟨?_, ?_⟩
    · rintro a w' (⟨hr, rfl⟩ | ⟨hf, hr, hw'⟩)
      · cases hr
        exact hok
      · cases a with
        | true => exact absurd rfl hr
        | false => exact (hfault hf w' hw').1
    · rintro e w' (⟨hr, -⟩ | ⟨hf, -, hw'⟩)
      · cases hr
      · exact (hfault hf w' hw').2 e

@[simp] lemma safe_liveChecks {Q : SlotState → Bool → Prop} :
    Safe ⟨pre, Outcome fault⟩ Q E w Op.liveChecks.run ↔
      pre w .liveChecks ∧ Q w true ∧ (fault w .liveChecks false → Q w false ∧ ∀ e, E w e) := by
  refine (safe_run .liveChecks).trans ?_
  refine and_congr_right fun _ => ⟨fun h => ⟨h.1 true w ⟨.inl rfl, rfl⟩, fun hf => ⟨?_, ?_⟩⟩, ?_⟩
  · exact h.1 false w ⟨.inr hf, rfl⟩
  · exact fun e => h.2 e w ⟨.inr hf, rfl⟩
  · rintro ⟨hok, hfault⟩
    refine ⟨?_, ?_⟩
    · rintro a w' ⟨hr, rfl⟩
      cases a with
      | true => exact hok
      | false =>
          rcases hr with hr | hf
          · cases hr
          · exact (hfault hf).1
    · rintro e w' ⟨hr | hf, rfl⟩
      · cases hr
      · exact (hfault hf).2 e

end rules

/-! ## Executing a slot -/

/-- The outcome of an operation on a slot whose `broken` steps fail at once, and whose others
work. -/
def execute (broken : Op → Bool) (op : Op) (w : SlotState) : Except Raised op.Res × SlotState :=
  match op with
  | .check c => (if broken (.check c) then .error (.check "failed") else .ok (), w)
  | .effect e => if broken (.effect e) then (.error (.os "failed"), w) else (.ok (), e.apply w)
  | .clock => (.ok 0, w)
  | .token => (.ok w.tokens, { w with tokens := w.tokens + 1 })
  | .readFile file => (.ok (w.files file), w)
  | .readMarker => (w.loadMarker, w)
  | .readBackup name => (w.loadBackup name, w)
  | .listBackups => (w.listBackups, w)
  | .readContract name => (w.loadContract name, w)
  | .copyToStaging file => (w.copyFile file, w)
  | .readCanary => (.ok w.canary, w)
  | .prepareRuntimeEnv => (.ok (), w)
  | .importLegacyBackups => (.ok (), w)
  | .docker command =>
      if broken (.docker command) then (.ok false, w)
      else (.ok (w.dockerAnswer command), w.afterDocker command)
  | .liveChecks => (.ok (!broken .liveChecks), w)

lemma outcome_execute {broken : Op → Bool} {fault : Faults}
    (h : ∀ w op, broken op = true → fault w op false) (op : Op) (w : SlotState) :
    Outcome fault w op (execute broken op w).1 (execute broken op w).2 := by
  cases op with
  | check c =>
      cases hb : broken (.check c) with
      | true => exact ⟨rfl, .inr (h w _ hb)⟩
      | false => exact ⟨rfl, .inl (by simp [execute, hb])⟩
  | effect e =>
      cases hb : broken (.effect e) with
      | true =>
          have hrun : execute broken (.effect e) w = (.error (.os "failed"), w) := by
            simp [execute, hb]
          rw [hrun]
          exact .inr ⟨⟨_, rfl⟩, .inl ⟨h w _ hb, rfl⟩⟩
      | false =>
          have hrun : execute broken (.effect e) w = (.ok (), e.apply w) := by simp [execute, hb]
          rw [hrun]
          exact .inl ⟨rfl, rfl⟩
  | clock => exact ⟨⟨0, rfl⟩, rfl⟩
  | token => exact ⟨rfl, rfl⟩
  | readFile => exact ⟨.inl rfl, rfl⟩
  | readMarker => exact ⟨.inl rfl, rfl⟩
  | readBackup => exact ⟨.inl rfl, rfl⟩
  | listBackups => exact ⟨.inl rfl, rfl⟩
  | readContract => exact ⟨.inl rfl, rfl⟩
  | copyToStaging => exact ⟨.inl rfl, rfl⟩
  | readCanary => exact ⟨.inl rfl, rfl⟩
  | prepareRuntimeEnv => exact ⟨.inl rfl, w.files .env, by simp [execute, SlotState.setFile]⟩
  | importLegacyBackups => exact ⟨.inl rfl, [], by simp [execute]⟩
  | docker command =>
      cases hb : broken (.docker command) with
      | true =>
          have hrun : execute broken (.docker command) w = (.ok false, w) := by simp [execute, hb]
          rw [hrun]
          refine .inr ⟨h w _ hb, by simp, ?_⟩
          cases command with
          | up => exact ⟨w.containers, rfl⟩
          | down => exact ⟨w.containers, rfl⟩
          | config => rfl
          | projectResidue => rfl
      | false =>
          have hrun : execute broken (.docker command) w =
              (.ok (w.dockerAnswer command), w.afterDocker command) := by simp [execute, hb]
          rw [hrun]
          exact .inl ⟨rfl, rfl⟩
  | liveChecks =>
      cases hb : broken .liveChecks with
      | true => exact ⟨.inr (h w _ hb), rfl⟩
      | false => exact ⟨.inl (by simp [execute, hb]), rfl⟩

/-- Nothing is broken. -/
def nothingBroken : Op → Bool := fun _ => false

/-- A run in which nothing fails. -/
lemma ends_execute {α : Type} (fault : Faults) (p : Run α) (w : SlotState) :
    Ends (Outcome fault) p w (p.eval (execute nothingBroken) w).1
      (p.eval (execute nothingBroken) w).2 :=
  ends_eval (outcome_execute fun _ _ h => absurd h Bool.false_ne_true) p w

/-- A run in which the broken steps fail. -/
lemma ends_execute_broken {α : Type} (broken : Op → Bool) (p : Run α) (w : SlotState) :
    Ends (Outcome anyFault) p w (p.eval (execute broken) w).1 (p.eval (execute broken) w).2 :=
  ends_eval (outcome_execute fun _ _ _ => trivial) p w

/-! ## Specifications -/

/-- With the faults that `fault` admits, the program run from `w` returns with `Q` and raises
with `E`. -/
abbrev Spec {α : Type} (fault : Faults) (w : SlotState) (p : Run α) (Q : SlotState → α → Prop)
    (E : SlotState → Raised → Prop) : Prop :=
  Safe ⟨fun _ _ => True, Outcome fault⟩ Q E w p

end AgentRuntimeOps.Runtime
